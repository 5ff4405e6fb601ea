import Campus.Fault
import Campus.Store

/-! # Store access

A store as the services reach it: in order, or out of order, when every access fails.
-/
namespace Campus

/-- Trouble that keeps a store from being used: every access fails with a message, but for looking up the students that are
still at hand. -/
structure Outage where
  message : String
  atHand : List Student

structure Backend where
  store : Store
  outage : Option Outage

namespace Backend

def sound (store : Store) : Backend := ⟨store, none⟩

def read {α : Type} (b : Backend) (f : Store → α) : Except Fault α :=
  match b.outage with
  | some o => .error (.internal o.message)
  | none => .ok (f b.store)

def write {α : Type} (b : Backend) (f : Store → α × Store) : Except Fault α × Backend :=
  match b.outage with
  | some o => (.error (.internal o.message), b)
  | none =>
    let (a, store) := f b.store
    (.ok a, { b with store })

def student? (b : Backend) (id : Int64) : Except Fault (Option Student) :=
  match b.outage with
  | some o =>
    match o.atHand.find? fun s => s.id = id with
    | some s => .ok (some s)
    | none => .error (.internal o.message)
  | none => .ok (b.store.student? id)

end Backend

end Campus
