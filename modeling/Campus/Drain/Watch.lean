import Campus.Drain

/-! # A process under watch

A process with calls that are known by name. A call ends when it is let go of, or at an instant that was set for it.
-/
namespace Campus.Drain

/-- A process at an instant, with the calls that are held by name and the instants at which others will end. -/
structure Watch where
  now : Instant
  lifecycle : Lifecycle
  held : List String
  ends : List Instant
  deriving DecidableEq, Repr

namespace Watch

def fresh : Watch := ⟨0, .fresh, [], []⟩

/-- Begins a call under a name. A call that had the name ends. -/
def hold (w : Watch) (name : String) : Watch :=
  let l := w.lifecycle.enter
  { w with
    lifecycle := if w.held.contains name then l.leave else l
    held := name :: w.held.erase name }

def letGo (w : Watch) (name : String) : Watch :=
  if w.held.contains name then { w with lifecycle := w.lifecycle.leave, held := w.held.erase name } else w

def endAt (w : Watch) (name : String) (t : Instant) : Watch :=
  if w.held.contains name then
    { w with held := w.held.erase name, ends := (t :: w.ends).mergeSort fun a b => a ≤ b }
  else w

/-- Lets time pass; the calls that are due end. -/
def pass (w : Watch) (span : Span) : Watch :=
  let now := w.now + span
  let (due, later) := w.ends.partition (· ≤ now)
  { w with now, lifecycle := due.foldl (fun l _ => l.leave) w.lifecycle, ends := later }

def drain (w : Watch) (timeout : Span) : Bool × Watch :=
  let r := await w.lifecycle w.now timeout w.ends
  (r.drained, { w with now := r.now, lifecycle := r.lifecycle, ends := r.left })

end Watch

end Campus.Drain
