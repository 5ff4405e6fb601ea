import Campus.Record

/-! # Tables

Rows under keys. A key has at most one row. Rows are listed in increasing order of their keys, whatever the order in which
they came in.
-/
namespace Campus

/-- Rows under keys, in the order in which the keys were first used. -/
structure Table (κ ρ : Type) where
  entries : List (κ × ρ)
  deriving DecidableEq

namespace Table

variable {κ ρ : Type} [DecidableEq κ]

def empty : Table κ ρ := ⟨[]⟩

def get? (t : Table κ ρ) (k : κ) : Option ρ := (t.entries.find? fun e => e.1 = k).map (·.2)

def rows (t : Table κ ρ) : List ρ := t.entries.map (·.2)

def put (t : Table κ ρ) (k : κ) (row : ρ) : Table κ ρ :=
  if (t.get? k).isSome then ⟨t.entries.map fun e => if e.1 = k then (k, row) else e⟩
  else ⟨t.entries ++ [(k, row)]⟩

def erase (t : Table κ ρ) (k : κ) : Table κ ρ := ⟨t.entries.filter fun e => e.1 ≠ k⟩

/-- Keeps the rows that pass a test. -/
def filter (t : Table κ ρ) (keep : ρ → Bool) : Table κ ρ := ⟨t.entries.filter fun e => keep e.2⟩

/-- Changes the row under a key, and gives the new one. -/
def modify (t : Table κ ρ) (k : κ) (f : ρ → ρ) : Option ρ × Table κ ρ :=
  match t.get? k with
  | some row => (some (f row), t.put k (f row))
  | none => (none, t)

end Table

/-- The rows of a list that a page shows, once they are sorted by a number. -/
def Page.select {ρ : Type} (p : Page) (key : ρ → Int64) (rows : List ρ) : List ρ :=
  ((rows.mergeSort fun a b => key a ≤ key b).drop p.offset.toNat).take p.limit.toNat

end Campus
