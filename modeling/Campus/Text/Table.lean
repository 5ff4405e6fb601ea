import Campus.Text.Cut
import Campus.Text.Digits

/-! # Tables of characters

A table tells some characters apart from all others, and may say what each stands for. It is written in rows of entries with
blanks between them. An entry is a code point in hexadecimal digits, or the first and the last of a run with a bar between them;
a stroke at the end keeps every second of the run. Behind a colon comes what the first stands for, with points between its code
points. Where that is one code point, those behind the first stand for those behind it.
-/
namespace Campus.Text

/-- Some code points at equal steps, and what the first of them stands for. -/
structure Run where
  first : Nat
  last : Nat
  step : Nat
  image : List Nat
  deriving DecidableEq, Repr

namespace Run

def code (ds : List Char) : Nat := ds.foldl (fun n d => 16 * n + (hexValue? d).getD 0) 0

def ofEntry (cs : List Char) : Run :=
  let (points, image) := cs.span (· ≠ ':')
  let (first, rest) := points.span (· ≠ '-')
  let (last, stroke) := (rest.drop 1).span (· ≠ '/')
  { first := code first
    last := code (if rest = [] then first else last)
    step := if stroke = [] then 1 else 2
    image := if image = [] then [] else (cut '.' (image.drop 1)).map code }

example : ofEntry "41-5a/:61".toList = ⟨0x41, 0x5a, 2, [0x61]⟩ := by decide

example : ofEntry "df:73.73".toList = ⟨0xdf, 0xdf, 1, [0x73, 0x73]⟩ := by decide

/-- Whether a code point belongs to a run. -/
def holds (r : Run) (n : Nat) : Bool := r.first ≤ n && n ≤ r.last && (n - r.first) % r.step == 0

def imageOf (r : Run) (n : Nat) : List Nat :=
  match r.image with
  | [m] => [m + (n - r.first)]
  | image => image

end Run

structure Table where
  runs : List Run
  deriving DecidableEq, Repr

namespace Table

def ofRows (rows : List String) : Table := ⟨rows.flatMap fun row => (cut ' ' row.toList).map Run.ofEntry⟩

def holds (t : Table) (c : Char) : Bool := t.runs.any fun r => r.holds c.toNat

def image? (t : Table) (c : Char) : Option (List Char) :=
  (t.runs.find? fun r => r.holds c.toNat).map fun r => (r.imageOf c.toNat).map Char.ofNat

def source? (t : Table) (cs : List Char) : Option Char :=
  (t.runs.find? fun r => r.image == cs.map Char.toNat).map fun r => Char.ofNat r.first

end Table

end Campus.Text
