import Campus.Url.V4

/-! # Numbers of hosts, version six

An address of eight pieces of 16 bits, written in hexadecimal digits with colons between them.
-/
namespace Campus.V6

def piece? (cs : List Char) : Option Nat :=
  if cs.length = 0 ∨ 4 < cs.length then none
  else (cs.mapM Text.hexValue?).map fun ns => ns.foldl (16 * · + ·) 0

/-- The plain form of a shorter address at the end, which stands for two pieces. -/
def tail? (cs : List Char) : Option (List Nat) :=
  match V4.octets? cs with
  | some [a, b, c, d] => some [256 * a + b, 256 * c + d]
  | _ => none

def run? (cs : List Char) : Option (List Nat) :=
  if cs = [] then some []
  else
    let parts := Text.cut ':' cs
    let last := parts.getLast?.getD []
    if last.contains '.' then do
      let front ← parts.dropLast.mapM piece?
      return front ++ (← tail? last)
    else parts.mapM piece?

/-- The text in front of the first pair of colons, and the text behind. -/
def splitDouble : List Char → Option (List Char × List Char)
  | ':' :: ':' :: rest => some ([], rest)
  | c :: rest => (splitDouble rest).map fun (a, b) => (c :: a, b)
  | [] => none

/-- Reads eight pieces, of which one pair of colons may stand for some that are zero. Only the end may be in plain form. -/
def parse? (cs : List Char) : Option (List Nat) :=
  match splitDouble cs with
  | some (front, back) => do
    let front ← if front.contains '.' then none else run? front
    let back ← run? back
    if front.length + back.length < 8 then
      some (front ++ List.replicate (8 - front.length - back.length) 0 ++ back) else none
  | none => do
    let ps ← run? cs
    if ps.length = 8 then some ps else none

def zeros (ps : List Nat) : Nat := (ps.takeWhile (· = 0)).length

/-- The place and length of the first longest run of at least two zeros. -/
def longestZeros (ps : List Nat) : Option (Nat × Nat) :=
  let runs := (List.range ps.length).map fun i => (i, zeros (ps.drop i))
  runs.foldl (fun best r => if 2 ≤ r.2 ∧ (best.map (·.2)).getD 1 < r.2 then some r else best) none

def colonSeparated (ps : List Nat) : List Char :=
  (ps.map fun p => Nat.toDigits 16 p).foldl (fun acc d => if acc = [] then d else acc ++ ':' :: d) []

def chars (ps : List Nat) : List Char :=
  match longestZeros ps with
  | some (i, n) => colonSeparated (ps.take i) ++ [':', ':'] ++ colonSeparated (ps.drop (i + n))
  | none => colonSeparated ps

end Campus.V6
