/-! # Labels of names

The ASCII form of a label. A label with other characters is written as the characters that are ASCII, and then, as numbers of
varying weight, the places of the others in increasing order. Reading goes the same way back.
-/
namespace Campus.Label

def digit (d : Nat) : Char := if d < 26 then Char.ofNat (97 + d) else Char.ofNat (22 + d)

def digitValue? (c : Char) : Option Nat :=
  if 'a' ≤ c ∧ c ≤ 'z' then some (c.toNat - 97) else if c.isDigit then some (c.toNat - 22) else none

def adapt (delta count : Nat) (isFirst : Bool) : Nat :=
  let d := if isFirst then delta / 700 else delta / 2
  shrink 40 (d + d / count) 0
where
  /-- Divides until little is left, and counts the steps in the bias. -/
  shrink : Nat → Nat → Nat → Nat
    | 0, d, k => k + 36 * d / (d + 38)
    | fuel + 1, d, k => if 455 < d then shrink fuel (d / 35) (k + 36) else k + 36 * d / (d + 38)

/-- The least digit at a place that does not end a delta. -/
def threshold (bias k : Nat) : Nat := if k ≤ bias then 1 else if bias + 26 ≤ k then 26 else k - bias

/-! ## Writing -/

def deltaDigits (bias : Nat) : Nat → Nat → Nat → List Char
  | 0, _, q => [digit q]
  | fuel + 1, k, q =>
    let t := threshold bias k
    if q < t then [digit q]
    else digit (t + (q - t) % (36 - t)) :: deltaDigits bias fuel (k + 36) ((q - t) / (36 - t))

/-- How far a label is written in ASCII form. -/
structure State where
  out : List Char
  delta : Nat
  bias : Nat
  done : Nat

def writePoint (basic point : Nat) (s : State) (c : Char) : State :=
  if c.toNat < point then { s with delta := s.delta + 1 }
  else if c.toNat = point then
    { out := s.out ++ deltaDigits s.bias 40 36 s.delta
      delta := 0
      bias := adapt s.delta (s.done + 1) (s.done = basic)
      done := s.done + 1 }
  else s

/-- Writes the code points of a label that are not ASCII, in increasing order. -/
def writePoints (label : List Char) (basic : Nat) : List Nat → Nat → State → State
  | [], _, s => s
  | p :: rest, n, s =>
    let s := label.foldl (writePoint basic p) { s with delta := s.delta + (p - n) * (s.done + 1) }
    writePoints label basic rest (p + 1) { s with delta := s.delta + 1 }

def isAscii (c : Char) : Bool := c.toNat < 128

def mark : List Char := ['x', 'n', '-', '-']

def ascii (label : List Char) : List Char :=
  if label.all isAscii then label
  else
    let basic := label.filter isAscii
    let points := ((label.filter fun c => !isAscii c).map Char.toNat).mergeSort fun a b => a ≤ b
    let distinct := points.foldr (fun p ps => if ps.head? = some p then ps else p :: ps) []
    let s := writePoints label basic.length distinct 128 ⟨[], 0, 72, basic.length⟩
    mark ++ basic ++ (if basic = [] then [] else ['-']) ++ s.out

/-! ## Reading -/

/-- Adds the delta at the front of some digits to a number of 32 bits. Gives the sum and the digits behind the delta. -/
def readDelta (bias : Nat) : Nat → Nat → Nat → List Char → Option (Nat × List Char)
  | _, _, _, [] => none
  | k, weight, n, c :: cs => do
    let d ← digitValue? c
    let n := n + d * weight
    let t := threshold bias k
    if UInt32.size ≤ n then none
    else if d < t then return (n, cs)
    else if UInt32.size ≤ weight * (36 - t) then none
    else readDelta bias (k + 36) (weight * (36 - t)) n cs

/-- Puts the characters that some digits write into a label, given the code point and the place from which the next is counted. A
delta takes at least one digit, so that the digits bound the characters. -/
def readPoints : Nat → List Char → Nat → Nat → Nat → List Char → Option (List Char)
  | _, label, _, _, _, [] => some label
  | 0, _, _, _, _, _ => none
  | fuel + 1, label, point, place, bias, digits => do
    let (sum, digits) ← readDelta bias 36 1 place digits
    let count := label.length + 1
    let point := point + sum / count
    let bias := adapt (sum - place) count (place = 0)
    let place := sum % count
    if point.isValidChar then
      readPoints fuel (label.take place ++ Char.ofNat point :: label.drop place) point (place + 1) bias digits
    else none

/-- The most characters that an ASCII form is read from, without its mark. -/
def longestForm : Nat := 2000

/-- The label that an ASCII form in small letters stands for, given without its mark. A form without digits stands for none. -/
def unicode? (form : List Char) : Option (List Char) :=
  let (digits, rest) := form.reverse.span (· ≠ '-')
  let basic := (rest.drop 1).reverse
  if longestForm < form.length ∨ digits = [] ∨ (rest ≠ [] ∧ basic = []) ∨ !form.all isAscii then none
  else readPoints digits.length basic 128 0 72 digits.reverse

example : ascii "bücher".toList = "xn--bcher-kva".toList ∧ unicode? "bcher-kva".toList = some "bücher".toList := by
  decide +kernel

end Campus.Label
