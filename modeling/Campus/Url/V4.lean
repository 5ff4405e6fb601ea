import Campus.Text.Cut
import Campus.Text.Digits

/-! # Numbers of hosts, version four

An address of 32 bits, written as up to four numbers with points between them.
-/
namespace Campus.V4

/-- A number in base ten, in base eight behind a zero, or in base sixteen behind `0x`. -/
def number? (cs : List Char) : Option Nat :=
  let hex (ds : List Char) : Option Nat := (ds.mapM Text.hexValue?).map fun ns => ns.foldl (16 * · + ·) 0
  match cs with
  | [] => none
  | '0' :: 'x' :: ds => hex ds
  | '0' :: 'X' :: ds => hex ds
  | '0' :: d :: ds => if (d :: ds).all fun c => '0' ≤ c && c ≤ '7' then
      some ((d :: ds).foldl (fun n c => 8 * n + Text.digitValue c) 0) else none
  | ds => if ds.all Char.isDigit then some (Text.digitsValue ds) else none

def labels (cs : List Char) : List (List Char) :=
  let parts := Text.cut '.' cs
  if parts.getLast? = some [] ∧ 1 < parts.length then parts.dropLast else parts

/-- Whether the last label of a name is a number, so that the name must be an address. -/
def endsInNumber (cs : List Char) : Bool :=
  match (labels cs).getLast? with
  | some last => last ≠ [] && (last.all Char.isDigit || (last.take 2).map Char.toLower = ['0', 'x'] && (number? last).isSome)
  | none => false

def weight (octets : Nat) : Nat := Nat.pow 256 octets

/-- Reads up to four numbers; the last fills what is left of the 32 bits. -/
def parse? (cs : List Char) : Option Nat := do
  let ns ← (labels cs).mapM number?
  let front := ns.dropLast
  let last := ns.getLast?.getD 0
  if 4 < ns.length ∨ front.any (255 < ·) ∨ weight (5 - ns.length) ≤ last then none
  else some (front.zipIdx.foldl (fun n (p, i) => n + p * weight (3 - i)) last)

/-- A number below 256 in base ten, without a zero in front. -/
def octet? (ds : List Char) : Option Nat :=
  if ds.all Char.isDigit ∧ ds ≠ [] ∧ (ds.length = 1 ∨ ds.head? ≠ some '0') ∧ Text.digitsValue ds < 256 then
    some (Text.digitsValue ds) else none

/-- Reads the plain form, four octets with points between them. -/
def octets? (cs : List Char) : Option (List Nat) := do
  let ns ← (Text.cut '.' cs).mapM octet?
  if ns.length = 4 then some ns else none

def chars (n : Nat) : List Char :=
  let part (i : Nat) := Text.digits (n / weight i % 256)
  part 3 ++ '.' :: part 2 ++ '.' :: part 1 ++ '.' :: part 0

end Campus.V4
