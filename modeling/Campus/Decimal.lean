import Campus.Text.Digits

/-! # Decimal text of binary floating-point numbers

A finite double is a whole number times a power of two. Its shortest text has the fewest digits that still round to it, and
among those the digits nearest to it; its fixed text has a given number of places. Both are positional, never with an
exponent.
-/
namespace Campus.Decimal

open Text

/-- The magnitude of a finite double as a fraction `num / den`, with the gap to its neighbours.
`below` and `above` are the distances to the ends of the interval that rounds to it, over `4 * den`. -/
structure Magnitude where
  num : Nat
  den : Nat
  unit : Nat
  narrowBelow : Bool
  even : Bool

/-- What the leading binary digit counts, which a double does not write. -/
def leading : Nat := 4503599627370496

/-- Splits the bits of a finite double into a whole number and a power of two. -/
def magnitude (bits : UInt64) : Magnitude :=
  let field := (bits.toNat / leading) % 2048
  let low := bits.toNat % leading
  let m := if field = 0 then low else low + leading
  let up := (if field = 0 then 1 else field) - 1075
  let down := 1075 - (if field = 0 then 1 else field)
  { num := m * Nat.pow 2 up
    den := Nat.pow 2 down
    unit := Nat.pow 2 up
    narrowBelow := low = 0 && 1 < field
    even := m % 2 = 0 }

/-- Whether the decimal `d * 10 ^ e` rounds to the double with this magnitude. -/
def Magnitude.holds (x : Magnitude) (d : Nat) (e : Int) : Bool :=
  let lhs := 4 * (d * tens e.toNat) * x.den
  let scale := tens (-e).toNat
  let lo := (4 * x.num - (if x.narrowBelow then x.unit else 2 * x.unit)) * scale
  let hi := (4 * x.num + 2 * x.unit) * scale
  if x.even then lo ≤ lhs && lhs ≤ hi else lo < lhs && lhs < hi

def Magnitude.exponent (x : Magnitude) : Int :=
  if x.den ≤ x.num then (digits (x.num / x.den)).length - 1
  else
    let d := (digits (x.den / x.num)).length
    if x.den ≤ x.num * tens (d - 1) then -((d : Int) - 1) else -(d : Int)

/-- The grid point with `n` digits that rounds to the magnitude and is nearest to it, if there is one; the greater one of two that
are equally near. -/
def Magnitude.onGrid? (x : Magnitude) (n : Nat) : Option (Nat × Int) :=
  let e : Int := x.exponent - (n - 1)
  let num := x.num * tens (-e).toNat
  let den := x.den * tens e.toNat
  let d := num / den
  let belowNearer := 2 * (num % den) < den
  match x.holds d e, x.holds (d + 1) e with
  | true, true => some (if belowNearer then d else d + 1, e)
  | true, false => some (d, e)
  | false, true => some (d + 1, e)
  | false, false => none

/-- The fewest digits, with their exponent, that round to the magnitude. Seventeen always do; a grid point that carries
into a new digit is the digit one on the next grid. -/
def Magnitude.shortest (x : Magnitude) : Nat × Int :=
  let (d, e) := ((List.range 17).findSome? fun i => x.onGrid? (i + 1)).getD (0, 0)
  if d % 10 = 0 then (d / 10, e + 1) else (d, e)

def positional (d : Nat) (e : Int) : List Char :=
  let ds := digits d
  if 0 ≤ e then ds ++ List.replicate e.toNat '0'
  else
    let places := (-e).toNat
    if places < ds.length then ds.take (ds.length - places) ++ '.' :: ds.drop (ds.length - places)
    else ['0', '.'] ++ List.replicate (places - ds.length) '0' ++ ds

def sign (x : Float) : String := if 9223372036854775808 ≤ x.toBits.toNat then "-" else ""

/-- The shortest positional text of a double: `1`, `0.1`, `-0`, `NaN`, `inf`. -/
def shortest (x : Float) : String :=
  if x.isNaN then "NaN"
  else
    if x.isInf then sign x ++ "inf"
    else
      let m := magnitude x.toBits
      if m.num = 0 then sign x ++ "0"
      else
        let (d, e) := m.shortest
        sign x ++ String.ofList (positional d e)

/-- `num / den` rounded to a whole number, a half going to the even neighbour. -/
def roundHalfEven (num den : Nat) : Nat :=
  let q := num / den
  let r := num % den
  if 2 * r < den then q else if den < 2 * r then q + 1 else if q % 2 = 0 then q else q + 1

/-- The text of a finite double with a fixed number of decimal places. -/
def fixed (places : Nat) (x : Float) : String :=
  let m := magnitude x.toBits
  let scaled := roundHalfEven (m.num * tens places) m.den
  let ds := padded (places + 1) scaled
  let whole := ds.take (ds.length - places)
  let part := ds.drop (ds.length - places)
  sign x ++ String.ofList (if places = 0 then whole else whole ++ '.' :: part)

/-- The double nearest to `d * 10 ^ e`. Exponents beyond the range of doubles give infinity and zero at once. -/
def ofDigits (d : Nat) (e : Int) : Float :=
  let top : Int := e + (digits d).length
  if d = 0 ∨ top < -400 then 0.0
  else if 400 < top then 1.0 / 0.0
  else if 0 ≤ e then Float.ofScientific d false e.toNat
  else Float.ofScientific d true (-e).toNat

private def digitsOf (cs : List Char) : List Char × List Char := cs.span Char.isDigit

/-- The exponent behind a mantissa: nothing, or `e`, a sign and digits. -/
private def exponentOf? : List Char → Option Int
  | [] => some 0
  | c :: rest =>
    if c = 'e' ∨ c = 'E' then
      let (negative, ds) := match rest with
        | '-' :: ds => (true, ds)
        | '+' :: ds => (false, ds)
        | ds => (false, ds)
      if ds ≠ [] ∧ ds.all Char.isDigit then
        some (if negative then -(digitsValue ds : Int) else digitsValue ds)
      else none
    else none

private def unsigned? (cs : List Char) : Option Float :=
  let word := (String.ofList cs).toLower
  if word = "inf" ∨ word = "infinity" then some (1.0 / 0.0)
  else if word = "nan" then some (0.0 / 0.0)
  else
    let (whole, rest) := digitsOf cs
    let (part, rest) := match rest with
      | '.' :: rest => digitsOf rest
      | rest => ([], rest)
    if whole = [] ∧ part = [] then none
    else (exponentOf? rest).map fun e => ofDigits (digitsValue (whole ++ part)) (e - part.length)

/-- Reads a double: a sign, digits with at most one point, and an exponent; or `inf`, `infinity`, `nan` in any case. -/
def parse? (s : String) : Option Float :=
  match s.toList with
  | '-' :: cs => (unsigned? cs).map (- ·)
  | '+' :: cs => unsigned? cs
  | cs => unsigned? cs

end Campus.Decimal
