import Campus.Calendar.Date

/-! # Moments

Instants of universal time to the nanosecond, their text and its reading. In a leap second the nanoseconds run on past a
thousand million. A text names its distance from universal time, and reading takes it off.
-/
namespace Campus

/-- An instant of universal time. `second` counts from midnight. -/
structure Moment where
  date : Date
  second : Nat
  nano : Nat
  second_lt : second < 86400
  nano_lt : nano < 2000000000
  deriving DecidableEq

namespace Moment

def ofParts? (date : Date) (second nano : Nat) : Option Moment :=
  if h : second < 86400 ∧ nano < 2000000000 then some ⟨date, second, nano, h.1, h.2⟩ else none

/-- The first day of the count of seconds. -/
def epoch : Date := ⟨1970, 1, 1, by decide⟩

def ofEpoch? (nanos : Nat) : Option Moment := do
  let seconds := nanos / 1000000000
  let date ← Date.later? (seconds / 86400) epoch
  ofParts? date (seconds % 86400) (nanos % 1000000000)

/-- The fraction of a second: none, or three, six or nine digits. -/
def fractionText (nano : Nat) : List Char :=
  if nano = 0 then []
  else if nano % 1000000 = 0 then '.' :: Text.padded 3 (nano / 1000000)
  else if nano % 1000 = 0 then '.' :: Text.padded 6 (nano / 1000)
  else '.' :: Text.padded 9 nano

/-- The text of an instant in universal time; a leap second counts one more, which is second 60 at the end of a minute. -/
def chars (m : Moment) : List Char :=
  let leap := 1000000000 ≤ m.nano
  m.date.chars ++ 'T' :: Text.padded 2 (m.second / 3600) ++ ':' :: Text.padded 2 (m.second / 60 % 60) ++
    ':' :: Text.padded 2 (m.second % 60 + if leap then 1 else 0) ++
    fractionText (if leap then m.nano - 1000000000 else m.nano) ++ ['Z']

def text (m : Moment) : String := String.ofList m.chars

/-- Reads a fraction of a second: a point and digits, of which those after the ninth are dropped. -/
def fraction? : List Char → Option (Nat × List Char)
  | '.' :: cs => do
    let ds := (Text.leadingDigits cs).take 9
    if ds = [] then none else return (Text.digitsValue ds * Text.tens (9 - ds.length), cs.dropWhile Char.isDigit)
  | cs => some (0, cs)

private def digitPair? : List Char → Option (Nat × List Char)
  | a :: b :: rest =>
    if a.isDigit ∧ b.isDigit then some (Text.digitsValue [a, b], rest) else none
  | _ => none

/-- Reads the distance from universal time in seconds: `UTC` in any case, `Z`, or a sign, hours and minutes. -/
def offset? (cs : List Char) : Option (Int × List Char) :=
  let cs := Text.trimStart cs
  if (cs.take 3).map Char.toUpper = ['U', 'T', 'C'] then some (0, cs.drop 3)
  else match cs with
    | c :: rest =>
      if c = 'Z' ∨ c = 'z' then some (0, rest)
      else if c = '+' ∨ c = '-' ∨ c = '\u2212' then do
        let (hours, rest) ← digitPair? rest
        let rest := rest.dropWhile fun c => c = ':' || Text.isBlank c
        let (minutes, rest) ← digitPair? rest
        if minutes < 60 then
          let seconds : Int := 3600 * hours + 60 * minutes
          return (if c = '+' then seconds else -seconds, rest)
        else none
      else none
    | [] => none

/-- The instant that a clock at some distance from universal time shows, if the calendar holds it. -/
def ofLocal? (date : Date) (second nano : Nat) (offset : Int) : Option Moment :=
  let universal : Int := second - offset
  if universal < 0 then date.previous?.bind fun d => ofParts? d (universal + 86400).toNat nano
  else if 86400 ≤ universal then date.next?.bind fun d => ofParts? d (universal - 86400).toNat nano
  else ofParts? date universal.toNat nano

/-- Reads what parts a date from a time of day. -/
def divider? : List Char → Option (List Char)
  | c :: rest => if c = 'T' ∨ c = 't' ∨ c = ' ' then some rest else none
  | [] => none

/-- Reads an instant that fills the whole text: a date, `T`, `t` or a blank, a time of day, and a distance from universal
time. Blanks may stand before each number and mark. Second 60 is a leap second. -/
def parse? (s : String) : Option Moment := do
  let ((year, month, day), cs) ← Date.numbers? s.toList
  let cs ← divider? cs
  let (hour, cs) ← Date.twoDigits? cs
  let cs ← Date.mark? ':' cs
  let (minute, cs) ← Date.twoDigits? cs
  let cs ← Date.mark? ':' cs
  let (second, cs) ← Date.twoDigits? cs
  let (nano, cs) ← fraction? cs
  let (offset, cs) ← offset? cs
  let date ← Date.ofParts? year month day
  if Text.trimStart cs = [] ∧ hour < 24 ∧ minute < 60 ∧ second ≤ 60 ∧ -86400 < offset ∧ offset < 86400 then
    let leap := second = 60
    ofLocal? date (3600 * hour + 60 * minute + if leap then 59 else second)
      (nano + if leap then 1000000000 else 0) offset
  else none

end Moment

end Campus
