import Campus.Decimal

/-! # JSON text: reading

A reader takes a value off the front of a text and gives what is left. It stops at the first thing that is wrong, and says
of what sort it was: the text breaks the rules of JSON, it is JSON but not the value that was asked for, or it ends too early.
A place in the text is a character, or a byte that is no part of one.
-/
namespace Campus.Json

inductive Flaw where
  | malformed
  | unfit
  | cutShort
  deriving DecidableEq, Repr

/-- One place of a text: a character, or `none` for a byte that is no part of one. -/
abbrev Glyph := Option Char

abbrev Reading (α : Type) := Except Flaw (α × List Glyph)

/-- The places of a text without stray bytes. -/
def glyphs (s : String) : List Glyph := s.toList.map some

def width : Glyph → Nat
  | some c => c.utf8Size
  | none => 1

def isSpace : Glyph → Bool
  | some c => c = ' ' || c = '\n' || c = '\t' || c = '\r'
  | none => false

def skipSpace (cs : List Glyph) : List Glyph := cs.dropWhile isSpace

def isDigit : Glyph → Bool
  | some c => c.isDigit
  | none => false

/-- Reads the rest of a word whose first letter settled which one it must be. -/
def word : List Char → List Glyph → Except Flaw (List Glyph)
  | [], cs => .ok cs
  | _ :: _, [] => .error .cutShort
  | e :: es, c :: cs => if c = some e then word es cs else .error .malformed

/-! ## Strings -/

/-- Reads the four hexadecimal digits of an escape. The text is cut short when fewer than four bytes are left. -/
def hexUnit (cs : List Glyph) : Except Flaw Nat :=
  if (cs.take 4).foldl (fun n c => n + width c) 0 < 4 then .error .cutShort
  else match cs with
    | some a :: some b :: some c :: some d :: _ =>
      match Text.hexValue? a, Text.hexValue? b, Text.hexValue? c, Text.hexValue? d with
      | some a, some b, some c, some d => .ok (((a * 16 + b) * 16 + c) * 16 + d)
      | _, _, _, _ => .error .malformed
    | _ => .error .malformed

/-- Reads what stands behind `\u`: one unit, or a pair of units for a character beyond the first plane. Gives the character
and the number of places it takes. -/
def unicodeEscape (cs : List Glyph) : Except Flaw (Char × Nat) := do
  let n ← hexUnit cs
  if 0xdc00 ≤ n ∧ n ≤ 0xdfff then throw .malformed
  else if n < 0xd800 ∨ 0xdbff < n then return (Char.ofNat n, 4)
  else
    match cs.drop 4 with
    | [] => throw .cutShort
    | some '\\' :: [] => throw .cutShort
    | some '\\' :: some 'u' :: rest =>
      let low ← hexUnit rest
      if 0xdc00 ≤ low ∧ low ≤ 0xdfff then
        return (Char.ofNat ((n - 0xd800) * 0x400 + (low - 0xdc00) + 0x10000), 10)
      else throw .malformed
    | _ => throw .malformed

/-- Reads what stands behind a backslash: the character meant, and the number of places it takes. -/
def escape : List Glyph → Except Flaw (Char × Nat)
  | [] => .error .cutShort
  | some 'u' :: rest => (unicodeEscape rest).map fun (c, n) => (c, n + 1)
  | some '"' :: _ => .ok ('"', 1)
  | some '\\' :: _ => .ok ('\\', 1)
  | some '/' :: _ => .ok ('/', 1)
  | some 'b' :: _ => .ok ('\x08', 1)
  | some 'f' :: _ => .ok ('\x0c', 1)
  | some 'n' :: _ => .ok ('\n', 1)
  | some 'r' :: _ => .ok ('\r', 1)
  | some 't' :: _ => .ok ('\t', 1)
  | _ => .error .malformed

/-- Reads a string whose opening quote is gone. `read` holds the characters so far in reverse, and `sound` says that no stray
byte was among them, which is looked at when the string is complete. -/
def stringFrom (read : List Char) (sound : Bool) : List Glyph → Reading String
  | [] => .error .cutShort
  | none :: rest => stringFrom read false rest
  | some '"' :: rest => if sound then .ok (String.ofList read.reverse, rest) else .error .malformed
  | some '\\' :: rest =>
    match escape rest with
    | .error e => .error e
    | .ok (c, n) => stringFrom (c :: read) sound (rest.drop n)
  | some c :: rest => if c.toNat < 0x20 then .error .malformed else stringFrom (c :: read) sound rest
  termination_by cs => cs.length
  decreasing_by all_goals simp; try omega

def stringRest (cs : List Glyph) : Reading String := stringFrom [] true cs

/-- Passes over a string whose opening quote is gone. What it stands for is not looked at, so halves of pairs and stray bytes
pass. -/
def skipString : List Glyph → Except Flaw (List Glyph)
  | [] => .error .cutShort
  | some '"' :: rest => .ok rest
  | some '\\' :: some 'u' :: rest =>
    match hexUnit rest with
    | .error e => .error e
    | .ok _ => skipString (rest.drop 4)
  | some '\\' :: rest =>
    match escape rest with
    | .error e => .error e
    | .ok (_, n) => skipString (rest.drop n)
  | none :: rest => skipString rest
  | some c :: rest => if c.toNat < 0x20 then .error .malformed else skipString rest
  termination_by cs => cs.length
  decreasing_by all_goals simp; try omega

/-! ## Numbers -/

/-- A number as the reader sees it: whole and within 64 bits, or any other. Zero behind a minus sign is not whole. -/
inductive Numeral where
  | whole (value : Int)
  | other
  deriving DecidableEq, Repr

def digitRun (cs : List Glyph) : List Char := (cs.takeWhile isDigit).filterMap id

/-- The exponent that a run of digits stands for; beyond twelve digits all are alike. -/
def exponentValue (ds : List Char) : Nat :=
  let ds := ds.dropWhile (· = '0')
  if 12 < ds.length then 1000000000000 else Text.digitsValue ds

/-- Appends digits to a number while it stays within 64 bits. Gives the number, and how many digits are left over from the first
that would have taken it further. -/
def collect (n : Nat) : List Char → Nat × Nat
  | [] => (n, 0)
  | d :: ds =>
    let longer := 10 * n + Text.digitsValue [d]
    if longer < UInt64.size then collect longer ds else (n, ds.length + 1)

/-- A whole number rounded to the binary digits that a double keeps, a half going to the even neighbour. -/
def roundToDouble (n : Nat) : Nat :=
  let unit := Nat.pow 2 (n.log2 - 52)
  Decimal.roundHalfEven n unit * unit

def doubleLimit : Nat := Nat.pow 2 1024 - Nat.pow 2 970

/-- Whether a number times a power of ten is too large for a double. Both are rounded before they are multiplied. -/
def isTooLarge (n : Nat) (e : Int) : Bool :=
  n ≠ 0 && (308 < e || (0 ≤ e && doubleLimit ≤ roundToDouble n * roundToDouble (Text.tens e.toNat)))

def exponentRest (cs : List Glyph) : Reading Int :=
  let (negative, cs) := match cs with
    | some '-' :: cs => (true, cs)
    | some '+' :: cs => (false, cs)
    | cs => (false, cs)
  let ds := digitRun cs
  match cs with
  | [] => .error .cutShort
  | _ =>
    if ds = [] then .error .malformed
    else .ok (if negative then -(exponentValue ds : Int) else exponentValue ds, cs.drop ds.length)

def fractionRest (cs : List Glyph) : Reading (List Char) :=
  let ds := digitRun cs
  match cs with
  | [] => .error .cutShort
  | _ => if ds = [] then .error .malformed else .ok (ds, cs.drop ds.length)

def Numeral.ofDigits (negative : Bool) (ds : List Char) : Numeral :=
  if 20 < ds.length then .other
  else
    let v := Text.digitsValue ds
    if negative then (if v = 0 ∨ 9223372036854775808 < v then .other else .whole (-(v : Int)))
    else if v < UInt64.size then .whole v else .other

/-- Reads a number that starts with a digit or a minus sign. -/
def numeral (cs : List Glyph) : Except Flaw (Numeral × List Glyph) := do
  let (negative, cs) := match cs with
    | some '-' :: cs => (true, cs)
    | cs => (false, cs)
  if cs = [] then throw .cutShort
  let ds := digitRun cs
  if ds = [] ∨ (ds.head? = some '0' ∧ 1 < ds.length) then throw .malformed
  let cs := cs.drop ds.length
  let (part, cs) ← match cs with
    | some '.' :: cs => (fractionRest cs).map fun (part, cs) => (some part, cs)
    | cs => .ok (none, cs)
  let (e, cs) ← match cs with
    | some 'e' :: cs => (exponentRest cs).map fun (e, cs) => (some e, cs)
    | some 'E' :: cs => (exponentRest cs).map fun (e, cs) => (some e, cs)
    | cs => .ok (none, cs)
  let fraction := part.getD []
  let (n, dropped) := collect 0 ds
  let (n, lost) := collect n fraction
  if isTooLarge n (e.getD 0 + dropped + lost - fraction.length) then throw .malformed
  return (if part.isNone ∧ e.isNone then Numeral.ofDigits negative ds else .other, cs)

/-- Passes over a number that starts with a digit or a minus sign, however large. -/
def skipNumber (cs : List Glyph) : Except Flaw (List Glyph) := do
  let cs := match cs with
    | some '-' :: cs => cs
    | cs => cs
  let ds := digitRun cs
  if ds = [] ∨ (ds.head? = some '0' ∧ 1 < ds.length) then throw .malformed
  let cs := cs.drop ds.length
  let cs ← match cs with
    | some '.' :: cs => if digitRun cs = [] then throw .malformed else pure (cs.drop (digitRun cs).length)
    | cs => pure cs
  let behindSign : List Glyph → Except Flaw (List Glyph) := fun cs =>
    let cs := match cs with
      | some '-' :: cs => cs
      | some '+' :: cs => cs
      | cs => cs
    if digitRun cs = [] then throw .malformed else pure (cs.drop (digitRun cs).length)
  match cs with
  | some 'e' :: cs => behindSign cs
  | some 'E' :: cs => behindSign cs
  | cs => return cs

/-! ## Values of the wrong sort -/

/-- What is wrong with a value that is not of the sort asked for: it is unfit, unless its own text is flawed. -/
def misfit (cs : List Glyph) : Flaw :=
  let after {α : Type} (r : Except Flaw α) : Flaw := match r with
    | .ok _ => .unfit
    | .error e => e
  match cs with
  | [] => .cutShort
  | some 'n' :: rest => after (word ['u', 'l', 'l'] rest)
  | some 't' :: rest => after (word ['r', 'u', 'e'] rest)
  | some 'f' :: rest => after (word ['a', 'l', 's', 'e'] rest)
  | some '"' :: rest => after (stringRest rest)
  | some '[' :: _ => .unfit
  | some '\x7b' :: _ => .unfit
  | c :: _ => if c = some '-' ∨ isDigit c then after (numeral cs) else .malformed

/-! ## Values that are passed over -/

/-- What the text must go on with while a value is passed over. -/
inductive Expecting where
  | value
  | afterOpen
  | afterValue
  | item
  deriving DecidableEq

/-- Passes over a value. `nest` holds the lists (`false`) and records (`true`) that are not closed yet. -/
def skipFrom : Nat → List Bool → Expecting → List Glyph → Except Flaw (List Glyph)
  | 0, _, _, _ => .error .malformed
  | fuel + 1, nest, expecting, cs =>
    let cs := skipSpace cs
    match expecting with
    | .value =>
      let scalar (r : Except Flaw (List Glyph)) : Except Flaw (List Glyph) :=
        match r, nest with
        | .error e, _ => .error e
        | .ok rest, [] => .ok rest
        | .ok rest, _ :: _ => skipFrom fuel nest .afterValue rest
      match cs with
      | [] => .error .cutShort
      | some 'n' :: rest => scalar (word ['u', 'l', 'l'] rest)
      | some 't' :: rest => scalar (word ['r', 'u', 'e'] rest)
      | some 'f' :: rest => scalar (word ['a', 'l', 's', 'e'] rest)
      | some '"' :: rest => scalar (skipString rest)
      | some '[' :: rest => skipFrom fuel (false :: nest) .afterOpen rest
      | some '\x7b' :: rest => skipFrom fuel (true :: nest) .afterOpen rest
      | c :: _ => if c = some '-' ∨ isDigit c then scalar (skipNumber cs) else .error .malformed
    | .item =>
      match nest, cs with
      | true :: _, some '"' :: rest =>
        match skipString rest with
        | .error e => .error e
        | .ok rest =>
          match skipSpace rest with
          | some ':' :: rest => skipFrom fuel nest .value rest
          | [] => .error .cutShort
          | _ => .error .malformed
      | true :: _, [] => .error .cutShort
      | true :: _, _ => .error .malformed
      | _, _ => skipFrom fuel nest .value cs
    | _ =>
      match nest, cs with
      | _, [] => .error .cutShort
      | inRecord :: outer, c :: rest =>
        if c = some ',' ∧ expecting = .afterValue then skipFrom fuel nest .item rest
        else if (c = some ']' ∧ inRecord = false) ∨ (c = some '\x7d' ∧ inRecord = true) then
          match outer with
          | [] => .ok rest
          | _ :: _ => skipFrom fuel outer .afterValue rest
        else if expecting = .afterValue then .error .malformed
        else skipFrom fuel nest .item cs
      | [], _ => .error .malformed

def skipValue (cs : List Glyph) : Except Flaw (List Glyph) := skipFrom (3 * cs.length + 3) [] .value cs

/-! ## Whole texts -/

/-- Reads a value that fills the whole text but for white space. -/
def whole {α : Type} (reader : List Glyph → Reading α) (cs : List Glyph) : Except Flaw α := do
  let (a, rest) ← reader cs
  if skipSpace rest = [] then return a else throw .malformed

end Campus.Json
