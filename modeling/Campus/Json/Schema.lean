import Campus.Calendar.Moment
import Campus.Json.Reader
import Campus.Json.Text

/-! # Records of named fields in JSON

A schema lists the fields of a record in order, with the shape of the value that each holds. A record is written as a JSON record
in that order. It is read from a record with the fields in any order, other fields being passed over and repeated ones
refused, or from a list of the values in schema order.
-/
namespace Campus.Json

/-- The shapes of the values that fields hold. -/
inductive Shape where
  | int (lo hi : Int)
  | text
  | date
  | moment
  | optionalText
  deriving DecidableEq, Repr

inductive Scalar where
  | int (v : Int)
  | text (s : String)
  | date (d : Date)
  | moment (m : Moment)
  | absent
  deriving DecidableEq

/-- One field of a schema. `default` stands for a missing value, and a value equal to `unwritten` is left out. -/
structure Field where
  name : String
  shape : Shape
  default : Option Scalar
  unwritten : Option Scalar
  deriving DecidableEq

namespace Field

def required (name : String) (shape : Shape) : Field := ⟨name, shape, none, none⟩

def optional (name : String) : Field := ⟨name, .optionalText, some .absent, none⟩

end Field

/-! ## Writing -/

def Scalar.chars : Scalar → List Char
  | .int v => intChars v
  | .text s => stringChars s
  | .date d => stringChars d.text
  | .moment m => stringChars m.text
  | .absent => ['n', 'u', 'l', 'l']

def writeRecord (fields : List Field) (values : List Scalar) : List Char :=
  recordChars ((fields.zip values).filterMap fun (f, v) =>
    if f.unwritten = some v then none else some (f.name, v.chars))

/-! ## Reading -/

def readTextAs (make : String → Option Scalar) (cs : List Glyph) : Reading Scalar :=
  match cs with
  | some '"' :: rest =>
    match stringRest rest with
    | .error e => .error e
    | .ok (s, rest) =>
      match make s with
      | some v => .ok (v, rest)
      | none => .error .unfit
  | _ => .error (misfit cs)

/-- Reads a value of a given shape, behind white space. -/
def readScalar (shape : Shape) (cs : List Glyph) : Reading Scalar :=
  let cs := skipSpace cs
  match shape, cs with
  | _, [] => .error .cutShort
  | .int lo hi, c :: _ =>
    if c = some '-' ∨ isDigit c then
      match numeral cs with
      | .error e => .error e
      | .ok (.whole v, rest) => if lo ≤ v ∧ v ≤ hi then .ok (.int v, rest) else .error .unfit
      | .ok (.other, _) => .error .unfit
    else .error (misfit cs)
  | .text, _ => readTextAs (fun s => some (.text s)) cs
  | .date, _ => readTextAs (fun s => (Date.parse? s).map .date) cs
  | .moment, _ => readTextAs (fun s => (Moment.parse? s).map .moment) cs
  | .optionalText, some 'n' :: rest => (word ['u', 'l', 'l'] rest).map fun rest => (.absent, rest)
  | .optionalText, _ => readTextAs (fun s => some (.text s)) cs

def readColon (cs : List Glyph) : Except Flaw (List Glyph) :=
  match skipSpace cs with
  | [] => .error .cutShort
  | some ':' :: rest => .ok rest
  | _ => .error .malformed

/-- Goes to the next entry of a record, past the comma where one is due: `none` at the closing brace, else the text behind
the opening quote of the name. -/
def nextEntry (isFirst : Bool) (cs : List Glyph) : Except Flaw (Option (List Glyph)) :=
  match skipSpace cs with
  | [] => .error .cutShort
  | some '\x7d' :: _ => .ok none
  | c :: rest =>
    if isFirst then (if c = some '"' then .ok (some rest) else .error .malformed)
    else if c = some ',' then
      match skipSpace rest with
      | [] => .error .cutShort
      | some '"' :: rest => .ok (some rest)
      | _ => .error .malformed
    else .error .malformed

/-- Goes to the next item of a list, past the comma where one is due: `none` at the closing bracket, else the text at the
item. -/
def nextItem (isFirst : Bool) (cs : List Glyph) : Except Flaw (Option (List Glyph)) :=
  match skipSpace cs with
  | [] => .error .cutShort
  | some ']' :: _ => .ok none
  | c :: rest =>
    if isFirst then .ok (some (c :: rest))
    else if c = some ',' then
      match skipSpace rest with
      | [] => .error .cutShort
      | some ']' :: _ => .error .malformed
      | rest => .ok (some rest)
    else .error .malformed

/-- Reads the entries of a record up to its closing brace into the slots of their fields. -/
def readEntries (fields : List Field) :
    Nat → Bool → List (Option Scalar) → List Glyph → Reading (List (Option Scalar))
  | 0, _, _, _ => .error .malformed
  | fuel + 1, isFirst, slots, cs =>
    match nextEntry isFirst cs with
    | .error e => .error e
    | .ok none => .ok (slots, cs)
    | .ok (some rest) =>
      match stringRest rest with
      | .error e => .error e
      | .ok (name, rest) =>
        match fields.findIdx? (fun f => f.name == name) with
        | some i =>
          if (slots[i]?.join).isSome then .error .unfit
          else
            match readColon rest with
            | .error e => .error e
            | .ok rest =>
              match readScalar ((fields[i]?.map Field.shape).getD .text) rest with
              | .error e => .error e
              | .ok (v, rest) => readEntries fields fuel false (slots.set i (some v)) rest
        | none =>
          match readColon rest with
          | .error e => .error e
          | .ok rest =>
            match skipValue rest with
            | .error e => .error e
            | .ok rest => readEntries fields fuel false slots rest

def fillSlots : List Field → List (Option Scalar) → Option (List Scalar)
  | [], _ => some []
  | f :: fields, slots => do
    let v ← (slots.head?.join).or f.default
    return v :: (← fillSlots fields slots.tail)

/-- Reads the values of a list in schema order; fields at the end may be missing if they have defaults. -/
def readItems : Bool → List Field → List Glyph → Reading (List Scalar)
  | _, [], cs => .ok ([], cs)
  | isFirst, f :: fields, cs =>
    match nextItem isFirst cs with
    | .error e => .error e
    | .ok none =>
      match f.default with
      | none => .error .unfit
      | some v => (readItems isFirst fields cs).map fun (vs, rest) => (v :: vs, rest)
    | .ok (some rest) =>
      match readScalar f.shape rest with
      | .error e => .error e
      | .ok (v, rest) => (readItems false fields rest).map fun (vs, rest) => (v :: vs, rest)

def readClosing (mark : Char) (cs : List Glyph) : Except Flaw (List Glyph) :=
  match skipSpace cs with
  | [] => .error .cutShort
  | c :: rest => if c = some mark then .ok rest else .error .malformed

def readRecord (fields : List Field) (cs : List Glyph) : Reading (List Scalar) :=
  match skipSpace cs with
  | [] => .error .cutShort
  | some '\x7b' :: rest =>
    match readEntries fields (rest.length + 1) true (fields.map fun _ => none) rest with
    | .error e => .error e
    | .ok (slots, rest) =>
      match fillSlots fields slots with
      | none => .error .unfit
      | some values => (readClosing '\x7d' rest).map fun rest => (values, rest)
  | some '[' :: rest =>
    match readItems true fields rest with
    | .error e => .error e
    | .ok (values, rest) => (readClosing ']' rest).map fun rest => (values, rest)
  | cs => .error (misfit cs)

/-- Reads the items of a list up to its closing bracket. `read` holds those so far in reverse. -/
def readListFrom {α : Type} (item : List Glyph → Reading α) :
    Nat → Bool → List α → List Glyph → Reading (List α)
  | 0, _, _, _ => .error .malformed
  | fuel + 1, isFirst, read, cs =>
    match nextItem isFirst cs with
    | .error e => .error e
    | .ok none => (readClosing ']' cs).map fun rest => (read.reverse, rest)
    | .ok (some rest) =>
      match item rest with
      | .error e => .error e
      | .ok (a, rest) => readListFrom item fuel false (a :: read) rest

def readList {α : Type} (item : List Glyph → Reading α) (cs : List Glyph) : Reading (List α) :=
  match skipSpace cs with
  | [] => .error .cutShort
  | some '[' :: rest => readListFrom item (rest.length + 1) true [] rest
  | cs => .error (misfit cs)

/-- Reads a name whose opening quote is gone, and makes a value of it. -/
def nameRest {α : Type} (make : String → Option α) (cs : List Glyph) : Reading α :=
  match stringRest cs with
  | .error e => .error e
  | .ok (s, rest) =>
    match make s with
    | some a => .ok (a, rest)
    | none => .error .unfit

/-- Reads one of a fixed set of names: as a string, or as a record with that name over null. -/
def readName {α : Type} (make : String → Option α) (cs : List Glyph) : Reading α :=
  match skipSpace cs with
  | [] => .error .cutShort
  | some '"' :: rest => nameRest make rest
  | some '\x7b' :: rest =>
    match skipSpace rest with
    | [] => .error .cutShort
    | some '"' :: rest =>
      match nameRest make rest with
      | .error e => .error e
      | .ok (a, rest) =>
        match readColon rest with
        | .error e => .error e
        | .ok rest =>
          match skipSpace rest with
          | [] => .error .cutShort
          | some 'n' :: rest =>
            match word ['u', 'l', 'l'] rest with
            | .error e => .error e
            | .ok rest => (readClosing '\x7d' rest).map fun rest => (a, rest)
          | cs => .error (misfit cs)
    | _ => .error .malformed
  | _ => .error .malformed

end Campus.Json
