import Campus.Identifier
import Campus.Record
import Campus.Text.Blank
import Campus.Text.Cut
import Campus.Text.Percent

/-! # Queries

The pairs behind the question mark of a request, and the window on a list that they ask for. A value that is no number counts
as zero.
-/
namespace Campus.Http.Query

/-- The text of a name or a value: a plus sign is a blank, and triples are bytes. -/
def unescape (cs : List Char) : List Char :=
  Text.Utf8.lossy (Text.Percent.decode (cs.map fun c => if c = '+' then ' ' else c))

/-- A name and a value, cut at the first equals sign. -/
def pair (part : List Char) : List Char × List Char :=
  let (name, rest) := part.span (· ≠ '=')
  (unescape name, unescape (rest.drop 1))

def pairs (query : List Char) : List (List Char × List Char) := ((Text.cut '&' query).filter (· ≠ [])).map pair

def number (value : List Char) : UInt32 :=
  let cs := Text.trim value
  let ds := if cs.head? = some '+' then cs.drop 1 else cs
  if ds ≠ [] ∧ ds.all Char.isDigit ∧ Text.digitsValue ds < UInt32.size then UInt32.ofNat (Text.digitsValue ds) else 0

/-- The number under some spellings of one name, unless it is given twice. -/
def field? (names : List String) (query : List Char) : Option UInt32 :=
  match (pairs query).filter fun p => names.contains (String.ofList p.1) with
  | [] => some 0
  | [(_, value)] => some (number value)
  | _ => none

def page? (query : List Char) : Option Page := do
  let limit ← field? ["limit", "Limit"] query
  let offset ← field? ["offset", "Offset"] query
  return .sized limit offset

end Campus.Http.Query
