import Campus.Journal
import Campus.Json.Text

/-! # Lines of a log

A notice as one line of text, for people or for programs.
-/
namespace Campus.Notice

def FieldValue.chars : FieldValue → List Char
  | .text s => Json.stringChars s
  | .number n => Json.intChars n

/-- A notice as a JSON record: the level, and the message among the fields. -/
def jsonLine (n : Notice) : String :=
  let fields := ("message", Json.stringChars n.message) :: n.fields.map fun f => (f.1, FieldValue.chars f.2)
  String.ofList (Json.recordChars
    [("level", Json.stringChars n.level.label), ("fields", Json.recordChars fields)])

/-- A notice for people: the level, the message, and the fields behind it. -/
def prettyLine (n : Notice) : String :=
  let field (f : String × FieldValue) := s!" {f.1}=" ++ String.ofList (FieldValue.chars f.2)
  s!"{n.level.label} {n.message}" ++ String.join (n.fields.map field)

end Campus.Notice
