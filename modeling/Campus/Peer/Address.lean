import Campus.Fault
import Campus.Text.Quoted
import Campus.Url

/-! # Addresses of peers

The address of a sibling service is completed by a scheme where it has none. The path of a request is the template of its kind
with the id as one segment, behind the path of the address.
-/
namespace Campus.Peer

/-- Reads the address of a peer, behind `http://` unless it begins with `http://` or `https://`. -/
def parseAddress (raw : String) : Except Fault Url :=
  let isComplete := "http://".toList.isPrefixOf raw.toList || "https://".toList.isPrefixOf raw.toList
  match Url.parse (if isComplete then raw.toList else "http://".toList ++ raw.toList) with
  | .ok u => .ok u
  | .error e => .error (.configuration s!"invalid peer URL {Text.quote raw}: {e.message}")

/-- One segment of a template: as it stands, or the place of the id. -/
inductive TemplatePart where
  | literal (text : List Char)
  | id
  deriving DecidableEq, Repr

structure PathTemplate where
  parts : List TemplatePart
  deriving DecidableEq, Repr

namespace PathTemplate

def placeholder : List Char := "\x7bid\x7d".toList

/-- Reads a template, which must have exactly one place for the id. -/
def parse (template : String) : Except Fault PathTemplate :=
  let parts := ((Text.cut '/' template.toList).filter (· ≠ [])).map fun s =>
    if s = placeholder then TemplatePart.id else .literal s
  if parts.count .id = 1 then .ok ⟨parts⟩
  else .error (.configuration
    (s!"path template {Text.quote template} must contain exactly one " ++ String.ofList placeholder ++ " segment"))

def fill (id : List Char) : TemplatePart → List Char
  | .literal text => text
  | .id => id

def resolve (t : PathTemplate) (base : Url) (id : String) : Except Fault Url :=
  match base.path with
  | .plain _ => .error (.configuration s!"base URL {base.text} cannot carry a path")
  | .segments list =>
    .ok { base with path := .segments ((t.parts.map (fill id.toList)).foldl (Url.push base.scheme) (Url.dropEmptyEnd list)) }

end PathTemplate

end Campus.Peer
