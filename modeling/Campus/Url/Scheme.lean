/-! # Schemes

What stands in front of the first colon of an address, and which rules follow from it.
-/
namespace Campus.Url

def impliedPort (scheme : List Char) : Option Nat :=
  match String.ofList scheme with
  | "http" | "ws" => some 80
  | "https" | "wss" => some 443
  | "ftp" => some 21
  | _ => none

def namesFiles (scheme : List Char) : Bool := scheme == ['f', 'i', 'l', 'e']

/-- Whether a scheme has the rules of the web, among them that a backslash counts as a slash. -/
def isSpecial (scheme : List Char) : Bool := (impliedPort scheme).isSome || namesFiles scheme

private def isSchemeChar (c : Char) : Bool := c.isAlphanum || c == '+' || c == '-' || c == '.'

def scheme? (cs : List Char) : Option (List Char × List Char) :=
  match cs.span isSchemeChar with
  | (c :: name, ':' :: rest) => if c.isAlpha then some ((c :: name).map Char.toLower, rest) else none
  | _ => none

end Campus.Url
