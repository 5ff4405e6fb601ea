/-! # Media types

The type of a body, as a request names it: a type, a slash, a subtype that may end in a suffix behind a plus sign, and
parameters behind semicolons.
-/
namespace Campus.Http.MediaType

def isTokenChar (c : Char) : Bool := c.isAlphanum || "!#$%&'*+-.^_|~\x60".toList.contains c

def isQuotable (c : Char) : Bool := 0x20 ≤ c.toNat && c.toNat ≠ 0x7f

inductive Spot where
  | gap
  | name
  | equals
  | value
  | openQuote
  | quoted
  | closeQuote
  deriving DecidableEq, Repr

namespace Spot

def next? (s : Spot) (c : Char) : Option Spot :=
  match s with
  | gap => if c = ' ' then some gap else if isTokenChar c then some name else none
  | name => if c = '=' then some equals else if isTokenChar c then some name else none
  | equals => if c = '"' then some openQuote else if isTokenChar c then some value else none
  | value => if c = ';' then some gap else if isTokenChar c then some value else none
  | openQuote => if isQuotable c then some quoted else none
  | quoted => if c = '"' then some closeQuote else if isQuotable c then some quoted else none
  | closeQuote => if c = ';' then some gap else if c = ' ' then some closeQuote else none

def isEnd : Spot → Bool
  | gap | equals | value | closeQuote => true
  | name | openQuote | quoted => false

end Spot

def isParameters (cs : List Char) : Bool :=
  match cs.foldlM Spot.next? .gap with
  | some spot => spot.isEnd
  | none => false

/-- The name and the suffix of a subtype, cut at the last plus sign that is not its first character. -/
def suffix (subtype : List Char) : List Char × List Char :=
  let back := (subtype.reverse.takeWhile (· ≠ '+')).reverse
  if back.length + 1 < subtype.length then (subtype.take (subtype.length - back.length - 1), back) else (subtype, [])

def json : List Char := ['j', 's', 'o', 'n']

/-- Whether a text names JSON: `application/json`, or an application type with the suffix `json`. -/
def isJson (text : String) : Bool :=
  let cs := text.toList
  let (type, rest) := cs.span isTokenChar
  let (subtype, parameters) := (rest.drop 1).span isTokenChar
  let (name, last) := suffix (subtype.map Char.toLower)
  cs.all (fun c => 0x20 ≤ c.toNat && c.toNat < 0x7f) &&
    type.map Char.toLower == "application".toList && rest.head? == some '/' &&
    (name == json || last == json) &&
    match parameters with
    | [] => true
    | c :: parameters => c == ';' && isParameters parameters

example : isJson "application/json" = true ∧ isJson "Application/vnd.api+JSON; a=\"b\"" = true := by decide

example : isJson "text/json" = false ∧ isJson "application/jsonx" = false ∧ isJson "application/json; a" = false := by decide

end Campus.Http.MediaType
