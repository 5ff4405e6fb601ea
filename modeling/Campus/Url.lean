import Campus.Url.Host
import Campus.Url.Path

/-! # Addresses

The parts of an address and its text. Reading follows the common rules of the web: blanks at the ends and line breaks are
dropped, letters of scheme and host are made small, a port that the scheme implies is left out, dot segments are resolved, and
whatever may not stand in a part is percent-encoded.
-/
namespace Campus

structure Url where
  scheme : List Char
  username : List Char
  password : List Char
  host : Option Host
  port : Option Nat
  /-- Whether a slash and a dot stand in front of the path, so that its two slashes are not those of a host. -/
  dotted : Bool
  path : UrlPath
  query : Option (List Char)
  fragment : Option (List Char)
  deriving DecidableEq, Repr

namespace Url

/-! ## Reading -/

private def isEnd (c : Char) : Bool := c.toNat ≤ 0x20

/-- A text without controls and blanks at its ends, and without tabs and line breaks. -/
def clean (cs : List Char) : List Char :=
  (((cs.dropWhile isEnd).reverse.dropWhile isEnd).reverse).filter fun c => c ≠ '\t' ∧ c ≠ '\n' ∧ c ≠ '\r'

/-- Whether a character ends the part of an address that names the host. -/
def endsAuthority (special : Bool) (c : Char) : Bool := c = '/' || c = '?' || c = '#' || (special && c = '\\')

/-- Name and password in front of the last at sign. A password that is empty counts as none. -/
def credentials (user : List Char) : List Char × List Char :=
  let (name, rest) := user.span (· ≠ ':')
  (Text.Percent.encode Text.Percent.userSet name, Text.Percent.encode Text.Percent.userSet (rest.drop 1))

/-- The text of a host and what stands behind it. A colon within brackets belongs to the host. -/
def hostText (inBrackets : Bool) : List Char → List Char × List Char
  | [] => ([], [])
  | c :: rest =>
    if c = ':' ∧ !inBrackets then ([], c :: rest)
    else
      let (host, rest) := hostText (if c = '[' then true else if c = ']' then false else inBrackets) rest
      (c :: host, rest)

/-- Reads a port, none if no digits are given or the scheme implies it. -/
def readPort (scheme ds : List Char) : Except UrlFault (Option Nat) :=
  if ds.all Char.isDigit ∧ Text.digitsValue ds ≤ 65535 then
    let port := Text.digitsValue ds
    .ok (if ds = [] ∨ impliedPort scheme = some port then none else some port)
  else .error .invalidPort

def freeHost (cs : List Char) : Except UrlFault Host :=
  match cs with
  | '[' :: _ => Host.parse cs
  | _ =>
    if cs.any fun c => " #/:<>?@[\\]^|".toList.contains c || c = '\x00' then .error .invalidCharacter
    else .ok (.domain (String.ofList (Text.Percent.encode (fun _ => false) cs)))

structure Site where
  username : List Char
  password : List Char
  host : Host
  port : Option Nat
  /-- What stands behind the port: nothing, or a backslash that does not count as a slash and begins the path. -/
  rest : List Char

/-- Reads an authority: name and password in front of the last at sign, host and port behind it. `isLast` says that nothing comes
behind the authority. A host may be empty only where neither name nor password nor port is given. -/
def readSite (scheme : List Char) (isLast : Bool) (cs : List Char) : Except UrlFault Site := do
  let back := (cs.reverse.span (· ≠ '@')).1.reverse
  let user := cs.take (cs.length - back.length - 1)
  if back.length < cs.length ∧ user = [] ∧ back = [] ∧ !isLast then throw .emptyHost
  let (username, password) := credentials user
  let (host, rest) := hostText false back
  if host = [] ∧ (isSpecial scheme ∨ rest ≠ [] ∨ username ≠ [] ∨ password ≠ []) then throw .emptyHost
  let host ← if isSpecial scheme then Host.parse host else freeHost host
  let (port, rest) := (rest.drop 1).span (· ≠ '\\')
  let port ← readPort scheme port
  return { username, password, host, port, rest }

def fileHost? (cs : List Char) : Except UrlFault (Option Host) :=
  if cs = [] then .ok none
  else do
    let host ← Host.parse cs
    return if host = .domain "localhost" then none else some host

def cutTail (special : Bool) (cs : List Char) : List Char × Option (List Char) × Option (List Char) :=
  let (cs, hash) := cs.span (· ≠ '#')
  let (path, mark) := cs.span (· ≠ '?')
  let querySet (c : Char) : Bool := Text.Percent.querySet c || (special && c == '\'')
  (path, mark.tail?.map (Text.Percent.encode querySet), hash.tail?.map (Text.Percent.encode Text.Percent.fragmentSet))

private def isSlash (c : Char) : Bool := c = '/' || c = '\\'

/-- The host and the path of a file. A drive gives up the host in front of it, and may stand where the host would. -/
def filePlace (body : List Char) : Except UrlFault (Host × List (List Char)) :=
  let read := readSegments ['f', 'i', 'l', 'e']
  let here : Host := .domain ""
  match body.takeWhile isSlash with
  | [] => .ok (here, read body)
  | [_] => .ok (here, read (body.drop 1))
  | _ => do
    let body := body.drop 2
    let (name, path) := body.span fun c => !endsAuthority true c
    if isDrive name then return (here, read body)
    match ← fileHost? name with
    | none => return (here, read path)
    | some host =>
      let segments := read (path.drop 1)
      return (if segments.head?.any isDrive then here else host, segments)

def parse (text : List Char) : Except UrlFault Url := do
  let some (scheme, rest) := scheme? (clean text) | throw .relative
  let special := isSpecial scheme
  let (body, query, fragment) := cutTail special rest
  let bare : Url := ⟨scheme, [], [], none, none, false, .plain [], query, fragment⟩
  let withHost (body : List Char) : Except UrlFault Url := do
    let (site, path) := body.span fun c => !endsAuthority special c
    let site ← readSite scheme (path = [] ∧ query.isNone ∧ fragment.isNone) site
    let path := site.rest ++ path
    let path := if path = [] ∧ !special then []
      else readSegments scheme (if site.rest = [] then path.drop 1 else path)
    return { bare with
      username := site.username, password := site.password, host := some site.host, port := site.port, path := .segments path }
  if namesFiles scheme then
    let (host, path) ← filePlace body
    return { bare with host := some host, path := .segments (dropEmptyFront path) }
  else if special then withHost (body.dropWhile isSlash)
  else match body with
    | '/' :: '/' :: body => withHost body
    | '/' :: body =>
      let path := readSegments scheme body
      return { bare with dotted := path.head? = some [] && 1 < path.length, path := .segments path }
    | body => return { bare with path := .plain (Text.Percent.encode (fun _ => false) body) }

/-! ## Writing -/

def siteChars (u : Url) : List Char :=
  match u.host with
  | some host => host.chars ++ (u.port.map fun p => ':' :: Text.digits p).getD []
  | none => []

/-- Name and password, as they stand in front of the host. -/
def userChars (u : Url) : List Char :=
  if u.username = [] ∧ u.password = [] then []
  else u.username ++ (if u.password = [] then [] else ':' :: u.password) ++ ['@']

def chars (u : Url) : List Char :=
  u.scheme ++ ':' :: (if u.host.isSome then '/' :: '/' :: (u.userChars ++ u.siteChars) else []) ++
    (if u.dotted then ['/', '.'] else []) ++ pathChars u.path ++
    (u.query.map ('?' :: ·)).getD [] ++ (u.fragment.map ('#' :: ·)).getD []

def text (u : Url) : String := String.ofList u.chars

example : (parse "HTTP://H:080/a/../b".toList).toOption.map text = some "http://h/b" := by decide +kernel

example : (parse "foo:/a/..//b".toList).toOption.map text = some "foo:/.//b" := by decide +kernel

def withoutCredentials (u : Url) : Url := { u with username := [], password := [] }

end Url

end Campus
