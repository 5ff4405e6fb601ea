import Campus.Text.Cut
import Campus.Text.Percent
import Campus.Url.Scheme

/-! # Paths

Where an address leads within its host. A path is resolved as its segments come: one dot stays in place and two go back, though
never behind the name of a drive. The path of a file begins with no empty segment, and a drive at its front has a colon.
-/
namespace Campus

/-- Where an address leads within its host: segments behind slashes, or a text without structure. -/
inductive UrlPath where
  | segments (list : List (List Char))
  | plain (text : List Char)
  deriving DecidableEq, Repr

namespace Url

/-- How many dots a segment stands for, a dot being written as itself or as a triple; none if it is a name. -/
def dots (segment : List Char) : Nat :=
  match String.ofList (segment.map Char.toLower) with
  | "." | "%2e" => 1
  | ".." | "%2e." | ".%2e" | "%2e%2e" => 2
  | _ => 0

/-- Whether a segment begins with the name of a drive, which is a letter and a colon or a bar. -/
def namesDrive : List Char → Bool
  | [letter, mark] => letter.isAlpha && (mark == ':' || mark == '|')
  | letter :: mark :: '\\' :: _ => letter.isAlpha && (mark == ':' || mark == '|')
  | _ => false

def isDrive (segment : List Char) : Bool := segment.length == 2 && namesDrive segment

def back (walked : List (List Char)) : List (List Char) :=
  if walked.getLast?.any namesDrive then walked else walked.dropLast

/-- The path one name further. A drive at the front of the path of a file is written with a colon. -/
def enter (ofFile : Bool) (walked : List (List Char)) (name : List Char) : List (List Char) :=
  if ofFile && walked.isEmpty && isDrive name then [name.take 1 ++ [':']] else walked ++ [name]

/-- The path behind some segments, given the segments to come. Dots at the end leave an empty segment. -/
def resolve (ofFile : Bool) (walked : List (List Char)) : List (List Char) → List (List Char)
  | [] => walked
  | segment :: rest =>
    let last := if rest.isEmpty then [[]] else []
    match dots segment with
    | 0 => resolve ofFile (enter ofFile walked segment) rest
    | 1 => resolve ofFile (walked ++ last) rest
    | _ => resolve ofFile (back walked ++ last) rest

example : resolve true [] ["C|".toList, "..".toList] = ["C:".toList, []] := by decide

def dropEmptyFront (segments : List (List Char)) : List (List Char) :=
  match segments.dropWhile (· = []) with
  | [] => [[]]
  | kept => kept

def readSegments (scheme cs : List Char) : List (List Char) :=
  let cs := if isSpecial scheme then cs.map fun c => if c = '\\' then '/' else c else cs
  resolve (namesFiles scheme) [] ((Text.cut '/' cs).map (Text.Percent.encode Text.Percent.pathSet))

def pathChars : UrlPath → List Char
  | .segments list => list.flatMap fun s => '/' :: s
  | .plain text => text

/-! ## Going on from a path -/

def dropEmptyEnd (segments : List (List Char)) : List (List Char) :=
  if segments.getLast? = some [] ∧ 1 < segments.length then segments.dropLast else segments

/-- A path with one more segment, to which the path of a bare slash gives way. The segments of one and of two dots are left out,
and so are tabs and line breaks; should dots remain then, they are resolved. -/
def push (scheme : List Char) (segments : List (List Char)) (segment : List Char) : List (List Char) :=
  if segment = ['.'] ∨ segment = ['.', '.'] then segments
  else
    let inSet (c : Char) : Bool := Text.Percent.segmentSet c || (isSpecial scheme && c == '\\')
    let encoded := Text.Percent.encode inSet (segment.filter fun c => c ≠ '\t' ∧ c ≠ '\n' ∧ c ≠ '\r')
    let walked := if segments = [[]] then [] else segments
    let path := resolve (namesFiles scheme) walked [encoded]
    if namesFiles scheme then dropEmptyFront path else path

end Url

end Campus
