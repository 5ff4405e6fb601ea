import Campus.Config
import Campus.Text.Cut

/-! # Places

What the path of a request leads to. Each kind of service has places of its own, besides those that tell how it is. A place
serves some methods and refuses the others. An id at the end of a path has at least one character; one in the middle may be
empty, and leads to a place that no one has.
-/
namespace Campus.Http

/-- What a path leads to. The text of an id is as it was sent. -/
inductive Place where
  | students
  | student (id : List Char)
  | studentCourses (id : List Char)
  | courses
  | course (id : List Char)
  | roster (course : List Char)
  | accounts
  | account (username : List Char)
  | health
  | live
  | ready
  deriving DecidableEq, Repr

namespace Place

def segments (path : List Char) : List String := ((Text.cut '/' path).drop 1).map String.ofList

def ofStudents? : List String → Option Place
  | ["students"] => some students
  | ["students", id] => if id = "" then none else some (student id.toList)
  | ["students", id, "courses"] => some (studentCourses id.toList)
  | ["courses", id, "students"] => some (roster id.toList)
  | _ => none

def ofCourses? : List String → Option Place
  | ["courses"] => some courses
  | ["courses", id] => if id = "" then none else some (course id.toList)
  | ["courses", id, "students"] => some (roster id.toList)
  | _ => none

def ofAccounts? : List String → Option Place
  | ["accounts"] => some accounts
  | ["accounts", name] => if name = "" then none else some (account name.toList)
  | _ => none

/-- What a path leads to in a service of a kind. -/
def locate? (kind : ServiceKind) (path : List Char) : Option Place :=
  match segments path with
  | ["health"] => some health
  | ["health", "live"] => some live
  | ["health", "ready"] => some ready
  | parts =>
    match kind with
    | .students => ofStudents? parts
    | .courses => ofCourses? parts
    | .accounts => ofAccounts? parts

/-- The methods that a place serves. Where something can be got, its head can be got too. -/
def methods : Place → List String
  | students | studentCourses _ | courses => ["GET", "HEAD", "POST"]
  | student _ | course _ => ["GET", "HEAD", "PUT", "DELETE"]
  | accounts => ["POST"]
  | account _ => ["GET", "HEAD", "PUT"]
  | roster _ | health | live | ready => ["GET", "HEAD"]

/-- The list of the methods that a place serves, as an answer names them. -/
def allow (p : Place) : String := ",".intercalate p.methods

def parameter? : Place → Option (String × List Char)
  | student id | studentCourses id | course id | roster id => some ("id", id)
  | account username => some ("username", username)
  | _ => none

end Place

end Campus.Http
