import Campus.Http.MediaType
import Campus.Http.Message
import Campus.Http.Place
import Campus.Http.Query
import Campus.Operation

/-! # Intents

What a request asks of a service: an operation, or how the service is. A request that leads nowhere, or cannot be read, is
answered at once. The path comes before the method, the id in the path before the body, and the type of the body before its size
and its text. Of a body or a query that cannot be read an answer tells here only that, and leaves out what the reader found wrong.
-/
namespace Campus.Http

inductive Intent where
  | operation (op : Operation)
  | health
  | live
  | ready
  deriving DecidableEq

def maxBody : Nat := 2097152

namespace Request

/-- What a target names at the host: the target itself, or what stands behind the host that it begins with. A fragment is no
part of it. -/
def resource (r : Request) : List Char :=
  let target := r.target.takeWhile (· ≠ '#')
  match target with
  | '/' :: _ => target
  | _ =>
    match target.dropWhile (· ≠ ':') with
    | ':' :: '/' :: '/' :: rest => rest.dropWhile fun c => c ≠ '/' ∧ c ≠ '?'
    | _ => []

/-- The path of a request, in front of the first question mark. -/
def path (r : Request) : List Char := r.resource.takeWhile (· ≠ '?')

/-- What stands behind the first question mark. -/
def query (r : Request) : List Char := (r.resource.dropWhile (· ≠ '?')).drop 1

def read {α : Type} [Wire α] (r : Request) : Except Fault α :=
  if !(r.contentType.any MediaType.isJson) then
    .error (.validation "Expected request with `Content-Type: application/json`")
  else if maxBody < r.body.length then
    .error (.validation "Failed to buffer the request body: length limit exceeded")
  else match (Wire.decodeGlyphs (Text.Utf8.places r.body) : Except Json.Flaw α) with
    | .ok a => .ok a
    | .error .unfit => .error (.validation "Failed to deserialize the JSON body into the target type")
    | .error .malformed | .error .cutShort => .error (.validation "Failed to parse the request body as JSON")

/-- The window that the query of a request asks for. -/
def page (r : Request) : Except Fault Page :=
  match Query.page? r.query with
  | some p => .ok p
  | none => .error (.validation "Failed to deserialize query string")

/-- What a request asks of a place that serves its method, with the id of the place as text. -/
def intent (r : Request) (place : Place) (id : String) : Except Fault Intent :=
  match place, r.method with
  | .health, _ => .ok .health
  | .live, _ => .ok .live
  | .ready, _ => .ok .ready
  | .students, "POST" => do return .operation (.createStudent (← r.read))
  | .students, _ => do return .operation (.listStudents (← r.page))
  | .student _, "PUT" => do return .operation (.updateStudent id (← r.read))
  | .student _, "DELETE" => .ok (.operation (.deleteStudent id))
  | .student _, _ => .ok (.operation (.getStudent id))
  | .studentCourses _, "POST" => do return .operation (.enrollStudent id (← r.read))
  | .studentCourses _, _ => .ok (.operation (.getStudentCourses id))
  | .roster _, _ => .ok (.operation (.getCourseStudents id))
  | .courses, "POST" => do return .operation (.createCourse (← r.read))
  | .courses, _ => do return .operation (.listCourses (← r.page))
  | .course _, "PUT" => do return .operation (.updateCourse id (← r.read))
  | .course _, "DELETE" => .ok (.operation (.deleteCourse id))
  | .course _, _ => .ok (.operation (.getCourse id))
  | .accounts, _ => do return .operation (.createAccount (← r.read))
  | .account _, "PUT" => do return .operation (.updateAccount id (← r.read))
  | .account _, _ => .ok (.operation (.getAccount id))

/-- The id in the path of a place as text, or the answer to a path whose bytes are none. -/
def idText (place : Place) : Except Answer String :=
  match place.parameter? with
  | none => .ok ""
  | some (name, raw) =>
    match Text.Utf8.decode? (Text.Percent.decode raw) with
    | some text => .ok (String.ofList text)
    | none => .error (.plain 400 s!"Invalid URL: Invalid UTF-8 in `{name}`")

/-- What a request asks of a service of a kind, or the answer that it gets at once. -/
def understand (r : Request) (kind : ServiceKind) : Except Answer Intent :=
  match Place.locate? kind r.path with
  | none => .error (.bare 404)
  | some place =>
    if !place.methods.contains r.method then .error { Answer.bare 405 with allow := some place.allow }
    else do (r.intent place (← idText place)).mapError Answer.ofFault

end Request

def Answer.ofResult : Except Fault Response → Answer
  | .ok .deleted => .bare 204
  | .ok response => .json 200 response.write
  | .error f => .ofFault f

end Campus.Http
