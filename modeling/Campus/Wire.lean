import Campus.Fault
import Campus.Json.Schema
import Campus.Record

/-! # The wire format

Each record that travels between services, or between a caller and a service, has a schema. Encoding writes the record as
JSON in schema order; decoding reads it back.
-/
namespace Campus

open Json

/-- A type whose values travel as JSON. -/
class Wire (α : Type) where
  /-- The text of a value. -/
  write : α → List Char
  /-- Reads a value off the front of a text. -/
  read : List Glyph → Reading α

namespace Wire

variable {α : Type} [Wire α]

def encode (a : α) : String := String.ofList (write a)

/-- Reads a value that fills a text. -/
def decode (s : String) : Except Flaw α := whole read (glyphs s)

/-- Reads a value that fills a text with stray bytes. -/
def decodeGlyphs (cs : List Glyph) : Except Flaw α := whole read cs

@[reducible] def ofSchema {β : Type} (fields : List Field) (values : β → List Scalar) (make : List Scalar → Option β) :
    Wire β where
  write b := writeRecord fields (values b)
  read cs := match readRecord fields cs with
    | .error e => .error e
    | .ok (vs, rest) =>
      match make vs with
      | some b => .ok (b, rest)
      | none => .error .unfit

def int64 : Shape := .int (-9223372036854775808) 9223372036854775807
def int32 : Shape := .int (-2147483648) 2147483647
def uint32 : Shape := .int 0 4294967295

def gradeField : Field := ⟨"grade", int32, some (.int 0), some (.int 0)⟩

def newGradeField : Field := ⟨"grade", int32, some (.int 0), none⟩

instance : Wire Student := ofSchema
  [.required "id" int64, .required "fullname" .text, .required "date_of_birth" .date, gradeField, .required "phone" int64]
  (fun s => [.int s.id.toInt, .text s.fullname, .date s.dateOfBirth, .int s.grade.toInt, .int s.phone.toInt])
  fun
    | [.int id, .text name, .date born, .int grade, .int phone] =>
      some ⟨Int64.ofInt id, name, born, Int32.ofInt grade, Int64.ofInt phone⟩
    | _ => none

instance : Wire NewStudent := ofSchema
  [.required "fullname" .text, .required "date_of_birth" .date, newGradeField, .required "phone" int64]
  (fun s => [.text s.fullname, .date s.dateOfBirth, .int s.grade.toInt, .int s.phone.toInt])
  fun
    | [.text name, .date born, .int grade, .int phone] => some ⟨name, born, Int32.ofInt grade, Int64.ofInt phone⟩
    | _ => none

instance : Wire Course := ofSchema
  [.required "id" int64, .required "name" .text]
  (fun c => [.int c.id.toInt, .text c.name])
  fun
    | [.int id, .text name] => some ⟨Int64.ofInt id, name⟩
    | _ => none

instance : Wire NewCourse := ofSchema
  [.required "name" .text]
  (fun c => [.text c.name])
  fun
    | [.text name] => some ⟨name⟩
    | _ => none

instance : Wire Enrollment := ofSchema
  [.required "id" int64, .required "student_id" int64, .required "course_id" int64, .required "created_at" .moment]
  (fun e => [.int e.id.toInt, .int e.studentId.toInt, .int e.courseId.toInt, .moment e.createdAt])
  fun
    | [.int id, .int student, .int course, .moment created] =>
      some ⟨Int64.ofInt id, Int64.ofInt student, Int64.ofInt course, created⟩
    | _ => none

instance : Wire NewEnrollment := ofSchema
  [.required "course_id" int64]
  (fun e => [.int e.courseId.toInt])
  fun
    | [.int course] => some ⟨Int64.ofInt course⟩
    | _ => none

instance : Wire Account := ofSchema
  [.required "username" .text, .required "full_name" .text, .required "email" .text, .required "created_at" .moment]
  (fun a => [.text a.username, .text a.fullName, .text a.email, .moment a.createdAt])
  fun
    | [.text username, .text name, .text email, .moment created] => some ⟨username, name, email, created⟩
    | _ => none

instance : Wire NewAccount := ofSchema
  [.required "username" .text, .required "full_name" .text, .required "email" .text]
  (fun a => [.text a.username, .text a.fullName, .text a.email])
  fun
    | [.text username, .text name, .text email] => some ⟨username, name, email⟩
    | _ => none

private def optionalScalar : Option String → Scalar
  | some s => .text s
  | none => .absent

private def optionalText? : Scalar → Option (Option String)
  | .text s => some (some s)
  | .absent => some none
  | _ => none

instance : Wire AccountUpdate := ofSchema
  [.optional "full_name", .optional "email"]
  (fun u => [optionalScalar u.fullName, optionalScalar u.email])
  fun
    | [name, email] => do return ⟨← optionalText? name, ← optionalText? email⟩
    | _ => none

instance : Wire Page := ofSchema
  [.required "limit" uint32, .required "offset" uint32]
  (fun p => [.int p.limit.toNat, .int p.offset.toNat])
  fun
    | [.int limit, .int offset] => some ⟨UInt32.ofNat limit.toNat, UInt32.ofNat offset.toNat⟩
    | _ => none

end Wire

/-- The body of every answer that reports a fault. -/
structure ErrorEnvelope where
  error : String
  deriving DecidableEq

instance : Wire ErrorEnvelope := Wire.ofSchema
  [.required "error" .text]
  (fun e => [.text e.error])
  fun
    | [.text error] => some ⟨error⟩
    | _ => none

instance : Wire FaultKind where
  write k := stringChars k.label
  read := readName FaultKind.ofLabel?

instance {α : Type} [Wire α] : Wire (List α) where
  write items := listChars (items.map Wire.write)
  read := readList Wire.read

end Campus
