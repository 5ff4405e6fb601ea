import Campus.Fault
import Campus.Identifier
import Campus.Record
import Campus.Text.Blank

/-! # Checks on payloads

What a payload must look like before it is stored. Each check reports the first thing that is wrong.
-/
namespace Campus.Check

def maxGrade : Int32 := 11

def id (raw : String) : Except Fault Int64 :=
  match parseIdentifier raw with
  | .ok n => .ok n
  | .error e => .error (.validation e.message)

def student (p : NewStudent) : Except Fault Unit :=
  if Text.isBlankText p.fullname then .error (.validation "fullname must not be empty")
  else if 0 ≤ p.grade ∧ p.grade ≤ maxGrade then .ok ()
  else .error (.validation s!"grade must be between 0 and {maxGrade.toInt}, got {p.grade.toInt}")

def course (p : NewCourse) : Except Fault Unit :=
  if Text.isBlankText p.name then .error (.validation "name must not be empty") else .ok ()

def enrollment (p : NewEnrollment) : Except Fault Unit :=
  if p.courseId ≤ 0 then .error (.validation "course_id must be positive") else .ok ()

def username (name : String) : Except Fault Unit :=
  match checkUsername name with
  | .ok _ => .ok ()
  | .error e => .error (.validation e.message)

def fullName (name : String) : Except Fault Unit :=
  if Text.isBlankText name then .error (.validation "full_name must not be empty") else .ok ()

def isAddress (email : List Char) : Bool :=
  match email.span (· ≠ '@') with
  | (_ :: _, _ :: _ :: _) => true
  | _ => false

def email (address : String) : Except Fault Unit :=
  if isAddress address.toList then .ok () else .error (.validation s!"email {Text.quote address} is not an address")

def account (p : NewAccount) : Except Fault Unit := do
  username p.username
  fullName p.fullName
  email p.email

def update (u : AccountUpdate) : Except Fault Unit := do
  match u.fullName with
  | some name => fullName name
  | none => pure ()
  match u.email with
  | some address => email address
  | none => pure ()

end Campus.Check
