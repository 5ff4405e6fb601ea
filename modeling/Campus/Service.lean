import Campus.Config
import Campus.Operation
import Campus.Service.Check
import Campus.Store.Backend

/-! # The services

What each service does with an operation. A service looks at its own records first. Then it replies, or it needs its peer: to
confirm that a course exists, to give the students of a course, or to give each of several courses. What the peer says leads
to the reply.
-/
namespace Campus.Service

/-- How far an operation gets on a service's own records. -/
inductive Step where
  | reply (result : Except Fault Response)
  /-- The peer is to confirm the course of an enrollment, which is then recorded. -/
  | confirmCourse (student course : Int64)
  /-- The peer is to give the students of a course. -/
  | askRoster (course : Int64)
  /-- The peer is to give each of the courses. -/
  | askCourses (seed : String) (courses : List Int64)

def relationPage : Page := .sized 1000 0

def methods : ServiceKind → List String
  | .students => ["get_student", "list_students", "create_student", "update_student", "delete_student",
      "get_student_courses", "enroll_student", "get_course_students"]
  | .courses => ["get_course", "list_courses", "create_course", "update_course", "delete_course", "get_course_students"]
  | .accounts => ["create_account", "get_account", "update_account"]

def found {α : Type} (entity id : String) (row : Except Fault (Option α)) : Except Fault α :=
  match row with
  | .ok (some a) => .ok a
  | .ok none => .error (.notFound entity id)
  | .error f => .error f

def answer (b : Backend) (result : Except Fault Response) : Step × Backend := (.reply result, b)

def changed {α : Type} (make : α → Response) (r : Except Fault α × Backend) : Step × Backend := (.reply (r.1.map make), r.2)

/-- Goes on with a value, or replies with the fault that stands for it. -/
def onward {α : Type} (b : Backend) (value : Except Fault α) (next : α → Step × Backend) : Step × Backend :=
  match value with
  | .ok a => next a
  | .error f => answer b (.error f)

def findStudent (b : Backend) (raw : String) : Except Fault Student := do
  let id ← Check.id raw
  found "student" raw (b.student? id)

def findCourse (b : Backend) (raw : String) : Except Fault Course := do
  let id ← Check.id raw
  found "course" raw (b.read fun s => s.course? id)

def enroll (student course : Int64) (wall : Moment) (b : Backend) : Except Fault Response × Backend :=
  let (result, b) := b.write fun s => s.createEnrollment student course wall
  (result.map .enrollment, b)

/-- The fault of an operation that a service does not know, under the method of its call. -/
def unknown (method : String) (b : Backend) : Step × Backend := answer b (.error (.unknownMethod method))

/-- Students: their records, their enrollments, and the courses behind these. -/
def students (linked : Bool) (wall : Moment) (method : String) (op : Operation) (b : Backend) : Step × Backend :=
  match op with
  | .getStudent id => answer b ((findStudent b id).map .student)
  | .listStudents page => answer b ((b.read fun s => s.listStudents page).map .students)
  | .createStudent payload =>
    onward b (Check.student payload) fun _ => changed .student (b.write fun s => s.createStudent payload)
  | .updateStudent id payload =>
    onward b (do Check.student payload; Check.id id) fun key =>
      let (row, b) := b.write fun s => s.updateStudent key payload
      changed .student (found "student" id row, b)
  | .deleteStudent id =>
    onward b (Check.id id) fun key =>
      let (gone, b) := b.write fun s => s.deleteStudent key
      changed (fun _ => .deleted) (found "student" id (gone.map fun g => if g then some () else none), b)
  | .getStudentCourses id =>
    onward b (findStudent b id) fun student =>
      if linked then
        onward b (b.read fun s => s.enrollmentsOf student.id relationPage) fun rows =>
          (.askCourses id (rows.map Enrollment.courseId), b)
      else answer b (.error (.configuration "no courses peer configured"))
  | .enrollStudent id payload =>
    onward b (do Check.enrollment payload; findStudent b id) fun student =>
      if linked then (.confirmCourse student.id payload.courseId, b)
      else
        let (result, b) := enroll student.id payload.courseId wall b
        answer b result
  | .getCourseStudents courseId =>
    onward b (Check.id courseId) fun key => answer b ((b.read fun s => s.roster key relationPage).map .students)
  | _ => unknown method b

/-- Courses: their records, and their students as the peer tells them. -/
def courses (linked : Bool) (method : String) (op : Operation) (b : Backend) : Step × Backend :=
  match op with
  | .getCourse id => answer b ((findCourse b id).map .course)
  | .listCourses page => answer b ((b.read fun s => s.listCourses page).map .courses)
  | .createCourse payload =>
    onward b (Check.course payload) fun _ => changed .course (b.write fun s => s.createCourse payload)
  | .updateCourse id payload =>
    onward b (do Check.course payload; Check.id id) fun key =>
      let (row, b) := b.write fun s => s.updateCourse key payload
      changed .course (found "course" id row, b)
  | .deleteCourse id =>
    onward b (Check.id id) fun key =>
      let (gone, b) := b.write fun s => s.deleteCourse key
      changed (fun _ => .deleted) (found "course" id (gone.map fun g => if g then some () else none), b)
  | .getCourseStudents courseId =>
    onward b (findCourse b courseId) fun course =>
      if linked then (.askRoster course.id, b)
      else answer b (.error (.configuration "no students peer configured"))
  | _ => unknown method b

def accounts (wall : Moment) (method : String) (op : Operation) (b : Backend) : Step × Backend :=
  match op with
  | .createAccount payload =>
    onward b (Check.account payload) fun _ =>
      let (row, b) := b.write fun s => s.createAccount payload wall
      let taken := Fault.validation s!"username {Text.quote payload.username} is taken"
      changed .account (row.bind fun r => match r with
        | some a => .ok a
        | none => .error taken, b)
  | .getAccount name =>
    onward b (Check.username name) fun _ =>
      answer b ((found "account" name (b.read fun s => s.account? name)).map .account)
  | .updateAccount name update =>
    onward b (do Check.username name; Check.update update) fun _ =>
      let (row, b) := b.write fun s => s.updateAccount name update
      changed .account (found "account" name row, b)
  | _ => unknown method b

/-- What a service of a kind does first with an operation. `linked` says whether it can reach its peer, and `wall` is the time
that new records get. -/
def handle (kind : ServiceKind) (linked : Bool) (wall : Moment) (method : String) (op : Operation) (b : Backend) :
    Step × Backend :=
  match kind with
  | .students => students linked wall method op b
  | .courses => courses linked method op b
  | .accounts => accounts wall method op b

end Campus.Service
