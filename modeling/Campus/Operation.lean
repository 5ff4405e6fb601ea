import Campus.Cancellation
import Campus.Wire

/-! # Operations and responses

One decoded request to a service, and what a service answers when all goes well. Identifiers stay the texts that arrived:
reading them is part of handling the operation.
-/
namespace Campus

inductive Operation where
  | getStudent (id : String)
  | listStudents (page : Page)
  | createStudent (payload : NewStudent)
  | updateStudent (id : String) (payload : NewStudent)
  | deleteStudent (id : String)
  | getStudentCourses (id : String)
  | enrollStudent (id : String) (payload : NewEnrollment)
  | getCourseStudents (courseId : String)
  | getCourse (id : String)
  | listCourses (page : Page)
  | createCourse (payload : NewCourse)
  | updateCourse (id : String) (payload : NewCourse)
  | deleteCourse (id : String)
  | createAccount (payload : NewAccount)
  | getAccount (username : String)
  | updateAccount (username : String) (update : AccountUpdate)
  deriving DecidableEq

namespace Operation

def method : Operation → String
  | getStudent _ => "get_student"
  | listStudents _ => "list_students"
  | createStudent _ => "create_student"
  | updateStudent _ _ => "update_student"
  | deleteStudent _ => "delete_student"
  | getStudentCourses _ => "get_student_courses"
  | enrollStudent _ _ => "enroll_student"
  | getCourseStudents _ => "get_course_students"
  | getCourse _ => "get_course"
  | listCourses _ => "list_courses"
  | createCourse _ => "create_course"
  | updateCourse _ _ => "update_course"
  | deleteCourse _ => "delete_course"
  | createAccount _ => "create_account"
  | getAccount _ => "get_account"
  | updateAccount _ _ => "update_account"

def fields : Operation → String
  | getStudent id | updateStudent id _ | deleteStudent id | getStudentCourses id | getCourse id | updateCourse id _
  | deleteCourse id => s!"id={id}"
  | enrollStudent id payload => s!"id={id} course_id={payload.courseId.toInt}"
  | getCourseStudents courseId => s!"course_id={courseId}"
  | listStudents page | listCourses page => s!"limit={page.limit.toNat} offset={page.offset.toNat}"
  | createStudent payload => s!"grade={payload.grade.toInt}"
  | createCourse payload => s!"name={payload.name}"
  | createAccount payload => s!"username={payload.username}"
  | getAccount username | updateAccount username _ => s!"username={username}"

end Operation

inductive Response where
  | student (s : Student)
  | students (list : List Student)
  | course (c : Course)
  | courses (list : List Course)
  | enrollment (e : Enrollment)
  | account (a : Account)
  | deleted
  deriving DecidableEq

/-- A type whose values are named in a few words for a log line. -/
class Summarize (α : Type) where
  summary : α → String

export Summarize (summary)

instance : Summarize Student where
  summary s := s!"student id={s.id.toInt}"

instance : Summarize Course where
  summary c := s!"course id={c.id.toInt}"

instance {α : Type} : Summarize (List α) where
  summary list := s!"len={list.length}"

instance : Summarize Response where
  summary
    | .student s => summary s
    | .course c => summary c
    | .students list => s!"students {summary list}"
    | .courses list => s!"courses {summary list}"
    | .enrollment e => s!"enrollment student_id={e.studentId.toInt} course_id={e.courseId.toInt}"
    | .account a => s!"account username={a.username}"
    | .deleted => "deleted"

/-- The body that carries a response: the bare record or list. -/
def Response.write : Response → List Char
  | .student s => Wire.write s
  | .students list => Wire.write list
  | .course c => Wire.write c
  | .courses list => Wire.write list
  | .enrollment e => Wire.write e
  | .account a => Wire.write a
  | .deleted => ['n', 'u', 'l', 'l']

def Response.encode (r : Response) : String := String.ofList r.write

end Campus
