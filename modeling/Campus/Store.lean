import Campus.Store.Table

/-! # The store

The tables of students, courses, enrollments and accounts. Ids of new rows are counted from one and never used again. Deleting
a student deletes the enrollments of that student.
-/
namespace Campus

def AccountUpdate.apply (u : AccountUpdate) (a : Account) : Account :=
  { a with fullName := u.fullName.getD a.fullName, email := u.email.getD a.email }

structure Store where
  students : Table Int64 Student
  courses : Table Int64 Course
  enrollments : Table Int64 Enrollment
  accounts : Table String Account
  nextStudent : Int64
  nextCourse : Int64
  nextEnrollment : Int64
  deriving DecidableEq

namespace Store

def empty : Store := ⟨.empty, .empty, .empty, .empty, 1, 1, 1⟩

/-! ## Students -/

def student? (s : Store) (id : Int64) : Option Student := s.students.get? id

def listStudents (s : Store) (page : Page) : List Student := page.select Student.id s.students.rows

def createStudent (s : Store) (payload : NewStudent) : Student × Store :=
  let row := payload.toStudent s.nextStudent
  (row, { s with students := s.students.put s.nextStudent row, nextStudent := s.nextStudent + 1 })

def updateStudent (s : Store) (id : Int64) (payload : NewStudent) : Option Student × Store :=
  let (row, students) := s.students.modify id fun _ => payload.toStudent id
  (row, { s with students })

/-- Deletes a student with all enrollments of that student, and says whether there was one. -/
def deleteStudent (s : Store) (id : Int64) : Bool × Store :=
  if (s.student? id).isSome then
    (true, { s with
      students := s.students.erase id
      enrollments := s.enrollments.filter fun e => e.studentId ≠ id })
  else (false, s)

/-! ## Enrollments -/

def createEnrollment (s : Store) (studentId courseId : Int64) (createdAt : Moment) : Enrollment × Store :=
  let row : Enrollment := ⟨s.nextEnrollment, studentId, courseId, createdAt⟩
  (row, { s with enrollments := s.enrollments.put s.nextEnrollment row, nextEnrollment := s.nextEnrollment + 1 })

def enrollmentsOf (s : Store) (studentId : Int64) (page : Page) : List Enrollment :=
  page.select Enrollment.id (s.enrollments.rows.filter fun e => e.studentId = studentId)

def dropRepeats : List Int64 → List Int64
  | [] => []
  | [a] => [a]
  | a :: b :: rest => if a = b then dropRepeats (b :: rest) else a :: dropRepeats (b :: rest)

/-- The students that are enrolled in one course, each once, in the order of their ids. -/
def roster (s : Store) (courseId : Int64) (page : Page) : List Student :=
  let ids := ((s.enrollments.rows.filter fun e => e.courseId = courseId).map Enrollment.studentId).mergeSort fun a b => a ≤ b
  page.select Student.id ((dropRepeats ids).filterMap s.student?)

/-! ## Courses -/

def course? (s : Store) (id : Int64) : Option Course := s.courses.get? id

def listCourses (s : Store) (page : Page) : List Course := page.select Course.id s.courses.rows

def createCourse (s : Store) (payload : NewCourse) : Course × Store :=
  let row : Course := ⟨s.nextCourse, payload.name⟩
  (row, { s with courses := s.courses.put s.nextCourse row, nextCourse := s.nextCourse + 1 })

def updateCourse (s : Store) (id : Int64) (payload : NewCourse) : Option Course × Store :=
  let (row, courses) := s.courses.modify id fun c => { c with name := payload.name }
  (row, { s with courses })

def deleteCourse (s : Store) (id : Int64) : Bool × Store :=
  if (s.course? id).isSome then (true, { s with courses := s.courses.erase id }) else (false, s)

/-! ## Accounts -/

def account? (s : Store) (username : String) : Option Account := s.accounts.get? username

/-- Creates an account, unless the username is taken. -/
def createAccount (s : Store) (payload : NewAccount) (createdAt : Moment) : Option Account × Store :=
  match s.account? payload.username with
  | some _ => (none, s)
  | none =>
    let row : Account := ⟨payload.username, payload.fullName, payload.email, createdAt⟩
    (some row, { s with accounts := s.accounts.put payload.username row })

def updateAccount (s : Store) (username : String) (update : AccountUpdate) : Option Account × Store :=
  let (row, accounts) := s.accounts.modify username (AccountUpdate.apply update)
  (row, { s with accounts })

end Store

end Campus
