import Campus.Calendar.Moment

/-! # Records

What the services keep: students, courses, the enrollments that link them, and accounts; and what callers send to write
them.
-/
namespace Campus

/-- A student. Grades run from 0 (not set) to 11. -/
structure Student where
  id : Int64
  fullname : String
  dateOfBirth : Date
  grade : Int32
  phone : Int64
  deriving DecidableEq

/-- What is sent to create or replace a student. -/
structure NewStudent where
  fullname : String
  dateOfBirth : Date
  grade : Int32
  phone : Int64
  deriving DecidableEq

def NewStudent.toStudent (p : NewStudent) (id : Int64) : Student :=
  ⟨id, p.fullname, p.dateOfBirth, p.grade, p.phone⟩

structure Course where
  id : Int64
  name : String
  deriving DecidableEq

/-- What is sent to create or rename a course. -/
structure NewCourse where
  name : String
  deriving DecidableEq

/-- The link of a student to a course, kept beside the students. -/
structure Enrollment where
  id : Int64
  studentId : Int64
  courseId : Int64
  createdAt : Moment
  deriving DecidableEq

/-- What is sent to enroll a student. -/
structure NewEnrollment where
  courseId : Int64
  deriving DecidableEq

structure Account where
  username : String
  fullName : String
  email : String
  createdAt : Moment
  deriving DecidableEq

structure NewAccount where
  username : String
  fullName : String
  email : String
  deriving DecidableEq

/-- A partial change of an account; what is absent stays. -/
structure AccountUpdate where
  fullName : Option String
  email : Option String
  deriving DecidableEq

/-- A window on a list: how many rows, behind how many others. -/
structure Page where
  limit : UInt32
  offset : UInt32
  deriving DecidableEq

namespace Page

def defaultLimit : UInt32 := 100

/-- A window whose limit of zero means the default limit. -/
def sized (limit offset : UInt32) : Page := ⟨if limit = 0 then defaultLimit else limit, offset⟩

/-- The first rows, as many as the default limit. -/
def first : Page := sized 0 0

end Page

end Campus
