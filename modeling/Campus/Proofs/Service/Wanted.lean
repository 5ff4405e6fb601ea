import Campus.Proofs.Service.Check
import Campus.Service

/-! # What a service needs of its peer

Three operations look beyond the records of their own service: the courses of a student, the enrollment of a student, and the students
of a course where the courses service is asked for them. Each looks first at its own records, and needs something of the peer only if
the text of the id is one, its row is there, and its payload is right.
-/
namespace Campus.Service

def Step.wanted : Step → List String
  | .reply _ => []
  | .confirmCourse _ course | .askRoster course => [toString course.toInt]
  | .askCourses _ courses => courses.map fun c => toString c.toInt

/-- The ids that a service of a kind needs of its peer for an operation. -/
inductive Wants (b : Backend) : ServiceKind → Operation → List String → Prop
  | nothing (kind : ServiceKind) (op : Operation) : Wants b kind op []
  /-- The course of each enrollment of a student that is read. -/
  | courses {id : String} {k : Int64} {student : Student} {rows : List Enrollment} (hid : parseIdentifier id = .ok k)
      (hrow : b.student? k = .ok (some student))
      (hrows : b.read (fun s => s.enrollmentsOf student.id relationPage) = .ok rows) :
    Wants b .students (.getStudentCourses id) (rows.map fun e => toString e.courseId.toInt)
  /-- The course that a student enrolls in. -/
  | confirmation {id : String} {k : Int64} {student : Student} {p : NewEnrollment} (hid : parseIdentifier id = .ok k)
      (hrow : b.student? k = .ok (some student)) (hpositive : 0 < p.courseId) :
    Wants b .students (.enrollStudent id p) [toString p.courseId.toInt]
  /-- The students of a course. -/
  | roster {id : String} {k : Int64} {course : Course} (hid : parseIdentifier id = .ok k)
      (hrow : b.read (fun s => s.course? k) = .ok (some course)) :
    Wants b .courses (.getCourseStudents id) [toString course.id.toInt]

theorem parseIdentifier_of_checkId {raw : String} {k : Int64} (h : Check.id raw = .ok k) : parseIdentifier raw = .ok k := by
  unfold Check.id at h
  split at h
  case h_1 n hparse => exact hparse.trans (congrArg Except.ok (Except.ok.inj h))
  case h_2 => cases h

theorem found_eq_ok {α : Type} {entity id : String} {row : Except Fault (Option α)} {a : α} (h : found entity id row = .ok a) :
    row = .ok (some a) := by
  unfold found at h
  split at h
  case h_1 => exact congrArg (Except.ok ∘ some) (Except.ok.inj h)
  case h_2 => cases h
  case h_3 => cases h

theorem found_by_id {α : Type} {entity raw : String} {look : Int64 → Except Fault (Option α)} {a : α}
    (h : (do let id ← Check.id raw; found entity raw (look id)) = .ok a) :
    ∃ k, parseIdentifier raw = .ok k ∧ look k = .ok (some a) := by
  cases hid : Check.id raw with
  | error f =>
    rw [hid] at h
    cases h
  | ok k =>
    rw [hid] at h
    exact ⟨k, parseIdentifier_of_checkId hid, found_eq_ok h⟩

section Steps

/-- Why a service goes to its peer: it is linked to one, and the rows that it starts from are there. -/
inductive Reasoned (b : Backend) (linked : Bool) : ServiceKind → Operation → Step → Prop
  | reply (kind : ServiceKind) (op : Operation) (result : Except Fault Response) : Reasoned b linked kind op (.reply result)
  | confirmCourse (hlinked : linked = true) {id : String} {student : Student} {p : NewEnrollment} (hpositive : 0 < p.courseId)
      (hfound : findStudent b id = .ok student) :
    Reasoned b linked .students (.enrollStudent id p) (.confirmCourse student.id p.courseId)
  | askRoster (hlinked : linked = true) {id : String} {course : Course} (hfound : findCourse b id = .ok course) :
    Reasoned b linked .courses (.getCourseStudents id) (.askRoster course.id)
  | askCourses (hlinked : linked = true) {id : String} {student : Student} {rows : List Enrollment}
      (hfound : findStudent b id = .ok student) (hrows : b.read (fun s => s.enrollmentsOf student.id relationPage) = .ok rows) :
    Reasoned b linked .students (.getStudentCourses id) (.askCourses id (rows.map Enrollment.courseId))

variable {b : Backend} {kind : ServiceKind} {op : Operation} {linked : Bool}

theorem reasoned_onward {α : Type} {value : Except Fault α} {next : α → Step × Backend}
    (h : ∀ a, value = .ok a → Reasoned b linked kind op (next a).1) : Reasoned b linked kind op (onward b value next).1 := by
  cases value with
  | error fault => exact .reply kind op _
  | ok a => exact h a rfl

variable (linked) (wall : Moment) (method : String) (op)

theorem reasoned_students : Reasoned b linked .students op (students linked wall method op b).1 := by
  cases op with
  | createStudent payload => exact reasoned_onward fun _ _ => .reply ..
  | updateStudent id payload => exact reasoned_onward fun _ _ => .reply ..
  | deleteStudent id => exact reasoned_onward fun _ _ => .reply ..
  | getStudentCourses id =>
    refine reasoned_onward fun student hfound => ?_
    cases linked with
    | false => exact .reply ..
    | true => exact reasoned_onward fun rows hrows => .askCourses rfl hfound hrows
  | enrollStudent id payload =>
    refine reasoned_onward fun student hstudent => ?_
    cases linked with
    | false => exact .reply ..
    | true =>
      obtain ⟨hpayload, hfound⟩ := Check.andThen_ok.mp hstudent
      exact .confirmCourse rfl (Check.enrollment_ok.mp hpayload) hfound
  | getCourseStudents courseId => exact reasoned_onward fun _ _ => .reply ..
  | _ => exact .reply ..

theorem reasoned_courses : Reasoned b linked .courses op (courses linked method op b).1 := by
  cases op with
  | createCourse payload => exact reasoned_onward fun _ _ => .reply ..
  | updateCourse id payload => exact reasoned_onward fun _ _ => .reply ..
  | deleteCourse id => exact reasoned_onward fun _ _ => .reply ..
  | getCourseStudents courseId =>
    refine reasoned_onward fun course hfound => ?_
    cases linked with
    | false => exact .reply ..
    | true => exact .askRoster rfl hfound
  | _ => exact .reply ..

theorem reasoned_accounts : Reasoned b linked .accounts op (accounts wall method op b).1 := by
  cases op with
  | createAccount payload => exact reasoned_onward fun _ _ => .reply ..
  | getAccount name => exact reasoned_onward fun _ _ => .reply ..
  | updateAccount name update => exact reasoned_onward fun _ _ => .reply ..
  | _ => exact .reply ..

theorem reasoned_handle (kind : ServiceKind) : Reasoned b linked kind op (handle kind linked wall method op b).1 := by
  cases kind with
  | students => exact reasoned_students op linked wall method
  | courses => exact reasoned_courses op linked method
  | accounts => exact reasoned_accounts op linked wall method

/-- What a service does first with an operation needs no more of the peer than the operation does. -/
theorem wants_handle (kind : ServiceKind) : Wants b kind op (handle kind linked wall method op b).1.wanted := by
  have hreasoned := reasoned_handle (b := b) op linked wall method kind
  generalize (handle kind linked wall method op b).1 = step at hreasoned ⊢
  cases hreasoned with
  | reply => exact .nothing kind op
  | confirmCourse hlinked hpositive hfound =>
    obtain ⟨k, hid, hrow⟩ := found_by_id hfound
    exact .confirmation hid hrow hpositive
  | askRoster hlinked hfound =>
    obtain ⟨k, hid, hrow⟩ := found_by_id hfound
    exact .roster hid hrow
  | askCourses hlinked hfound hrows =>
    obtain ⟨k, hid, hrow⟩ := found_by_id hfound
    rw [Step.wanted, List.map_map]
    exact .courses hid hrow hrows

end Steps

end Campus.Service
