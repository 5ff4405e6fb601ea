import Campus.Proofs.Service.Check
import Campus.Service

/-! # What an operation does to the records

An operation that succeeds makes one change to the records of its service, after all its checks, or only reads them. One that
fails leaves them as they were, and so does one that has to ask the peer first. Only the record of an enrollment waits for the
peer, and then for a course whose number was checked.
-/
namespace Campus

def Operation.isReading : Operation → Bool
  | getStudent _ | listStudents _ | getStudentCourses _ | getCourseStudents _ | getCourse _ | listCourses _
  | getAccount _ => true
  | _ => false

/-- A change of a store goes through, or the store is out of order and stays as it is. -/
theorem Backend.write_cases {α : Type} (b : Backend) (f : Store → α × Store) :
    (∃ fault, b.write f = (.error fault, b)) ∨ b.write f = (.ok (f b.store).1, { b with store := (f b.store).2 }) := by
  unfold write
  cases b.outage with
  | some outage => exact .inl ⟨_, rfl⟩
  | none => exact .inr rfl

theorem Table.modify_of_none {κ ρ : Type} [DecidableEq κ] {t : Table κ ρ} {k : κ} {f : ρ → ρ} (h : (t.modify k f).1 = none) :
    (t.modify k f).2 = t := by
  unfold modify at h ⊢
  split at h
  case h_1 => cases h
  case h_2 => rfl

namespace Store

variable {s : Store}

/-! ## Changes that find no row -/

theorem updateStudent_of_none {id : Int64} {payload : NewStudent} (h : (s.updateStudent id payload).1 = none) :
    (s.updateStudent id payload).2 = s :=
  congrArg (fun students => { s with students }) (Table.modify_of_none h)

theorem deleteStudent_of_false {id : Int64} (h : (s.deleteStudent id).1 = false) : (s.deleteStudent id).2 = s := by
  unfold deleteStudent at h ⊢
  split at h
  case isTrue => cases h
  case isFalse hrow => rw [if_neg hrow]

theorem updateCourse_of_none {id : Int64} {payload : NewCourse} (h : (s.updateCourse id payload).1 = none) :
    (s.updateCourse id payload).2 = s :=
  congrArg (fun courses => { s with courses }) (Table.modify_of_none h)

theorem deleteCourse_of_false {id : Int64} (h : (s.deleteCourse id).1 = false) : (s.deleteCourse id).2 = s := by
  unfold deleteCourse at h ⊢
  split at h
  case isTrue => cases h
  case isFalse hrow => rw [if_neg hrow]

theorem createAccount_of_none {payload : NewAccount} {wall : Moment} (h : (s.createAccount payload wall).1 = none) :
    (s.createAccount payload wall).2 = s := by
  unfold createAccount at h ⊢
  split at h
  case h_1 => rfl
  case h_2 => cases h

theorem updateAccount_of_none {name : String} {update : AccountUpdate} (h : (s.updateAccount name update).1 = none) :
    (s.updateAccount name update).2 = s :=
  congrArg (fun accounts => { s with accounts }) (Table.modify_of_none h)

end Store

namespace Service

/-- What an operation answers when it succeeds, and the records after it. -/
inductive Effect (wall : Moment) (s : Store) : Operation → Response → Store → Prop
  | read {op : Operation} {r : Response} (hop : op.isReading = true) : Effect wall s op r s
  | studentCreated {p : NewStudent} (hp : Check.student p = .ok ()) :
    Effect wall s (.createStudent p) (.student (s.createStudent p).1) (s.createStudent p).2
  | studentUpdated {id : String} {p : NewStudent} {key : Int64} {row : Student} (hp : Check.student p = .ok ())
      (hid : Check.id id = .ok key) (hrow : (s.updateStudent key p).1 = some row) :
    Effect wall s (.updateStudent id p) (.student row) (s.updateStudent key p).2
  | studentDeleted {id : String} {key : Int64} (hid : Check.id id = .ok key) (hgone : (s.deleteStudent key).1 = true) :
    Effect wall s (.deleteStudent id) .deleted (s.deleteStudent key).2
  | enrolled {id : String} {p : NewEnrollment} {student : Int64} (hp : Check.enrollment p = .ok ()) :
    Effect wall s (.enrollStudent id p) (.enrollment (s.createEnrollment student p.courseId wall).1)
      (s.createEnrollment student p.courseId wall).2
  | courseCreated {p : NewCourse} (hp : Check.course p = .ok ()) :
    Effect wall s (.createCourse p) (.course (s.createCourse p).1) (s.createCourse p).2
  | courseUpdated {id : String} {p : NewCourse} {key : Int64} {row : Course} (hp : Check.course p = .ok ())
      (hid : Check.id id = .ok key) (hrow : (s.updateCourse key p).1 = some row) :
    Effect wall s (.updateCourse id p) (.course row) (s.updateCourse key p).2
  | courseDeleted {id : String} {key : Int64} (hid : Check.id id = .ok key) (hgone : (s.deleteCourse key).1 = true) :
    Effect wall s (.deleteCourse id) .deleted (s.deleteCourse key).2
  | accountCreated {p : NewAccount} {row : Account} (hp : Check.account p = .ok ())
      (hrow : (s.createAccount p wall).1 = some row) :
    Effect wall s (.createAccount p) (.account row) (s.createAccount p wall).2
  | accountUpdated {name : String} {u : AccountUpdate} {row : Account} (hname : Check.username name = .ok ())
      (hu : Check.update u = .ok ()) (hrow : (s.updateAccount name u).1 = some row) :
    Effect wall s (.updateAccount name u) (.account row) (s.updateAccount name u).2

theorem Effect.eq_of_isReading {wall : Moment} {s s' : Store} {op : Operation} {r : Response} (h : Effect wall s op r s')
    (hop : op.isReading = true) : s' = s := by
  cases h with
  | read hop => rfl
  | _ => cases hop

/-- How far an operation gets on the records of its service, and the records then. -/
inductive Handled (wall : Moment) (op : Operation) (b : Backend) : Step × Backend → Prop
  | failed (fault : Fault) : Handled wall op b (.reply (.error fault), b)
  | done {r : Response} {s : Store} (heffect : Effect wall b.store op r s) :
    Handled wall op b (.reply (.ok r), { b with store := s })
  | confirming {id : String} {p : NewEnrollment} (student : Int64) (hop : op = .enrollStudent id p)
      (hp : Check.enrollment p = .ok ()) : Handled wall op b (.confirmCourse student p.courseId, b)
  | asking (course : Int64) (hop : op.isReading = true) : Handled wall op b (.askRoster course, b)
  | gathering (seed : String) (courses : List Int64) (hop : op.isReading = true) :
    Handled wall op b (.askCourses seed courses, b)

section Steps

variable {wall : Moment} {op : Operation} {b : Backend}

theorem handled_answer (hop : op.isReading = true) (result : Except Fault Response) :
    Handled wall op b (answer b result) := by
  cases result with
  | error fault => exact .failed fault
  | ok r => exact .done (.read hop)

theorem handled_onward {α : Type} {value : Except Fault α} {next : α → Step × Backend}
    (h : ∀ a, value = .ok a → Handled wall op b (next a)) : Handled wall op b (onward b value next) := by
  cases value with
  | error fault => exact .failed fault
  | ok a => exact h a rfl

theorem handled_created {α : Type} (make : α → Response) (f : Store → α × Store)
    (h : Effect wall b.store op (make (f b.store).1) (f b.store).2) : Handled wall op b (changed make (b.write f)) := by
  rcases b.write_cases f with ⟨fault, hwrite⟩ | hwrite
  · rw [hwrite]
    exact .failed fault
  · rw [hwrite]
    exact .done h

/-- A change that may find no row, and then changes nothing. -/
theorem handled_found {α : Type} (make : α → Response) (f : Store → Option α × Store) (entity id : String)
    (h : ∀ a, (f b.store).1 = some a → Effect wall b.store op (make a) (f b.store).2)
    (hnone : (f b.store).1 = none → (f b.store).2 = b.store) :
    Handled wall op b (changed make (found entity id (b.write f).1, (b.write f).2)) := by
  rcases b.write_cases f with ⟨fault, hwrite⟩ | hwrite
  · rw [hwrite]
    exact .failed fault
  · rw [hwrite]
    cases hrow : (f b.store).1 with
    | none =>
      rw [hnone hrow]
      exact .failed _
    | some a => exact .done (h a hrow)

theorem handled_deleted (f : Store → Bool × Store) (entity id : String)
    (h : (f b.store).1 = true → Effect wall b.store op .deleted (f b.store).2)
    (hnone : (f b.store).1 = false → (f b.store).2 = b.store) :
    Handled wall op b (changed (fun _ => .deleted)
      (found entity id ((b.write f).1.map fun g => if g then some () else none), (b.write f).2)) := by
  rcases b.write_cases f with ⟨fault, hwrite⟩ | hwrite
  · rw [hwrite]
    exact .failed fault
  · rw [hwrite]
    cases hgone : (f b.store).1 with
    | false =>
      rw [hnone hgone]
      exact .failed _
    | true => exact .done (h hgone)

end Steps

/-! ## The services -/

section Services

variable (linked : Bool) (wall : Moment) (method : String) (op : Operation) (b : Backend)

theorem handled_students : Handled wall op b (students linked wall method op b) := by
  cases op with
  | getStudent id => exact handled_answer rfl _
  | listStudents page => exact handled_answer rfl _
  | createStudent payload => exact handled_onward fun checked hp => handled_created .student _ (.studentCreated hp)
  | updateStudent id payload =>
    refine handled_onward fun key hkey => ?_
    obtain ⟨hp, hid⟩ := Check.andThen_ok.mp hkey
    exact handled_found .student (fun s => s.updateStudent key payload) "student" id
      (fun row hrow => .studentUpdated hp hid hrow) Store.updateStudent_of_none
  | deleteStudent id =>
    refine handled_onward fun key hid => ?_
    exact handled_deleted (fun s => s.deleteStudent key) "student" id (.studentDeleted hid) Store.deleteStudent_of_false
  | getStudentCourses id =>
    refine handled_onward fun student _ => ?_
    cases linked with
    | false => exact .failed _
    | true => exact handled_onward fun rows _ => .gathering id _ rfl
  | enrollStudent id payload =>
    refine handled_onward fun student hstudent => ?_
    obtain ⟨hp, -⟩ := Check.andThen_ok.mp hstudent
    cases linked with
    | true => exact .confirming student.id rfl hp
    | false => exact handled_created .enrollment (fun s => s.createEnrollment student.id payload.courseId wall) (.enrolled hp)
  | getCourseStudents courseId => exact handled_onward fun key _ => handled_answer rfl _
  | _ => exact .failed _

theorem handled_courses : Handled wall op b (courses linked method op b) := by
  cases op with
  | getCourse id => exact handled_answer rfl _
  | listCourses page => exact handled_answer rfl _
  | createCourse payload => exact handled_onward fun checked hp => handled_created .course _ (.courseCreated hp)
  | updateCourse id payload =>
    refine handled_onward fun key hkey => ?_
    obtain ⟨hp, hid⟩ := Check.andThen_ok.mp hkey
    exact handled_found .course (fun s => s.updateCourse key payload) "course" id
      (fun row hrow => .courseUpdated hp hid hrow) Store.updateCourse_of_none
  | deleteCourse id =>
    refine handled_onward fun key hid => ?_
    exact handled_deleted (fun s => s.deleteCourse key) "course" id (.courseDeleted hid) Store.deleteCourse_of_false
  | getCourseStudents courseId =>
    refine handled_onward fun course _ => ?_
    cases linked with
    | false => exact .failed _
    | true => exact .asking course.id rfl
  | _ => exact .failed _

theorem handled_accounts : Handled wall op b (accounts wall method op b) := by
  cases op with
  | createAccount payload =>
    refine handled_onward fun checked hp => ?_
    rcases b.write_cases fun s => s.createAccount payload wall with ⟨fault, hwrite⟩ | hwrite
    · simp only [hwrite]
      exact .failed fault
    · simp only [hwrite]
      cases hrow : (b.store.createAccount payload wall).1 with
      | none =>
        rw [Store.createAccount_of_none hrow]
        exact .failed _
      | some row => exact .done (.accountCreated hp hrow)
  | getAccount name => exact handled_onward fun checked _ => handled_answer rfl _
  | updateAccount name update =>
    refine handled_onward fun checked hchecked => ?_
    obtain ⟨hname, hu⟩ := Check.andThen_ok.mp hchecked
    exact handled_found .account (fun s => s.updateAccount name update) "account" name
      (fun row hrow => .accountUpdated hname hu hrow) Store.updateAccount_of_none
  | _ => exact .failed _

theorem handled_handle (kind : ServiceKind) : Handled wall op b (handle kind linked wall method op b) := by
  cases kind with
  | students => exact handled_students linked wall method op b
  | courses => exact handled_courses linked wall method op b
  | accounts => exact handled_accounts wall method op b

end Services

end Service

end Campus
