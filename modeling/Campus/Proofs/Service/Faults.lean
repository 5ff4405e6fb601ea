import Campus.Proofs.Service.Effect

/-! # Faults of services

Where the faults come from that a service answers to its own methods. A check finds a payload invalid, a row is missing, or the store
is out of order; beyond that a service has only what the peer has to do with. It never fails to know one of its own methods.
-/
namespace Campus

/-- A fault that comes from a check, from a missing row or from a store out of order. -/
inductive Backend.Causes (b : Backend) : Fault → Prop
  | validation (reason : String) : Causes b (.validation reason)
  | notFound (entity id : String) : Causes b (.notFound entity id)
  | outage {o : Outage} (h : b.outage = some o) : Causes b (.internal o.message)

/-- A result whose fault, if it has one, comes from a check, from a missing row or from a store out of order. -/
def Backend.Explains {α : Type} (b : Backend) (r : Except Fault α) : Prop := ∀ f, r = .error f → b.Causes f

namespace Backend.Explains

variable {α β : Type} {b : Backend}

theorem ok (a : α) : b.Explains (.ok a) := by rintro f ⟨⟩

theorem validation (reason : String) : b.Explains (.error (.validation reason) : Except Fault α) := by
  rintro f ⟨⟩
  exact .validation reason

theorem bind {r : Except Fault α} {next : α → Except Fault β} (h : b.Explains r) (hnext : ∀ a, b.Explains (next a)) :
    b.Explains (r >>= next) := by
  cases r with
  | ok a => exact hnext a
  | error fault =>
    rintro f ⟨⟩
    exact h fault rfl

theorem map {r : Except Fault α} (h : b.Explains r) (make : α → β) : b.Explains (r.map make) := by
  cases r with
  | ok a => exact ok (make a)
  | error fault =>
    rintro f ⟨⟩
    exact h fault rfl

theorem read (f : Store → α) : b.Explains (b.read f) := by
  unfold Backend.read
  split
  case h_1 o ho =>
    rintro fault ⟨⟩
    exact .outage ho
  case h_2 => exact ok _

theorem write (f : Store → α × Store) : b.Explains (b.write f).1 := by
  unfold Backend.write
  split
  case h_1 o ho =>
    rintro fault ⟨⟩
    exact .outage ho
  case h_2 => exact ok _

theorem student? (id : Int64) : b.Explains (b.student? id) := by
  unfold Backend.student?
  split
  case h_1 o ho =>
    split
    · exact ok _
    · rintro fault ⟨⟩
      exact .outage ho
  case h_2 => exact ok _

theorem found {row : Except Fault (Option α)} (h : b.Explains row) (entity id : String) :
    b.Explains (Service.found entity id row) := by
  unfold Service.found
  split
  case h_1 => exact ok _
  case h_2 =>
    rintro fault ⟨⟩
    exact .notFound entity id
  case h_3 fault =>
    rintro _ ⟨⟩
    exact h fault rfl

/-! ## Checks -/

theorem checkId (raw : String) : b.Explains (Check.id raw) := by
  unfold Check.id
  split
  · exact ok _
  · exact validation _

theorem checkStudent (p : NewStudent) : b.Explains (Check.student p) := by
  unfold Check.student
  repeat' split
  all_goals first
    | exact ok _
    | exact validation _

theorem checkCourse (p : NewCourse) : b.Explains (Check.course p) := by
  unfold Check.course
  split
  · exact validation _
  · exact ok _

theorem checkEnrollment (p : NewEnrollment) : b.Explains (Check.enrollment p) := by
  unfold Check.enrollment
  split
  · exact validation _
  · exact ok _

theorem checkUsername (name : String) : b.Explains (Check.username name) := by
  unfold Check.username
  split
  · exact ok _
  · exact validation _

theorem checkFullName (name : String) : b.Explains (Check.fullName name) := by
  unfold Check.fullName
  split
  · exact validation _
  · exact ok _

theorem checkEmail (address : String) : b.Explains (Check.email address) := by
  unfold Check.email
  split
  · exact ok _
  · exact validation _

theorem checkAccount (p : NewAccount) : b.Explains (Check.account p) :=
  (checkUsername _).bind fun _ => (checkFullName _).bind fun _ => checkEmail _

theorem checkUpdate (u : AccountUpdate) : b.Explains (Check.update u) := by
  obtain ⟨fullName, email⟩ := u
  cases fullName with
  | none =>
    cases email with
    | none => exact ok _
    | some address => exact checkEmail address
  | some name =>
    cases email with
    | none => exact (checkFullName name).bind fun _ => ok _
    | some address => exact (checkFullName name).bind fun _ => checkEmail address

end Backend.Explains

theorem Backend.outage_write {α : Type} (b : Backend) (f : Store → α × Store) : (b.write f).2.outage = b.outage := by
  unfold Backend.write
  split <;> rfl

namespace Service

open Backend

def peerMethods : ServiceKind → List String
  | .students => ["get_student_courses", "enroll_student"]
  | .courses => ["get_course_students"]
  | .accounts => []

/-- How far an operation of a service gets: it is replied to from the records, or has to do with the peer. -/
inductive Settled (kind : ServiceKind) (op : Operation) (b : Backend) : Step × Backend → Prop
  | replied {result : Except Fault Response} {b' : Backend} (h : b.Explains result) (hb : b'.outage = b.outage) :
    Settled kind op b (.reply result, b')
  | elsewhere {step : Step} (hpeer : op.method ∈ peerMethods kind)
      (hknown : ∀ method, step ≠ .reply (.error (.unknownMethod method))) : Settled kind op b (step, b)

section Steps

variable {kind : ServiceKind} {op : Operation} {b : Backend}

theorem settled_answer {result : Except Fault Response} (h : b.Explains result) : Settled kind op b (answer b result) :=
  .replied h rfl

theorem settled_onward {α : Type} {value : Except Fault α} {next : α → Step × Backend} (h : b.Explains value)
    (hnext : ∀ a, Settled kind op b (next a)) : Settled kind op b (onward b value next) := by
  cases value with
  | ok a => exact hnext a
  | error fault =>
    refine .replied ?_ rfl
    rintro f ⟨⟩
    exact h fault rfl

/-- A change of the store, and what is made of its result. -/
theorem settled_written {α β : Type} (make : β → Response) (f : Store → α × Store) {r : Except Fault β} (h : b.Explains r) :
    Settled kind op b (changed make (r, (b.write f).2)) := .replied (h.map make) (b.outage_write f)

theorem settled_created {α : Type} (make : α → Response) (f : Store → α × Store) :
    Settled kind op b (changed make (b.write f)) := settled_written make f (.write f)

theorem settled_found {α : Type} (make : α → Response) (f : Store → Option α × Store) (entity id : String) :
    Settled kind op b (changed make (found entity id (b.write f).1, (b.write f).2)) :=
  settled_written make f ((Explains.write f).found entity id)

theorem settled_deleted (f : Store → Bool × Store) (entity id : String) :
    Settled kind op b (changed (fun _ => .deleted)
      (found entity id ((b.write f).1.map fun g => if g then some () else none), (b.write f).2)) :=
  settled_written _ f (((Explains.write f).map _).found entity id)

theorem explains_findStudent (raw : String) : b.Explains (findStudent b raw) :=
  (Explains.checkId raw).bind fun id => (Explains.student? id).found "student" raw

theorem explains_findCourse (raw : String) : b.Explains (findCourse b raw) :=
  (Explains.checkId raw).bind fun _ => (Explains.read _).found "course" raw

theorem explains_enroll (student course : Int64) (wall : Moment) : b.Explains (enroll student course wall b).1 :=
  (Explains.write fun s => s.createEnrollment student course wall).map Response.enrollment

end Steps

section Services

variable (linked : Bool) (wall : Moment) (method : String) {op : Operation} (b : Backend)

theorem settled_students (h : op.method ∈ methods .students) :
    Settled .students op b (students linked wall method op b) := by
  cases op with
  | getStudent id => exact settled_answer ((explains_findStudent id).map _)
  | listStudents page => exact settled_answer ((Explains.read _).map _)
  | createStudent payload => exact settled_onward (.checkStudent payload) fun _ => settled_created .student _
  | updateStudent id payload =>
    exact settled_onward ((Explains.checkStudent payload).bind fun _ => .checkId id) fun key =>
      settled_found .student (fun s => s.updateStudent key payload) "student" id
  | deleteStudent id =>
    exact settled_onward (.checkId id) fun key => settled_deleted (fun s => s.deleteStudent key) "student" id
  | getStudentCourses id =>
    refine settled_onward (explains_findStudent id) fun student => ?_
    have hpeer : (Operation.getStudentCourses id).method ∈ peerMethods .students := by simp [Operation.method, peerMethods]
    cases linked with
    | false => exact .elsewhere hpeer (by simp)
    | true => exact settled_onward (.read _) fun rows => .elsewhere hpeer (by simp)
  | enrollStudent id payload =>
    refine settled_onward ((Explains.checkEnrollment payload).bind fun _ => explains_findStudent id) fun student => ?_
    have hpeer : (Operation.enrollStudent id payload).method ∈ peerMethods .students := by
      simp [Operation.method, peerMethods]
    cases linked with
    | false => exact settled_created .enrollment fun s => s.createEnrollment student.id payload.courseId wall
    | true => exact .elsewhere hpeer (by simp)
  | getCourseStudents courseId =>
    exact settled_onward (.checkId courseId) fun _ => settled_answer ((Explains.read _).map _)
  | _ => simp [Operation.method, methods] at h

theorem settled_courses (h : op.method ∈ methods .courses) : Settled .courses op b (courses linked method op b) := by
  cases op with
  | getCourse id => exact settled_answer ((explains_findCourse id).map _)
  | listCourses page => exact settled_answer ((Explains.read _).map _)
  | createCourse payload => exact settled_onward (.checkCourse payload) fun _ => settled_created .course _
  | updateCourse id payload =>
    exact settled_onward ((Explains.checkCourse payload).bind fun _ => .checkId id) fun key =>
      settled_found .course (fun s => s.updateCourse key payload) "course" id
  | deleteCourse id =>
    exact settled_onward (.checkId id) fun key => settled_deleted (fun s => s.deleteCourse key) "course" id
  | getCourseStudents courseId =>
    refine settled_onward (explains_findCourse courseId) fun course => ?_
    have hpeer : (Operation.getCourseStudents courseId).method ∈ peerMethods .courses := by
      simp [Operation.method, peerMethods]
    cases linked with
    | false => exact .elsewhere hpeer (by simp)
    | true => exact .elsewhere hpeer (by simp)
  | _ => simp [Operation.method, methods] at h

theorem settled_accounts (h : op.method ∈ methods .accounts) : Settled .accounts op b (accounts wall method op b) := by
  cases op with
  | createAccount payload =>
    refine settled_onward (.checkAccount payload) fun _ => ?_
    have hrow : b.Explains (b.write fun s => s.createAccount payload wall).1 := .write _
    refine settled_written .account (fun s => s.createAccount payload wall) (hrow.bind fun row => ?_)
    cases row with
    | some a => exact .ok a
    | none => exact .validation _
  | getAccount name =>
    exact settled_onward (.checkUsername name) fun _ => settled_answer (((Explains.read _).found "account" name).map _)
  | updateAccount name update =>
    exact settled_onward ((Explains.checkUsername name).bind fun _ => .checkUpdate update) fun _ =>
      settled_found .account (fun s => s.updateAccount name update) "account" name
  | _ => simp [Operation.method, methods] at h

theorem settled_handle {kind : ServiceKind} (h : op.method ∈ methods kind) :
    Settled kind op b (handle kind linked wall method op b) := by
  cases kind with
  | students => exact settled_students linked wall method b h
  | courses => exact settled_courses linked method b h
  | accounts => exact settled_accounts wall method b h

theorem outage_handle (kind : ServiceKind) (op : Operation) :
    (handle kind linked wall method op b).2.outage = b.outage := by
  have hhandled : Handled wall op b (handle kind linked wall method op b) := handled_handle linked wall method op b kind
  generalize handle kind linked wall method op b = turn at hhandled
  cases hhandled <;> rfl

end Services

/-- A method that never calls the peer is replied to from the records. As long as the store is in order, its only faults are that
a request is invalid or that something is missing. -/
theorem replied_of_local {kind : ServiceKind} {op : Operation} {b : Backend} (linked : Bool) (wall : Moment) (method : String)
    (h : op.method ∈ methods kind) (hlocal : op.method ∉ peerMethods kind) (hsound : b.outage = none) :
    ∃ result b', handle kind linked wall method op b = (.reply result, b') ∧
      ∀ f, result = .error f → f.kind = .validation ∨ f.kind = .notFound := by
  have hsettled := settled_handle linked wall method b h
  generalize handle kind linked wall method op b = turn at hsettled
  cases hsettled with
  | @replied result b' hexplains hb =>
    refine ⟨result, b', rfl, fun f hf => ?_⟩
    cases hexplains f hf with
    | validation reason => exact .inl rfl
    | notFound entity id => exact .inr rfl
    | outage ho => cases ho.symm.trans hsound
  | elsewhere hpeer hknown => exact absurd hpeer hlocal

end Service

end Campus
