import Campus.Desk
import Campus.Proofs.Store.Rows

/-! # Requests that overlap

Requests to one students service, cut into steps: each access to the store and each answer of the peer is one step, and between
two steps of a request any steps of other requests may come. To enroll a student takes three of them: the student is looked up,
the peer confirms the course, and the enrollment is recorded. A deletion that comes between the first and the last takes the
student and the enrollments so far; the one that is recorded then is left without its student.
-/
namespace Campus

@[simp] theorem Backend.store_sound (s : Store) : (sound s).store = s := rfl

@[simp] theorem Backend.read_sound {α : Type} (s : Store) (f : Store → α) : (sound s).read f = .ok (f s) := rfl

namespace Service

inductive Standing where
  | arrived (op : Operation)
  /-- The student was found, and the peer is to confirm the course. -/
  | enrolling (student course : Int64)
  /-- Nothing is left but to record the enrollment. -/
  | recording (student course : Int64)
  /-- The student was found, whose enrollments are to be read. -/
  | reading (seed : String) (student : Int64)
  /-- The peer is to give each of the courses. -/
  | gathering (seed : String) (courses : List Int64)
  | ended (ending : Ending Response)

/-- One step of a request: whose it is, when it is, and how the peer answers if it is asked. -/
structure Turn where
  request : Nat
  wall : Moment
  course : Ending Course
  courses : Ending Response

namespace Standing

def ofStep : Step → Standing
  | .reply result => ended (.returned result)
  | .confirmCourse student course => enrolling student course
  | .askCourses seed courses => gathering seed courses
  | .askRoster _ => ended .dropped

def holds : Standing → Option Int64
  | enrolling student _ | recording student _ => some student
  | _ => none

def next (linked : Bool) (t : Turn) (s : Store) : Standing → Standing × Store
  | arrived (.enrollStudent id payload) =>
    match (do Check.enrollment payload; findStudent (.sound s) id : Except Fault Student) with
    | .ok student =>
      (if linked then enrolling student.id payload.courseId else recording student.id payload.courseId, s)
    | .error f => (ended (.returned (.error f)), s)
  | arrived (.getStudentCourses id) =>
    match findStudent (.sound s) id with
    | .ok student =>
      (if linked then reading id student.id
        else ended (.returned (.error (.configuration "no courses peer configured"))), s)
    | .error f => (ended (.returned (.error f)), s)
  | arrived op =>
    let (step, b) := students linked t.wall op.method op (.sound s)
    (ofStep step, b.store)
  | enrolling student course =>
    match t.course with
    | .returned (.ok _) => (recording student course, s)
    | e => (ended (Desk.failed e), s)
  | recording student course =>
    let (result, b) := enroll student course t.wall (.sound s)
    (ended (.returned result), b.store)
  | reading seed student =>
    (gathering seed ((s.enrollmentsOf student relationPage).map Enrollment.courseId), s)
  | gathering _ _ => (ended t.courses, s)
  | ended e => (ended e, s)

/-- Three steps of a request with nothing in between, of which no request takes more. -/
def alone (linked : Bool) (t : Turn) (op : Operation) (s : Store) : Standing × Store :=
  let (first, s) := (arrived op).next linked t s
  let (second, s) := first.next linked t s
  second.next linked t s

/-! ## A request alone -/

/-- Whether a students service needs one access to its store for an operation, and no peer. -/
def isSingle : Operation → Bool
  | .enrollStudent _ _ | .getStudentCourses _ => false
  | _ => true

/-- With a single access a service replies, and respects the enrollments. -/
theorem students_single (linked : Bool) (wall : Moment) (method : String) {op : Operation} (h : isSingle op = true)
    (s : Store) :
    ∃ result s', students linked wall method op (.sound s) = (.reply result, .sound s') ∧ s.Respects s' := by
  cases op with
  | enrollStudent id payload => cases h
  | getStudentCourses id => cases h
  | createStudent payload =>
    simp only [students]
    cases Check.student payload with
    | error f => exact ⟨_, s, rfl, s.respects_refl⟩
    | ok checked => exact ⟨_, _, rfl, s.respects_createStudent payload⟩
  | updateStudent id payload =>
    simp only [students]
    cases (do Check.student payload; Check.id id : Except Fault Int64) with
    | error f => exact ⟨_, s, rfl, s.respects_refl⟩
    | ok key => exact ⟨_, _, rfl, s.respects_updateStudent key payload⟩
  | deleteStudent id =>
    simp only [students]
    cases Check.id id with
    | error f => exact ⟨_, s, rfl, s.respects_refl⟩
    | ok key => exact ⟨_, _, rfl, s.respects_deleteStudent key⟩
  | getCourseStudents courseId =>
    simp only [students]
    cases Check.id courseId with
    | error f => exact ⟨_, s, rfl, s.respects_refl⟩
    | ok key => exact ⟨_, s, rfl, s.respects_refl⟩
  | _ => exact ⟨_, s, rfl, s.respects_refl⟩

theorem next_single (linked : Bool) (t : Turn) {op : Operation} (h : isSingle op = true) (s : Store) :
    (arrived op).next linked t s =
      (ofStep (students linked t.wall op.method op (.sound s)).1,
        (students linked t.wall op.method op (.sound s)).2.store) := by
  cases op with
  | enrollStudent id payload => cases h
  | getStudentCourses id => cases h
  | _ => rfl

/-- A request that nothing comes between does what its service does, whose peer answers in the same way. -/
theorem alone_eq (linked : Bool) (t : Turn) (op : Operation) (s : Store) (d : Desk) :
    alone linked t op s = match students linked t.wall op.method op (.sound s) with
      | (.reply result, b) => (ended (.returned result), b.store)
      | (.confirmCourse student course, b) =>
        let (ending, d) := { d with backend := b }.confirmed student course t.wall t.course
        (ended ending, d.backend.store)
      | (.askCourses _ _, b) => (ended t.courses, b.store)
      | (.askRoster _, b) => (ended .dropped, b.store) := by
  by_cases hsingle : isSingle op = true
  · obtain ⟨result, s', hstudents, -⟩ := students_single linked t.wall op.method hsingle s
    rw [alone, next_single linked t hsingle, hstudents]
    rfl
  cases op with
  | enrollStudent id payload =>
    cases hfind : (do Check.enrollment payload; findStudent (.sound s) id : Except Fault Student) with
    | error f => simp [alone, next, students, onward, answer, hfind]
    | ok student =>
      cases linked with
      | false => simp [alone, next, students, onward, answer, hfind]
      | true =>
        rcases hcourse : t.course with (_ | _) | _ | _
        all_goals simp [alone, next, students, onward, hfind, hcourse, Desk.confirmed]
  | getStudentCourses id =>
    cases hfind : findStudent (.sound s) id with
    | error f => simp [alone, next, students, onward, answer, hfind]
    | ok student =>
      cases linked with
      | false => simp [alone, next, students, onward, answer, hfind]
      | true => simp [alone, next, students, onward, hfind]
  | _ => exact absurd rfl hsingle

/-! ## One step of a request -/

theorem findStudent_sound {s : Store} {raw : String} {student : Student} (h : findStudent (.sound s) raw = .ok student) :
    ∃ k, s.student? k = some student := by
  simp only [findStudent] at h
  cases hid : Check.id raw with
  | error f => simp [hid, bind, Except.bind] at h
  | ok k =>
    cases hrow : s.student? k with
    | none => simp [hid, hrow, bind, Except.bind, Backend.student?, Backend.sound, found] at h
    | some row =>
      refine ⟨k, ?_⟩
      simpa [hid, hrow, bind, Except.bind, Backend.student?, Backend.sound, found] using h

/-- What a step of a request does: to the records, and to the student it is about to enroll. -/
inductive Moves (s : Store) (wall : Moment) : Standing → Standing → Store → Prop
  | served {before after : Standing} {s' : Store} (hrespects : s.Respects s') (hfree : after.holds = none) :
    Moves s wall before after s'
  | found {before after : Standing} {k : Int64} (hholds : after.holds = some k) (hstudent : (s.student? k).isSome = true) :
    Moves s wall before after s
  | kept {before after : Standing} (hholds : after.holds = before.holds) : Moves s wall before after s
  | recorded {student course : Int64} {after : Standing} (hfree : after.holds = none) :
    Moves s wall (recording student course) after (s.createEnrollment student course wall).2

theorem moves_next (linked : Bool) (t : Turn) {s : Store} (hkeyed : s.Keyed) (standing : Standing) :
    Moves s t.wall standing (standing.next linked t s).1 (standing.next linked t s).2 := by
  cases standing with
  | arrived op =>
    by_cases hsingle : isSingle op = true
    · obtain ⟨result, s', hstudents, hrespects⟩ := students_single linked t.wall op.method hsingle s
      rw [next_single linked t hsingle, hstudents]
      exact .served hrespects rfl
    cases op with
    | enrollStudent id payload =>
      cases hfind : (do Check.enrollment payload; findStudent (.sound s) id : Except Fault Student) with
      | error f =>
        simp only [next, hfind]
        exact .served s.respects_refl rfl
      | ok student =>
        have hfound : findStudent (.sound s) id = .ok student := by
          cases hcheck : Check.enrollment payload with
          | error f => simp [hcheck, bind, Except.bind] at hfind
          | ok checked => simpa [hcheck, bind, Except.bind] using hfind
        obtain ⟨k, hk⟩ := findStudent_sound hfound
        have hstudent : (s.student? student.id).isSome = true := by
          rw [hkeyed k student hk, hk]
          rfl
        simp only [next, hfind]
        cases linked <;> exact .found rfl hstudent
    | getStudentCourses id =>
      cases hfind : findStudent (.sound s) id with
      | error f =>
        simp only [next, hfind]
        exact .served s.respects_refl rfl
      | ok student =>
        simp only [next, hfind]
        cases linked <;> exact .served s.respects_refl rfl
    | _ => exact absurd rfl hsingle
  | enrolling student course =>
    rcases hcourse : t.course with (_ | _) | _ | _
    case returned.ok =>
      simp only [next, hcourse]
      exact .kept rfl
    all_goals
      simp only [next, hcourse]
      exact .served s.respects_refl rfl
  | recording student course => exact .recorded rfl
  | reading seed student => exact .served s.respects_refl rfl
  | gathering seed courses => exact .served s.respects_refl rfl
  | ended ending => exact .served s.respects_refl rfl

end Standing

/-! ## Requests that overlap -/

/-- The records of a service and its requests, with the students that were deleted while a request was about to enroll them. -/
structure Overlap where
  store : Store
  requests : List Standing
  overtaken : List Int64

namespace Overlap

/-- A service without records, at which some requests arrive. -/
def opened (ops : List Operation) : Overlap := ⟨.empty, ops.map .arrived, []⟩

def held (w : Overlap) : List Int64 := w.requests.filterMap Standing.holds

/-- The request in a place stands somewhere else, with other records. -/
def put (w : Overlap) (i : Nat) (standing : Standing) (store : Store) : Overlap where
  store := store
  requests := w.requests.set i standing
  overtaken := w.overtaken ++ w.held.filter fun k => (w.store.student? k).isSome && (store.student? k).isNone

def step (linked : Bool) (w : Overlap) (t : Turn) : Overlap :=
  match w.requests[t.request]? with
  | none => w
  | some standing =>
    let (standing, store) := standing.next linked t w.store
    w.put t.request standing store

def after (linked : Bool) (w : Overlap) (turns : List Turn) : Overlap := turns.foldl (step linked) w

def Accounted (w : Overlap) (k : Int64) : Prop := (w.store.student? k).isSome = true ∨ k ∈ w.overtaken

/-- Enrollments, and requests about to make one, refer to students that are there or were overtaken. -/
structure Sound (w : Overlap) : Prop where
  keyed : w.store.Keyed
  enrolled : ∀ e ∈ w.store.enrollments.rows, w.Accounted e.studentId
  held : ∀ k ∈ w.held, w.Accounted k

section Step

variable {w : Overlap} {i : Nat} {standing : Standing} {store : Store}

theorem step_eq (linked : Bool) {t : Turn} (h : w.requests[t.request]? = some standing) :
    w.step linked t = w.put t.request (standing.next linked t w.store).1 (standing.next linked t w.store).2 := by
  simp [step, h]

theorem mem_held (h : w.requests[i]? = some standing) {k : Int64} (hk : standing.holds = some k) : k ∈ w.held :=
  List.mem_filterMap.mpr ⟨standing, List.mem_of_getElem? h, hk⟩

theorem mem_held_put {after : Standing} {k : Int64} (hk : k ∈ (w.put i after store).held) :
    after.holds = some k ∨ k ∈ w.held := by
  obtain ⟨request, hmem, hholds⟩ := List.mem_filterMap.mp hk
  rcases List.mem_or_eq_of_mem_set hmem with hold | rfl
  · exact .inr (List.mem_filterMap.mpr ⟨request, hold, hholds⟩)
  · exact .inl hholds

/-- A student that a request holds stays accounted for, whatever happens to the records. -/
theorem accounted_put_of_held {k : Int64} (h : w.Accounted k) (hk : k ∈ w.held) (after : Standing) :
    (w.put i after store).Accounted k := by
  rcases h with hstudent | hovertaken
  · cases hleft : store.student? k with
    | none => exact .inr (List.mem_append_right _ (List.mem_filter.mpr ⟨hk, by simp [hstudent, hleft]⟩))
    | some row =>
      left
      simp [put, hleft]
  · exact .inr (List.mem_append_left _ hovertaken)

theorem accounted_put {k : Int64} (h : w.Accounted k) (after : Standing)
    (hstays : (w.store.student? k).isSome = true → (store.student? k).isSome = true) :
    (w.put i after store).Accounted k := by
  rcases h with hstudent | hovertaken
  · exact .inl (hstays hstudent)
  · exact .inr (List.mem_append_left _ hovertaken)

theorem sound_put {wall : Moment} {before after : Standing} (h : w.Sound) (hbefore : w.requests[i]? = some before)
    (hmoves : before.Moves w.store wall after store) : (w.put i after store).Sound := by
  have hothers : ∀ k ∈ w.held, (w.put i after store).Accounted k := fun k hk => accounted_put_of_held (h.held k hk) hk after
  cases hmoves with
  | served hrespects hfree =>
    constructor
    · exact hrespects.keyed h.keyed
    · intro e he
      exact accounted_put (h.enrolled e (hrespects.rows e he)) after (hrespects.students e he)
    · intro k hk
      rcases mem_held_put hk with hnew | hold
      · simp [hfree] at hnew
      · exact hothers k hold
  | @found before after k hholds hstudent =>
    constructor
    · exact h.keyed
    · intro e he
      exact accounted_put (h.enrolled e he) after id
    · intro k' hk
      rcases mem_held_put hk with hnew | hold
      · obtain rfl : k = k' := by simpa [hholds] using hnew
        exact .inl hstudent
      · exact hothers k' hold
  | kept hholds =>
    constructor
    · exact h.keyed
    · intro e he
      exact accounted_put (h.enrolled e he) after id
    · intro k hk
      rcases mem_held_put hk with hnew | hold
      · exact hothers k (mem_held hbefore (by rw [← hholds, hnew]))
      · exact hothers k hold
  | @recorded student course after hfree =>
    constructor
    · exact h.keyed
    · intro e he
      rcases Table.mem_rows_put he with rfl | hold
      · exact hothers student (mem_held hbefore rfl)
      · exact accounted_put (h.enrolled e hold) after id
    · intro k hk
      rcases mem_held_put hk with hnew | hold
      · simp [hfree] at hnew
      · exact hothers k hold

end Step

theorem sound_step {w : Overlap} (h : w.Sound) (linked : Bool) (t : Turn) : (w.step linked t).Sound := by
  cases hstanding : w.requests[t.request]? with
  | none => simpa [step, hstanding] using h
  | some standing =>
    rw [step_eq linked hstanding]
    exact sound_put h hstanding (standing.moves_next linked t h.keyed)

theorem sound_after {w : Overlap} (h : w.Sound) (linked : Bool) (turns : List Turn) : (w.after linked turns).Sound := by
  induction turns generalizing w with
  | nil => exact h
  | cons t turns ih => exact ih (sound_step h linked t)

theorem sound_opened (ops : List Operation) : (opened ops).Sound where
  keyed := Store.keyed_empty
  enrolled e he := by cases he
  held k hk := by
    obtain ⟨request, hmem, hholds⟩ := List.mem_filterMap.mp hk
    obtain ⟨op, -, rfl⟩ := List.mem_map.mp hmem
    cases hholds

/-! ## Enrollments without their students -/

theorem step_delete {w : Overlap} (linked : Bool) {t : Turn} {id : String} {k : Int64}
    (h : w.requests[t.request]? = some (.arrived (.deleteStudent id))) (hid : Check.id id = .ok k) :
    (w.step linked t).store = (w.store.deleteStudent k).2 := by
  rw [step_eq linked h]
  simp only [put, Standing.next, students, hid]
  rfl

theorem step_recording {w : Overlap} (linked : Bool) {t : Turn} {student course : Int64}
    (h : w.requests[t.request]? = some (.recording student course)) :
    (w.step linked t).store = (w.store.createEnrollment student course t.wall).2 := by
  rw [step_eq linked h]
  rfl

/-- However requests overlap, an enrollment refers to a student that is there, unless the student was deleted while a request
was about to enroll it. A deletion takes the enrollments that are there with it. But a request that comes to its record after
the deletion of its student does not look again, and leaves an enrollment without one. -/
theorem orphans_were_overtaken (linked : Bool) (ops : List Operation) (turns : List Turn) :
    let w := (opened ops).after linked turns
    (∀ e ∈ w.store.enrollments.rows, (w.store.student? e.studentId).isSome = true ∨ e.studentId ∈ w.overtaken) ∧
      (∀ t id k, w.requests[t.request]? = some (.arrived (.deleteStudent id)) → Check.id id = .ok k →
        (w.store.student? k).isSome = true →
          (w.step linked t).store.student? k = none ∧ ∀ e ∈ (w.step linked t).store.enrollments.rows, e.studentId ≠ k) ∧
      ∀ t student course, w.requests[t.request]? = some (.recording student course) → w.store.student? student = none →
        (w.step linked t).store.student? student = none ∧
          ∃ e ∈ (w.step linked t).store.enrollments.rows, e.studentId = student := by
  intro w
  have hsound : w.Sound := sound_after (sound_opened ops) linked turns
  refine ⟨hsound.enrolled, ?_, ?_⟩
  · intro t id k hrequest hid hstudent
    rw [step_delete linked hrequest hid]
    constructor
    · rw [Store.student?_deleteStudent, if_pos rfl]
    · intro e he
      exact (w.store.ne_of_mem_deleteStudent k hstudent he).2
  · intro t student course hrequest hgone
    rw [step_recording linked hrequest]
    exact ⟨hgone, _, Table.mem_rows_put_self, rfl⟩

def inMay : Moment := ⟨⟨2024, 5, 6, by decide⟩, 30600, 250000000, by decide, by decide⟩

/-- A student is created, looked up to be enrolled, and deleted before the enrollment is recorded. -/
theorem overlap_leaves_orphan :
    let turn (i : Nat) : Turn := ⟨i, inMay, .returned (.ok ⟨10, "Algebra"⟩), .dropped⟩
    let w := (opened [.createStudent ⟨"Ada", ⟨2011, 3, 9, by decide⟩, 5, 87000000001⟩, .enrollStudent "1" ⟨10⟩,
      .deleteStudent "1"]).after true [turn 0, turn 1, turn 1, turn 2, turn 1]
    w.store.enrollments.rows = [⟨1, 1, 10, inMay⟩] ∧ w.store.student? 1 = none ∧ 1 ∈ w.overtaken := by
  intro turn w
  have hrows : w.store.enrollments.rows = [⟨1, 1, 10, inMay⟩] := by decide +kernel
  have hgone : w.store.student? 1 = none := by decide +kernel
  have hall := (orphans_were_overtaken true [.createStudent ⟨"Ada", ⟨2011, 3, 9, by decide⟩, 5, 87000000001⟩,
    .enrollStudent "1" ⟨10⟩, .deleteStudent "1"] [turn 0, turn 1, turn 1, turn 2, turn 1]).1
  have horphan := hall ⟨1, 1, 10, inMay⟩ (by rw [show _ = _ from hrows]; exact List.mem_singleton_self _)
  refine ⟨hrows, hgone, horphan.resolve_left ?_⟩
  rw [show _ = _ from hgone]
  decide

end Overlap

end Service

end Campus
