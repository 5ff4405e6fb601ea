import Campus.Desk
import Campus.Proofs.FanOut.Resolve
import Campus.Proofs.Peer.Link

/-! # Waiting for a fan-out

A desk takes the fan-out of a call from one due instant to the next. When every fetch succeeds the call ends with the entities
of all ids, and the desk is as the last fetch left it.
-/
namespace Campus.Desk

open FanOut FanOut.Job FanOut.Job.Serves

theorem courseText_ne_empty (n : Int64) : toString n.toInt ≠ "" := by
  cases n.toInt with
  | ofNat m => exact Nat.repr_ne_empty
  | negSucc m =>
    intro h
    have hlength := congrArg String.length h
    simp [toString, Int.repr] at hlength

section Gathering

variable {peers : Peers} {wall : Moment} {link : Peer.Link} {context : Context} {ts : Tokens} {units : List Waiting}
  {capacity : Nat} {ending : Nat → Ending Course}
  {Inv : Instant → List (Running (Peer.Flight Course)) → Nat → Pipeline.Stage → Prop} {Ends : Instant → Nat → Prop}

/-- How a desk is once a fan-out has given all its entities. -/
inductive Gathered (units : List Waiting) (ending : Nat → Ending Course)
    (Inv : Instant → List (Running (Peer.Flight Course)) → Nat → Pipeline.Stage → Prop) (seed : String) (d : Desk) :
    Finished → Prop where
  | complete {t : Instant} {list : List Course} {s : Pipeline.Stage} (length : list.length = units.length)
      (entities : ∀ i < units.length, list[i]? = entity? (ending i)) (inv : Inv t [] units.length s) :
      Gathered units ending Inv seed d
        ⟨.returned (.ok (.courses list)), t, { d with stage := s.note [.fanOutComplete seed units.length] }⟩

theorem Gathered.of_stage {seed : String} {d : Desk} {s : Pipeline.Stage} {r : Finished}
    (h : Gathered units ending Inv seed { d with stage := s } r) : Gathered units ending Inv seed d r := by
  cases h with
  | complete length entities inv => exact .complete length entities inv

/-- One round of waiting: the fan-out is complete, or it goes on at the next due instant. -/
theorem gathered_succ (h : Serves (Peer.worker link peers.course none ts) units capacity ending Inv Ends)
    (hall : ∀ i < units.length, entity? (ending i) ≠ none) {t : Instant} {job : Job (Peer.Flight Course) Course} {k fuel : Nat}
    {d : Desk} (hs : Stands units capacity ending Inv t job k d.stage)
    (hnext : ∀ (t' : Instant) (job' : Job (Peer.Flight Course) Course) (k' : Nat) (s' : Pipeline.Stage),
      Stands units capacity ending Inv t' job' k' s' → (∃ u ∈ job'.running, u.due ≤ t') →
      job'.left.length ≤ job.left.length → ((∃ u ∈ job.running, u.due ≤ t) → job'.left.length < job.left.length) →
      Gathered units ending Inv job'.seed d
        (await peers wall none fuel t'
          (settle t' [] context none (gather peers none t' link job' ts { d with stage := s' })))) :
    Gathered units ending Inv job.seed d
      (await peers wall none (fuel + 1) t (settle t [] context none (gather peers none t link job ts d))) := by
  have hstep := h.step hs ts
  unfold gather
  generalize Job.step (Peer.worker link peers.course none ts) t job ts d.stage = p at hstep
  cases hstep with
  | @failed before after o f job' m s' hr hfirst hfault =>
    have ho : o ∈ before ++ o :: after := List.mem_append_right _ List.mem_cons_self
    obtain ⟨u, hu, -⟩ := h.exists_unit hs hr ho
    obtain ⟨e, he⟩ := Option.ne_none_iff_exists'.mp (hall o.index (List.getElem?_eq_some_iff.mp hu).1)
    rw [entity?_eq_some_iff, ← (hr.told o ho).result, hfault] at he
    cases he
  | @complete outcomes job' list s' hr hnothing hlen hentities => exact .complete hlen hentities (hr.inv_of_nothing hnothing)
  | @going outcomes job' remaining slots m s' hr hsomething hstands =>
    obtain ⟨due, hdue, hnextstands, hsome, hle, hless⟩ := h.stands_next hr hsomething hstands
    have hround := hnext due { job' with remaining, slots } m s' hnextstands hsome hle hless
    rw [← hr.seed]
    simp only [settle, await, await.go, Wait.due?, hdue, Option.getD_some, proceed, resume, reduceCtorEq, if_false]
    exact hround

theorem gathered_due (h : Serves (Peer.worker link peers.course none ts) units capacity ending Inv Ends)
    (hall : ∀ i < units.length, entity? (ending i) ≠ none) {t : Instant} {job : Job (Peer.Flight Course) Course} {k fuel : Nat}
    {d : Desk} (hs : Stands units capacity ending Inv t job k d.stage) (hdue : ∃ u ∈ job.running, u.due ≤ t)
    (hfuel : job.left.length ≤ fuel) :
    Gathered units ending Inv job.seed d
      (await peers wall none fuel t (settle t [] context none (gather peers none t link job ts d))) := by
  induction fuel generalizing t job k d with
  | zero =>
    obtain ⟨u, hu, -⟩ := hdue
    have hpos := List.length_pos_of_mem hu
    simp only [left, List.length_append, List.length_map] at hfuel
    omega
  | succ fuel ih =>
    refine gathered_succ h hall hs fun t' job' k' s' hs' hdue' _ hless => ?_
    have hlt := hless hdue
    exact (ih (d := { d with stage := s' }) hs' hdue' (by omega)).of_stage

/-- A call that waits for a fan-out may go on once more than it has units. -/
theorem turns_gather (context : Context)
    (h : Serves (Peer.worker link peers.course none ts) units capacity ending Inv Ends) {t : Instant}
    {job : Job (Peer.Flight Course) Course} {k : Nat} {d : Desk} (hs : Stands units capacity ending Inv t job k d.stage) :
    (∃ ending d', settle t [] context none (gather peers none t link job ts d) = (.ended ending, d')) ∨
      (settle t [] context none (gather peers none t link job ts d)).1.turns = units.length + 1 := by
  have hstep := h.step hs ts
  unfold gather
  generalize Job.step (Peer.worker link peers.course none ts) t job ts d.stage = p at hstep
  cases hstep with
  | failed => exact .inl ⟨_, _, rfl⟩
  | complete => exact .inl ⟨_, _, rfl⟩
  | going hr hsomething hstands => exact .inr (congrArg (· + 1) hstands.slots_length)

theorem gathered_finish (h : Serves (Peer.worker link peers.course none ts) units capacity ending Inv Ends)
    (hall : ∀ i < units.length, entity? (ending i) ≠ none) {t : Instant} {job : Job (Peer.Flight Course) Course} {k : Nat}
    {d : Desk} (hs : Stands units capacity ending Inv t job k d.stage) (hleft : job.left.length ≤ units.length) :
    Gathered units ending Inv job.seed d
      (finish peers wall none t (settle t [] context none (gather peers none t link job ts d))) := by
  have hround : Gathered units ending Inv job.seed d
      (await peers wall none (units.length + 1) t (settle t [] context none (gather peers none t link job ts d))) := by
    refine gathered_succ h hall hs fun t' job' k' s' hs' hdue' hle _ => ?_
    exact (gathered_due (d := { d with stage := s' }) h hall hs' hdue' (Nat.le_trans hle hleft)).of_stage
  unfold finish
  obtain ⟨e, d', hended⟩ | hturns := turns_gather context h hs
  · rw [hended] at hround ⊢
    exact hround
  · rw [hturns]
    exact hround

end Gathering

/-! ## The courses of a student -/

def courseIds (rows : List Enrollment) : List String := (rows.map Enrollment.courseId).map fun c => toString c.toInt

section Perform

variable {d : Desk} {link : Peer.Link} {id : String} {student : Student} {rows : List Enrollment} {context : Context}
  {ts : Tokens}

/-- A students desk with a link asks for the courses of the enrollments of a student it knows. -/
structure Asks (d : Desk) (link : Peer.Link) (id : String) (student : Student) (rows : List Enrollment) : Prop where
  kind : d.kind = .students
  link : d.link = some link
  found : Service.findStudent d.backend id = .ok student
  enrolled : d.backend.read (fun s => s.enrollmentsOf student.id Service.relationPage) = .ok rows

theorem Asks.handle (h : Asks d link id student rows) (wall : Moment) (method : String) :
    Service.handle .students true wall method (.getStudentCourses id) d.backend =
      (.askCourses id (rows.map Enrollment.courseId), d.backend) := by
  simp only [Service.handle, Service.students, Service.onward, h.found, h.enrolled, if_true]

theorem Asks.perform (h : Asks d link id student rows) (hrows : rows ≠ []) (hlimit : d.fanOut ≤ maxPermits)
    (htoken : context.token < ts.nodes.size) (halive : ts.isCancelled context.token = false) (peers : Peers) (now : Instant)
    (wall : Moment) :
    Desk.perform peers none now wall context (.getStudentCourses id) ts d =
      gather peers none now link (Job.create context id (courseIds rows) d.fanOut ts).1
        (tokensOf context (courseIds rows) ts) d := by
  have hhandle := h.handle wall context.method
  have hcourses : rows.map Enrollment.courseId ≠ [] := by simpa using hrows
  have htokens := isCancelled_tokensOf_of_lt context (courseIds rows) htoken
  rw [halive] at htokens
  obtain ⟨hkind, hlink, -, -⟩ := h
  cases d
  subst hkind hlink
  simp only [Desk.perform, Option.isSome_some, hhandle, hcourses, if_false, Nat.not_lt.mpr hlimit, create_eq]
  simp only [courseIds] at htokens ⊢
  simp only [htokens, Bool.false_eq_true, if_false]

/-- A bound beyond the most permits breaks the call down before anything is asked. -/
theorem Asks.perform_beyond (h : Asks d link id student rows) (hrows : rows ≠ []) (hlimit : maxPermits < d.fanOut)
    {stop : Option Instant} (peers : Peers) (now : Instant) (wall : Moment) :
    Desk.perform peers stop now wall context (.getStudentCourses id) ts d =
      (.over (.panicked (some tooManyPermits)) [], ts, d) := by
  have hhandle := h.handle wall context.method
  have hcourses : rows.map Enrollment.courseId ≠ [] := by simpa using hrows
  obtain ⟨hkind, hlink, -, -⟩ := h
  cases d
  subst hkind hlink
  simp only [Desk.perform, Option.isSome_some, hhandle, hcourses, if_false, hlimit, if_true]

end Perform

end Campus.Desk
