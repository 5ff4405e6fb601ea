import Campus.Desk
import Campus.Proofs.Service.Effect

/-! # Calls and the records

What a call has done to the records of a desk by the time it is over. On its way it passes the chain of its method, the service and
the peer, and any of them may end it. Only a call that succeeds has changed the records, and it has made the one change of its
operation.
-/
namespace Campus.Desk

open Pipeline FanOut FanOut.Job

inductive Wait.For (op : Operation) : Wait → Prop
  | confirming {id : String} {p : NewEnrollment} (student : Int64) (due : Instant) (flight : Peer.Flight Course)
      (hop : op = .enrollStudent id p) (hp : Check.enrollment p = .ok ()) :
    Wait.For op (.confirming student p.courseId due flight)
  | roster (due : Instant) (flight : Peer.Flight (List Student)) (hop : op.isReading = true) :
    Wait.For op (.roster due flight)
  | gathering (link : Peer.Link) (job : Job (Peer.Flight Course) Course) (hop : op.isReading = true) :
    Wait.For op (.gathering link job)

/-- How a call ended, and the records then: as they were before, or with the one change of an operation that succeeded. -/
inductive Concluded (wall : Moment) (op : Operation) (b : Backend) : Ending Response → Backend → Prop
  | failed {ending : Ending Response} (hending : ∀ r, ending ≠ .returned (.ok r)) : Concluded wall op b ending b
  | done {r : Response} {s : Store} (heffect : Service.Effect wall b.store op r s) :
    Concluded wall op b (.returned (.ok r)) { b with store := s }

/-- How far a call is, and the records then. While it waits they are as they were. -/
inductive Served (wall : Moment) (op : Operation) (b : Backend) : Progress → Backend → Prop
  | ended {ending : Ending Response} {b' : Backend} (hended : Concluded wall op b ending b') : Served wall op b (.ended ending) b'
  | waiting {p : Pending} (hwait : p.wait.For op) : Served wall op b (.waiting p) b

section Steps

variable {wall : Moment} {op : Operation} {b b' : Backend} {d : Desk} {stop : Option Instant} {ts : Tokens} {now : Instant}
  {context : Context} {frames : List Frame} {peers : Peers}

theorem Concluded.eq_of_failed {ending : Ending Response} (h : Concluded wall op b ending b')
    (hending : ∀ r, ending ≠ .returned (.ok r)) : b' = b := by
  cases h with
  | failed hfailed => rfl
  | done heffect => exact absurd rfl (hending _)

theorem Concluded.eq_of_isReading {ending : Ending Response} (h : Concluded wall op b ending b')
    (hop : op.isReading = true) : b' = b := by
  cases h with
  | failed hfailed => rfl
  | done heffect => rw [heffect.eq_of_isReading hop]

theorem Concluded.effect {r : Response} (h : Concluded wall op b (.returned (.ok r)) b') :
    ∃ s, Service.Effect wall b.store op r s ∧ b' = { b with store := s } := by
  cases h with
  | failed hfailed => exact absurd rfl (hfailed r)
  | done heffect => exact ⟨_, heffect, rfl⟩

theorem concluded_reading (hop : op.isReading = true) (ending : Ending Response) : Concluded wall op b ending b := by
  cases ending with
  | returned result =>
    cases result with
    | error fault => exact .failed (by simp)
    | ok r => exact .done (.read hop)
  | panicked text => exact .failed (by simp)
  | dropped => exact .failed (by simp)

/-! ## One step of a call -/

theorem failed_ne {α : Type} {ending : Ending α} (hending : ∀ a, ending ≠ .returned (.ok a)) (r : Response) :
    failed ending ≠ .returned (.ok r) := by
  cases ending with
  | returned result =>
    cases result with
    | error fault => simp [failed]
    | ok a => exact absurd rfl (hending a)
  | panicked text => simp [failed]
  | dropped => simp [failed]

/-- An enrollment is recorded when the peer has confirmed its course, and not otherwise. -/
theorem concluded_confirmed {id : String} {p : NewEnrollment} (hop : op = .enrollStudent id p)
    (hp : Check.enrollment p = .ok ()) (hb : d.backend = b) (student : Int64) (ending : Ending Course) :
    Concluded wall op b (confirmed d student p.courseId wall ending).1
      (confirmed d student p.courseId wall ending).2.backend := by
  subst hop hb
  by_cases hconfirmed : ∃ course, ending = .returned (.ok course)
  · obtain ⟨course, rfl⟩ := hconfirmed
    rcases d.backend.write_cases fun s => s.createEnrollment student p.courseId wall with ⟨fault, hwrite⟩ | hwrite
    · simp only [confirmed, Service.enroll, hwrite]
      exact .failed (by simp [Except.map])
    · simp only [confirmed, Service.enroll, hwrite]
      exact .done (.enrolled hp)
  · have hrefused : ∀ course, ending ≠ .returned (.ok course) := fun course he => hconfirmed ⟨course, he⟩
    have hfailed : confirmed d student p.courseId wall ending = (failed ending, d) := by
      unfold confirmed
      split
      · exact absurd rfl (hrefused _)
      · rfl
    rw [hfailed]
    exact .failed (failed_ne hrefused)

theorem served_gather (hop : op.isReading = true) (hb : d.backend = b) (link : Peer.Link)
    (job : Job (Peer.Flight Course) Course) (ts : Tokens) :
    Served wall op b (settle now frames context stop (gather peers stop now link job ts d)).1
      (settle now frames context stop (gather peers stop now link job ts d)).2.backend := by
  subst hb
  rcases hstep : Job.step (Peer.worker link peers.course stop ts) now job ts d.stage with ⟨_ | _, ts', stage⟩
  · simp only [gather, hstep]
    exact .waiting (.gathering link _ hop)
  · simp only [gather, hstep]
    exact .ended (concluded_reading hop _)

theorem served_perform (d : Desk) :
    Served wall op d.backend (settle now frames context stop (perform peers stop now wall context op ts d)).1
      (settle now frames context stop (perform peers stop now wall context op ts d)).2.backend := by
  have hhandled := Service.handled_handle d.link.isSome wall context.method op d.backend d.kind
  unfold perform
  generalize Service.handle d.kind d.link.isSome wall context.method op d.backend = handled at hhandled
  cases hhandled with
  | failed fault => exact .ended (.failed (by simp))
  | done heffect => exact .ended (.done heffect)
  | @confirming id p student hop hp =>
    cases d.link with
    | none => exact .ended (.failed (by simp))
    | some link =>
      dsimp only
      split
      case h_1 ending stage hstart =>
        exact .ended (concluded_confirmed hop hp (by rfl) student ending)
      case h_2 due flight stage hstart =>
        exact .waiting (.confirming student due flight hop hp)
  | asking course hop =>
    cases d.link with
    | none => exact .ended (.failed (by simp))
    | some link =>
      dsimp only
      split
      case h_1 ending stage hstart => exact .ended (concluded_reading hop _)
      case h_2 due flight stage hstart =>
        exact .waiting (.roster due flight hop)
  | gathering seed courses hop =>
    cases d.link with
    | none => exact .ended (.failed (by simp))
    | some link =>
      dsimp only
      split
      · exact .ended (concluded_reading hop _)
      split
      · exact .ended (concluded_reading hop _)
      split
      · exact .ended (concluded_reading hop _)
      · exact served_gather hop (by rfl) link _ _

theorem served_start (d : Desk) :
    Served wall op d.backend (start peers stop now wall context ts op d).1
      (start peers stop now wall context ts op d).2.backend := by
  unfold start
  split
  case h_1 => exact .ended (.failed (by simp))
  case h_2 =>
    split
    case h_1 => exact .ended (.failed (by simp))
    case h_2 frames stage hstart => exact served_perform { d with stage := stage.write .invoked }

theorem served_proceed {p : Pending} (h : p.wait.For op) (d : Desk) :
    Served wall op d.backend (proceed peers now wall p d).1 (proceed peers now wall p d).2.backend := by
  unfold proceed
  generalize p.wait = wait at h
  cases h with
  | @confirming id e student due flight hop hp =>
    simp only [resume, Peer.finish]
    exact .ended (concluded_confirmed hop hp (by rfl) student flight.ending)
  | roster due flight hop =>
    simp only [resume, Peer.finish]
    exact .ended (concluded_reading hop _)
  | gathering link job hop => exact served_gather hop (by rfl) link job p.tokens

theorem served_cancel (wall : Moment) {p : Pending} (h : p.wait.For op) (d : Desk) :
    Served wall op d.backend (cancel now p d).1 (cancel now p d).2.backend := by
  unfold cancel
  split
  case h_1 => exact .ended (.failed (by simp))
  case h_2 => exact .waiting h

theorem backend_abandon (now : Instant) (p : Pending) (d : Desk) : (abandon now p d).backend = d.backend := by
  unfold abandon
  split <;> rfl

/-! ## A whole call -/

theorem await_ended (limit : Option Instant) (fuel : Nat) (ending : Ending Response) :
    await peers wall limit fuel now (.ended ending, d) = ⟨ending, now, d⟩ := by
  cases fuel <;> rfl

theorem concluded_await {limit : Option Instant} {fuel : Nat} {progress : Progress} (h : Served wall op b progress d.backend) :
    Concluded wall op b (await peers wall limit fuel now (progress, d)).ending
      (await peers wall limit fuel now (progress, d)).desk.backend := by
  induction fuel generalizing now progress d with
  | zero =>
    generalize hb : d.backend = b' at h
    cases h with
    | ended hended =>
      rw [await_ended, hb]
      exact hended
    | @waiting p hwait =>
      simp only [await, backend_abandon, hb]
      exact .failed (by simp)
  | succ fuel ih =>
    generalize hb : d.backend = b' at h
    cases h with
    | ended hended =>
      rw [await_ended, hb]
      exact hended
    | @waiting p hwait =>
      have hgo (next : Instant) : Served wall op b (await.go peers wall next p d).1 (await.go peers wall next p d).2.backend := by
        rw [← hb]
        unfold await.go
        split
        · exact served_cancel wall hwait d
        · exact served_proceed hwait d
      cases limit with
      | none =>
        rw [await]
        exact ih (hgo _)
      | some l =>
        have hlimited (next : Instant) :
            let f : Finished := if l < next then ⟨.dropped, l, abandon l p d⟩
              else await peers wall (some l) fuel next (await.go peers wall next p d)
            Concluded wall op b f.ending f.desk.backend := by
          intro f
          by_cases hl : l < next
          · simp only [f, hl, if_true, backend_abandon, hb]
            exact .failed (by simp)
          · simp only [f, hl, if_false]
            exact ih (hgo next)
        rw [await]
        exact hlimited _

theorem concluded_finish {limit : Option Instant} (d : Desk) :
    Concluded wall op d.backend (finish peers wall limit now (start peers stop now wall context ts op d)).ending
      (finish peers wall limit now (start peers stop now wall context ts op d)).desk.backend :=
  concluded_await (served_start d)

end Steps

/-- A call that does not succeed leaves the records of its desk as they were, whatever ended it: the desk that does not know its
method, its chain, a check, a missing row, the peer, or its caller. A call that only reads does so in any case. One that
succeeds has made the one change of its operation. -/
theorem failed_call_leaves_records (d : Desk) (peers : Peers) (stop limit : Option Instant) (now : Instant) (wall : Moment)
    (context : Context) (ts : Tokens) (op : Operation) :
    let f := finish peers wall limit now (start peers stop now wall context ts op d)
    ((∀ r, f.ending ≠ .returned (.ok r)) → f.desk.backend = d.backend) ∧
      (op.isReading = true → f.desk.backend = d.backend) ∧
      (∀ r, f.ending = .returned (.ok r) →
        ∃ s, Service.Effect wall d.backend.store op r s ∧ f.desk.backend = { d.backend with store := s }) := by
  intro f
  have hconcluded : Concluded wall op d.backend f.ending f.desk.backend := concluded_finish d
  refine ⟨hconcluded.eq_of_failed, hconcluded.eq_of_isReading, ?_⟩
  intro r hr
  rw [hr] at hconcluded
  exact hconcluded.effect

end Campus.Desk
