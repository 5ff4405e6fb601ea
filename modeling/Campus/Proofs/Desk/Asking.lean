import Campus.Proofs.Desk.Courses
import Campus.Proofs.Desk.Place
import Campus.Proofs.Peer.Asked
import Campus.Proofs.Service.Wanted

/-! # What a call asks its peer for

An operation asks at once for the one thing it needs, or for as many courses as it may; each time its wait is over it asks for some of
the courses that are left. What was asked for is not among these, and a failure leaves none.
-/
namespace Campus

open FanOut Pipeline

/-- Peers to which nothing is sent for a caller that is cancelled or has no time left. -/
structure Peers.Careful (peers : Peers) : Prop where
  course : peers.course.Careful
  roster : peers.roster.Careful

theorem Peers.careful_across (network : Peer.Network) (sibling : Option Peer.Destination) :
    (Peers.across network sibling).Careful := by
  cases sibling with
  | none => exact ⟨fun _ _ _ _ _ hsent => Bool.noConfusion hsent, fun _ _ _ _ _ hsent => Bool.noConfusion hsent⟩
  | some d => exact ⟨Peer.careful_exchange network _ d, Peer.careful_exchange network _ d⟩

theorem Tokens.lt_of_isCancelled {ts : Tokens} {t : Token} (h : ts.isCancelled t = true) : t < ts.nodes.size := by
  apply Nat.lt_of_not_le
  intro hbeyond
  simp [isCancelled, Array.getElem?_eq_none hbeyond] at h

namespace Desk

/-! ## Requests that are left -/

def Wait.unasked : Wait → List Peer.Question
  | .gathering link job => job.waiting.map link.question
  | _ => []

def Turn.unasked : Turn → List Peer.Question
  | .waiting wait => wait.unasked
  | .over _ _ => []

def Progress.unasked : Progress → List Peer.Question
  | .waiting p => p.wait.unasked
  | .ended _ => []

/-- The units in which a step of a service asks for what it needs, each on behalf of the caller. -/
def unitsFor (context : Context) (ts : Tokens) : Service.Step → List Waiting
  | .reply _ => []
  | .confirmCourse _ course | .askRoster course => [⟨0, toString course.toInt, context⟩]
  | .askCourses _ courses => unitsOf context (courses.map fun c => toString c.toInt) ts

/-- The requests that a step of a service may come to: none for a caller that was cancelled. -/
def Link.questions (link : Option Peer.Link) (context : Context) (ts : Tokens) (step : Service.Step) : List Peer.Question :=
  match link with
  | none => []
  | some l => if ts.isCancelled context.token = true then [] else (unitsFor context ts step).map l.question

theorem id_unitsFor (context : Context) (ts : Tokens) (step : Service.Step) :
    (unitsFor context ts step).map Waiting.id = step.wanted := by
  cases step with
  | askCourses seed courses => exact id_unitsOf ..
  | _ => rfl

/-- A unit has the deadline of the caller, and goes under the id of the caller's request. -/
theorem context_unitsFor {context : Context} {ts : Tokens} {step : Service.Step} {u : Waiting}
    (hu : u ∈ unitsFor context ts step) :
    u.context.deadline = context.deadline ∧ u.context.requestId = context.requestId := by
  cases step with
  | reply result => cases hu
  | askCourses seed courses =>
    rw [context_unitsOf context _ ts hu]
    exact ⟨rfl, rfl⟩
  | _ =>
    obtain rfl := List.mem_singleton.mp hu
    exact ⟨rfl, rfl⟩

/-! ## The end of a call -/

theorem requests_tearDown (left : List (Running (Peer.Flight Course))) (d : Desk) :
    (tearDown left d).stage.journal.requests = d.stage.journal.requests := by
  unfold tearDown
  dsimp only
  generalize d.stage = s
  induction left generalizing s with
  | nil => rfl
  | cons u left ih => exact ih _

theorem requests_close (now : Instant) (frames : List Frame) (ending : Ending Response)
    (left : List (Running (Peer.Flight Course))) (d : Desk) :
    (close now frames ending left d).stage.journal.requests = d.stage.journal.requests :=
  (requests_tearDown ..).trans (requests_leave ..)

theorem requests_settle (now : Instant) (frames : List Frame) (context : Context) (stop : Option Instant)
    (r : Turn × Tokens × Desk) :
    (settle now frames context stop r).2.stage.journal.requests = r.2.2.stage.journal.requests := by
  obtain ⟨⟨ending, left⟩ | wait, ts, d⟩ := r
  · exact requests_close ..
  · rfl

theorem unasked_settle (now : Instant) (frames : List Frame) (context : Context) (stop : Option Instant)
    (r : Turn × Tokens × Desk) : (settle now frames context stop r).1.unasked = r.1.unasked := by
  obtain ⟨turn, ts, d⟩ := r
  cases turn <;> rfl

/-! ## One leg of a call -/

section Legs

variable {peers : Peers} (stop : Option Instant) (now : Instant) (wall : Moment) (ts : Tokens) (d : Desk)

theorem sends_gather (h : peers.Careful) (link : Peer.Link) (job : Job (Peer.Flight Course) Course) :
    Peer.Sends now (job.waiting.map link.question) d.stage (gather peers stop now link job ts d).2.2.stage
      (gather peers stop now link job ts d).1.unasked := by
  have hsends := Peer.sends_step link stop ts now h.course job ts d.stage
  unfold gather
  rcases hstep : Job.step (Peer.worker link peers.course stop ts) now job ts d.stage with ⟨job' | ⟨result, notices, left⟩, ts', s'⟩
  · rw [hstep] at hsends
    exact hsends
  · rw [hstep] at hsends
    exact hsends.of_eq (Stage.requests_note _ _)

theorem sends_resume (h : peers.Careful) (wait : Wait) :
    Peer.Sends now wait.unasked d.stage (resume peers stop now wall wait ts d).2.2.stage
      (resume peers stop now wall wait ts d).1.unasked := by
  cases wait with
  | confirming student course due flight =>
    refine .nothing ?_ (List.Sublist.refl _)
    simp only [resume, stage_confirmed]
    exact Peer.requests_finish now flight d.stage
  | roster due flight => exact .nothing (Peer.requests_finish now flight d.stage) (List.Sublist.refl _)
  | gathering link job => exact sends_gather stop now ts d h link job

/-- An operation sends at once requests for some of what its service needs. -/
theorem sends_perform (h : peers.Careful) (context : Context) (op : Operation) :
    Peer.Sends now
      (Link.questions d.link context ts (Service.handle d.kind d.link.isSome wall context.method op d.backend).1) d.stage
      (perform peers stop now wall context op ts d).2.2.stage (perform peers stop now wall context op ts d).1.unasked := by
  obtain ⟨kind, backend, endpoints, link, fanOut, stage⟩ := d
  simp only [perform]
  rcases Service.handle kind link.isSome wall context.method op backend with ⟨step, backend'⟩
  rcases link with _ | link
  · cases step <;> exact .nothing rfl (List.nil_sublist _)
  cases step with
  | reply result => exact .nothing rfl (List.nil_sublist _)
  | confirmCourse student course =>
    have hsends := Peer.sends_start link stop ts now h.course ⟨0, toString course.toInt, context⟩ stage
    dsimp only at hsends ⊢
    rcases hstart : Peer.start link peers.course stop ts now context (toString course.toInt) stage with
      ⟨ending | ⟨due, flight⟩, stage'⟩
    · rw [hstart] at hsends
      exact hsends.of_eq (congrArg (·.journal.requests) (stage_confirmed ..))
    · rw [hstart] at hsends
      exact hsends
  | askRoster course =>
    have hsends := Peer.sends_start link stop ts now h.roster ⟨0, toString course.toInt, context⟩ stage
    dsimp only at hsends ⊢
    rcases hstart : Peer.start link peers.roster stop ts now context (toString course.toInt) stage with
      ⟨ending | ⟨due, flight⟩, stage'⟩
    · rw [hstart] at hsends
      exact hsends
    · rw [hstart] at hsends
      exact hsends
  | askCourses seed courses =>
    simp only [create_eq]
    split
    case isTrue => exact .nothing rfl (List.nil_sublist _)
    split
    case isTrue => exact .nothing rfl (List.nil_sublist _)
    by_cases hcancelled : (tokensOf context (courses.map fun c => toString c.toInt) ts).isCancelled context.token = true
    · simp only [hcancelled, if_true]
      exact .nothing rfl (List.nil_sublist _)
    -- The tokens of the units leave the caller's own as it was.
    have hbefore : ¬ts.isCancelled context.token = true := fun hc =>
      hcancelled ((isCancelled_tokensOf_of_lt context _ (Tokens.lt_of_isCancelled hc)).trans hc)
    simp only [hcancelled, Link.questions, hbefore]
    exact sends_gather stop now _ ⟨kind, backend', endpoints, some link, fanOut, stage⟩ h link _

/-- A call past all chains asks for what its operation does. -/
theorem sends_startDirect (h : peers.Careful) (context : Context) (op : Operation) :
    Peer.Sends now
      (Link.questions d.link context ts (Service.handle d.kind d.link.isSome wall context.method op d.backend).1) d.stage
      (startDirect peers stop now wall context ts op d).2.stage (startDirect peers stop now wall context ts op d).1.unasked := by
  rw [startDirect, unasked_settle]
  exact (sends_perform stop now wall ts d h context op).of_eq (requests_settle ..)

theorem sends_start (h : peers.Careful) (context : Context) (op : Operation) :
    Peer.Sends now
      (Link.questions d.link context ts (Service.handle d.kind d.link.isSome wall context.method op d.backend).1) d.stage
      (start peers stop now wall context ts op d).2.stage (start peers stop now wall context ts op d).1.unasked := by
  unfold start
  split
  case h_1 => exact .nothing rfl (List.nil_sublist _)
  case h_2 chain _ =>
    have henter := requests_startCall now ⟨context.method, op.fields⟩ chain d.stage
    split
    case h_1 heq =>
      rw [heq] at henter
      exact .nothing henter (List.nil_sublist _)
    case h_2 stage heq =>
      rw [heq] at henter
      rw [unasked_settle]
      have hinvoked : (stage.write .invoked).journal.requests = d.stage.journal.requests := by
        rw [Stage.journal_write, Journal.requests_append]
        simpa [Journal.requests] using henter
      exact ((sends_perform stop now wall ts { d with stage := stage.write .invoked } h context op).eq_before hinvoked).of_eq
        (requests_settle ..)

end Legs

end Desk

end Campus
