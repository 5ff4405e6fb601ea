import Campus.Proofs.Desk.Entry
import Campus.Proofs.Desk.Gather
import Campus.Proofs.Desk.Known
import Campus.Proofs.FanOut.Books
import Campus.Proofs.Service.Wanted

/-! # Calls that end with a result

A call ends with a result, or waits for something that will end with one, unless it asks for courses under a bound beyond the most permits.
Neither a chain, nor a service, nor the way to the peer ends a call in another way.
-/
namespace Campus

open Pipeline

def Ending.Returned {α : Type} (e : Ending α) : Prop := ∃ result, e = .returned result

/-! ## Requests to the peer -/

namespace Peer

def Transport.Returns {α : Type} (transport : Transport α) : Prop :=
  ∀ now stop ts context id, (transport now stop ts context id).ending.Returned

theorem returned_race {α : Type} (e : Endpoint) (now deadline : Instant) (stop : Option Instant)
    (result : Option (Instant × Except Fault α)) : (race e now deadline stop result).ending.Returned := by
  unfold race
  dsimp only
  repeat' split
  all_goals exact ⟨_, rfl⟩

theorem returns_exchange {α : Type} [Wire α] (network : Network) (e : Endpoint) (d : Destination) :
    (exchange network e d : Transport α).Returns := by
  intro now stop ts context id
  unfold exchange
  repeat' split
  all_goals first
    | exact returned_race ..
    | exact ⟨_, rfl⟩

theorem returned_start {α : Type} [Summarize α] {transport : Transport α} (h : transport.Returns) (l : Link)
    (stop : Option Instant) (ts : Tokens) (now : Instant) (context : Context) (id : String) (s : Stage) :
    (startEnding (start l transport stop ts now context id s).1).Returned := by
  unfold start
  split
  case isTrue => exact ⟨_, rfl⟩
  case isFalse =>
    dsimp only
    split
    case h_1 => exact ⟨_, rfl⟩
    case h_2 => split <;> exact h now stop ts (context.forMethod l.endpoint.method) id

end Peer

structure Peers.Return (peers : Peers) : Prop where
  course : peers.course.Returns
  roster : peers.roster.Returns

theorem Peers.return_across (network : Peer.Network) (sibling : Option Peer.Destination) :
    (Peers.across network sibling).Return := by
  cases sibling with
  | none => exact ⟨fun _ _ _ _ _ => ⟨_, rfl⟩, fun _ _ _ _ _ => ⟨_, rfl⟩⟩
  | some d => exact ⟨Peer.returns_exchange network _ d, Peer.returns_exchange network _ d⟩

namespace Desk

open FanOut

/-! ## Operations -/

/-- A wait that is sure to go on: a request will end with a result, or the books of a fan-out are in order and a unit of it runs. -/
def Wait.Sure : Wait → Prop
  | .confirming _ _ _ flight => flight.ending.Returned
  | .roster _ flight => flight.ending.Returned
  | .gathering _ job => job.Books ∧ job.running ≠ []

def Turn.Sure : Turn → Prop
  | .over ending _ => ending.Returned
  | .waiting wait => wait.Sure

def Progress.Sure : Progress → Prop
  | .ended ending => ending.Returned
  | .waiting p => p.wait.Sure

/-- An operation asks for courses under a bound beyond the most permits. -/
structure Overreaches (d : Desk) (op : Operation) : Prop where
  limit : maxPermits < d.fanOut
  asks : ∃ link id student rows, op = .getStudentCourses id ∧ Asks d link id student rows ∧ rows ≠ []

section

variable {d : Desk} {peers : Peers} {stop : Option Instant} {now : Instant} {wall : Moment} {context : Context} {ts : Tokens}
  {op : Operation}

theorem returned_confirmed (student course : Int64) {ending : Ending Course} (h : ending.Returned) :
    (confirmed d student course wall ending).1.Returned := by
  obtain ⟨_ | _, rfl⟩ := h <;> exact ⟨_, rfl⟩

theorem returned_rosterReply {ending : Ending (List Student)} (h : ending.Returned) : (rosterReply ending).Returned := by
  obtain ⟨_ | _, rfl⟩ := h <;> exact ⟨_, rfl⟩

theorem sure_gather (link : Peer.Link) {job : Job (Peer.Flight Course) Course} (hjob : job.Books) (d : Desk) :
    (gather peers stop now link job ts d).1.Sure := by
  unfold gather
  split
  case h_1 => exact ⟨_, rfl⟩
  case h_2 job' ts' stage hstep =>
    obtain ⟨hgoes, -⟩ := hjob.step hstep
    exact ⟨hgoes.books, hgoes.running⟩

/-- Asking for courses goes well within the most permits, and where there is nothing to ask for. -/
theorem Asks.sure_perform {link : Peer.Link} {id : String} {student : Student} {rows : List Enrollment}
    (h : Asks d link id student rows) (hlimit : maxPermits < d.fanOut → rows = []) :
    (Desk.perform peers stop now wall context (.getStudentCourses id) ts d).1.Sure := by
  have hhandle := h.handle wall context.method
  obtain ⟨hkind, hlink, -, -⟩ := h
  cases d
  subst hkind hlink
  simp only [Desk.perform, Option.isSome_some, hhandle]
  split
  case isTrue => exact ⟨_, rfl⟩
  case isFalse hcourses =>
    split
    case isTrue hbeyond => exact absurd (by rw [hlimit hbeyond, List.map_nil]) hcourses
    case isFalse =>
      split
      case isTrue => exact ⟨_, rfl⟩
      case isFalse => exact sure_gather _ (Job.books_create ..) _

/-- An operation that does not overreach ends with a result, or waits for one. -/
theorem sure_perform (hpeers : peers.Return) (h : ¬d.Overreaches op) :
    (perform peers stop now wall context op ts d).1.Sure := by
  have hreasoned := Service.reasoned_handle (b := d.backend) op d.link.isSome wall context.method d.kind
  obtain ⟨step, backend, hhandle, hperforms⟩ := performs peers stop now wall context op ts d
  rw [hhandle] at hreasoned
  generalize hkind : d.kind = kind at hreasoned
  have hnear {link : Option Peer.Link} (hlinked : link.isSome = true) (hnone : link = none) : False := by
    rw [hnone] at hlinked
    cases hlinked
  cases hreasoned with
  | reply _ _ result =>
    simp only [perform, hhandle]
    exact ⟨_, rfl⟩
  | @confirmCourse hlinked id student p =>
    generalize perform peers stop now wall context _ ts d = turn at hperforms ⊢
    cases hperforms with
    | alone hnone => exact (hnear hlinked hnone).elim
    | @confirmed student course link _ _ _ hstart =>
      have hreturned := Peer.returned_start hpeers.course link stop ts now context (toString p.courseId.toInt) d.stage
      rw [hstart] at hreturned
      exact returned_confirmed _ _ hreturned
    | @confirming _ course link _ _ _ _ hstart =>
      have hreturned := Peer.returned_start hpeers.course link stop ts now context (toString p.courseId.toInt) d.stage
      rw [hstart] at hreturned
      exact hreturned
  | @askRoster hlinked id course =>
    generalize perform peers stop now wall context _ ts d = turn at hperforms ⊢
    cases hperforms with
    | alone hnone => exact (hnear hlinked hnone).elim
    | @answered _ link _ _ _ hstart =>
      have hreturned := Peer.returned_start hpeers.roster link stop ts now context (toString course.id.toInt) d.stage
      rw [hstart] at hreturned
      exact returned_rosterReply hreturned
    | @asking _ link _ _ _ _ hstart =>
      have hreturned := Peer.returned_start hpeers.roster link stop ts now context (toString course.id.toInt) d.stage
      rw [hstart] at hreturned
      exact hreturned
  | @askCourses hlinked id student rows hfound hrows =>
    obtain ⟨link, hlink⟩ := Option.isSome_iff_exists.mp hlinked
    have hasks : Asks d link id student rows := ⟨hkind, hlink, hfound, hrows⟩
    refine hasks.sure_perform fun hlimit => Classical.byContradiction fun hsome => h ⟨hlimit, ?_⟩
    exact ⟨link, id, student, rows, rfl, hasks, hsome⟩

/-- One that does breaks down before anything is asked. -/
theorem Overreaches.perform (h : d.Overreaches op) (peers : Peers) (stop : Option Instant) (now : Instant) (wall : Moment)
    (context : Context) (ts : Tokens) :
    Desk.perform peers stop now wall context op ts d = (.over (.panicked (some tooManyPermits)) [], ts, d) := by
  obtain ⟨hlimit, link, id, student, rows, rfl, hasks, hrows⟩ := h
  exact hasks.perform_beyond hrows hlimit peers now wall

/-! ## Calls -/

theorem sure_settle (frames : List Frame) {turn : Turn × Tokens × Desk} (h : turn.1.Sure) :
    (settle now frames context stop turn).1.Sure := by
  obtain ⟨⟨ending, left⟩ | wait, ts, d⟩ := turn
  · exact h
  · exact h

/-- Whether a call overreaches does not depend on the guard room. -/
theorem overreaches_stage (s : Stage) : ({ d with stage := s } : Desk).Overreaches op ↔ d.Overreaches op := by
  constructor
  all_goals
    rintro ⟨hlimit, link, id, student, rows, hop, ⟨hkind, hlink, hfound, hrows⟩, hsome⟩
    exact ⟨hlimit, link, id, student, rows, hop, ⟨hkind, hlink, hfound, hrows⟩, hsome⟩

/-- A call that overreaches breaks down as soon as its chain lets it in. -/
theorem Overreaches.start {frames : List Frame} {s : Stage} (h : d.Overreaches op) (henter : d.enter? now op = some (frames, s))
    (hmethod : context.method = op.method) :
    (Desk.start peers stop now wall context ts op d).1 = .ended (.panicked (some tooManyPermits)) := by
  rw [start_of_enter? henter hmethod, ((overreaches_stage s).mpr h).perform]
  rfl

/-- Every other call ends with a result, at once or later. -/
theorem sure_start (hpeers : peers.Return) (hmethod : context.method = op.method)
    (h : (d.enter? now op).isSome → ¬d.Overreaches op) : (start peers stop now wall context ts op d).1.Sure := by
  rcases henter : d.enter? now op with _ | ⟨frames, s⟩
  · unfold enter? at henter
    unfold start
    rw [hmethod]
    split
    case h_1 => exact ⟨_, rfl⟩
    case h_2 chain hchain =>
      rw [hchain] at henter
      dsimp only at henter
      split
      case h_1 => exact ⟨_, rfl⟩
      case h_2 hlet =>
        rw [hlet] at henter
        cases henter
  · rw [start_of_enter? henter hmethod]
    refine sure_settle frames (sure_perform hpeers fun hover => ?_)
    exact h (Option.isSome_of_mem henter) ((overreaches_stage s).mp hover)

/-- A call breaks down at once if and only if its chain lets it in and it overreaches. -/
theorem start_panicked_iff (hpeers : peers.Return) (hmethod : context.method = op.method) (text : Option String) :
    (start peers stop now wall context ts op d).1 = .ended (.panicked text) ↔
      text = some tooManyPermits ∧ (d.enter? now op).isSome ∧ d.Overreaches op := by
  constructor
  · intro hpanicked
    by_cases h : (d.enter? now op).isSome ∧ d.Overreaches op
    · obtain ⟨⟨frames, s⟩, henter⟩ := Option.isSome_iff_exists.mp h.1
      rw [h.2.start henter hmethod] at hpanicked
      cases hpanicked
      exact ⟨rfl, h⟩
    · have hsure : (start peers stop now wall context ts op d).1.Sure :=
        sure_start hpeers hmethod fun hsome hover => h ⟨hsome, hover⟩
      rw [hpanicked] at hsure
      obtain ⟨result, hresult⟩ := hsure
      cases hresult
  · rintro ⟨rfl, hsome, hover⟩
    obtain ⟨⟨frames, s⟩, henter⟩ := Option.isSome_iff_exists.mp hsome
    exact hover.start henter hmethod

theorem sure_resume {wait : Wait} (h : wait.Sure) : (resume peers stop now wall wait ts d).1.Sure := by
  cases wait with
  | confirming student course due flight => exact returned_confirmed student course h
  | roster due flight => exact returned_rosterReply h
  | gathering link job => exact sure_gather link h.1 d

theorem sure_proceed {p : Pending} (h : p.wait.Sure) : (proceed peers now wall p d).1.Sure := sure_settle _ (sure_resume h)

theorem sure_cancel {p : Pending} (h : p.wait.Sure) : (cancel now p d).1.Sure := by
  obtain ⟨frames, context, tokens, stop, wait⟩ := p
  cases wait with
  | confirming student course due flight => exact h
  | roster due flight => exact h
  | gathering link job => exact ⟨_, rfl⟩

end

end Desk

end Campus
