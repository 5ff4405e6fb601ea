import Campus.Intake
import Campus.Proofs.Bucket.Admission
import Campus.Proofs.Desk.Returned
import Campus.Proofs.Desk.Sent

/-! # Calls that break down

A call is followed from its start, through whatever happens to the desk while it waits, to its end. Under a configuration that is
accepted it ends with a result after a number of legs that is known when it starts to wait. The one exception is a call for courses under
a bound beyond the most permits.
-/
namespace Campus

open Pipeline FanOut

/-! ## Legs of a call that is waited for -/

namespace Desk

def Leg.Kept : Leg → Prop
  | due _ _ _ | cancelled _ _ => True
  | givenUp _ _ => False

def Leg.TakesOn (p : Pending) : Leg → Prop
  | due now _ _ => ∀ t ∈ p.wait.due?, t ≤ now
  | _ => False

namespace Progress

def follow (peers : Peers) : Progress → List Leg → Progress
  | .waiting p, leg :: legs => (leg.run peers p).1.follow peers legs
  | progress, _ => progress

/-- Each leg of a call takes it on, as long as it waits. -/
def TakenOn (peers : Peers) : Progress → List Leg → Prop
  | .waiting p, leg :: legs => leg.TakesOn p ∧ (leg.run peers p).1.TakenOn peers legs
  | _, _ => True

def rounds : Progress → Nat
  | .ended _ => 0
  | .waiting p =>
    match p.wait with
    | .gathering _ job => job.left.length
    | _ => if p.stop.isSome then 2 else 1

end Progress

variable {peers : Peers} {p : Pending} {progress : Progress} {leg : Leg} {legs : List Leg}

theorem Leg.TakesOn.kept (h : leg.TakesOn p) : leg.Kept := by
  cases leg with
  | due => trivial
  | cancelled => trivial
  | givenUp => exact h

/-- When the wait of a call is over it goes on, unless it was to be cancelled before. -/
theorem Leg.run_due_cases (peers : Peers) (p : Pending) (now : Instant) (wall : Moment) (d : Desk) :
    (∃ c, p.stop = some c ∧ (Leg.due now wall d).run peers p = cancel c p d) ∨
      (Leg.due now wall d).run peers p = proceed peers now wall p d := by
  rcases hstop : p.stop with _ | c
  · right
    simp only [Leg.run, Leg.move, hstop]
    rfl
  · by_cases hc : c ≤ now
    · refine .inl ⟨c, rfl, ?_⟩
      simp only [Leg.run, Leg.move, hstop, hc, if_true]
      rfl
    · right
      simp only [Leg.run, Leg.move, hstop, hc, if_false]
      rfl

theorem Leg.Kept.sure_run (h : leg.Kept) (hp : p.wait.Sure) (peers : Peers) : (leg.run peers p).1.Sure := by
  cases leg with
  | due now wall d =>
    rcases Leg.run_due_cases peers p now wall d with ⟨c, -, hrun⟩ | hrun
    · rw [hrun]
      exact sure_cancel hp
    · rw [hrun]
      exact sure_proceed hp
  | cancelled now d => exact sure_cancel hp
  | givenUp => exact h.elim

theorem sure_follow (h : progress.Sure) (hlegs : ∀ leg ∈ legs, leg.Kept) (peers : Peers) : (progress.follow peers legs).Sure := by
  induction legs generalizing progress with
  | nil => cases progress <;> exact h
  | cons leg legs ih =>
    cases progress with
    | ended ending => exact h
    | waiting p => exact ih ((hlegs leg List.mem_cons_self).sure_run h peers) fun l hl => hlegs l (List.mem_cons_of_mem _ hl)

/-! ## How long a call waits -/

theorem rounds_le_turns (h : progress.Sure) : progress.rounds ≤ progress.turns := by
  cases progress with
  | ended ending => exact Nat.le_refl 0
  | waiting p =>
    obtain ⟨frames, context, tokens, stop, wait⟩ := p
    cases wait with
    | gathering link job => exact Nat.le_succ_of_le h.1.length_left_le
    | _ => cases stop <;> simp [Progress.rounds, Progress.turns, Wait.turns]

theorem rounds_pos (h : (Progress.waiting p).Sure) : 0 < (Progress.waiting p).rounds := by
  obtain ⟨frames, context, tokens, stop, wait⟩ := p
  cases wait with
  | gathering link job => exact Job.length_left_pos h.2
  | _ => cases stop <;> simp [Progress.rounds]

/-- A fan-out that goes on has fewer units left if one was due. -/
theorem rounds_gather {stop : Option Instant} {now : Instant} {link : Peer.Link} {job : Job (Peer.Flight Course) Course} {ts : Tokens}
    {d : Desk} (frames : List Frame) (context : Context) (hjob : job.Books) (hdue : ∃ u ∈ job.running, u.due ≤ now) :
    (settle now frames context stop (gather peers stop now link job ts d)).1.rounds < job.left.length := by
  unfold gather
  split
  case h_1 => exact Job.length_left_pos (List.ne_nil_of_mem hdue.choose_spec.1)
  case h_2 job' ts' stage hstep => exact (hjob.step hstep).1.shrinks hdue

/-- A call that waits for one request is over when that is, or after its cancellation was noticed. -/
theorem rounds_alone {now : Instant} {wall : Moment} {d : Desk} (hwaits : (Progress.waiting p).rounds = if p.stop.isSome then 2 else 1)
    (hcancel : ∀ c, (cancel c p d).1.rounds = 1) (hproceed : (proceed peers now wall p d).1.rounds = 0) :
    ((Leg.due now wall d).run peers p).1.rounds < (Progress.waiting p).rounds := by
  rw [hwaits]
  rcases Leg.run_due_cases peers p now wall d with ⟨c, hstop, hrun⟩ | hrun
  · rw [hrun, hcancel, hstop]
    exact Nat.one_lt_two
  · rw [hrun, hproceed]
    split <;> decide

theorem Leg.TakesOn.rounds_run (h : leg.TakesOn p) (hp : p.wait.Sure) (peers : Peers) :
    (leg.run peers p).1.rounds < (Progress.waiting p).rounds := by
  cases leg with
  | due now wall d =>
    obtain ⟨frames, context, tokens, stop, wait⟩ := p
    cases wait with
    | gathering link job =>
      obtain ⟨hbooks, hrunning⟩ := hp
      obtain ⟨due, hnext, u, hu, hdue⟩ := Job.nextDue?_of_running hrunning
      have hnow : u.due ≤ now := hdue ▸ h due hnext
      rcases Leg.run_due_cases peers _ now wall d with ⟨c, -, hrun⟩ | hrun
      · rw [hrun]
        exact Job.length_left_pos hrunning
      · rw [hrun]
        exact rounds_gather frames context hbooks ⟨u, hu, hnow⟩
    | confirming student course due flight => exact rounds_alone rfl (fun c => rfl) rfl
    | roster due flight => exact rounds_alone rfl (fun c => rfl) rfl
  | cancelled => exact h.elim
  | givenUp => exact h.elim

/-- A call that each leg takes on ends with a result, after no more legs than it may wait for. -/
theorem returned_follow (h : progress.Sure) (hlegs : progress.TakenOn peers legs) (hrounds : progress.rounds ≤ legs.length) :
    ∃ result, progress.follow peers legs = .ended (.returned result) := by
  induction legs generalizing progress with
  | nil =>
    cases progress with
    | ended ending =>
      obtain ⟨result, rfl⟩ := h
      exact ⟨result, rfl⟩
    | waiting p => exact absurd hrounds (Nat.not_le.mpr (rounds_pos h))
  | cons leg legs ih =>
    cases progress with
    | ended ending =>
      obtain ⟨result, rfl⟩ := h
      exact ⟨result, rfl⟩
    | waiting p =>
      obtain ⟨hleg, hrest⟩ := hlegs
      have hless := hleg.rounds_run h peers
      rw [List.length_cons] at hrounds
      exact ih (hleg.kept.sure_run h peers) hrest (by omega)

theorem returned_await (wall : Moment) {fuel : Nat} {now : Instant} {r : Progress × Desk} (h : r.1.Sure) (hfuel : r.1.rounds ≤ fuel) :
    (await peers wall none fuel now r).ending.Returned := by
  induction fuel generalizing now r with
  | zero =>
    obtain ⟨ending | p, d⟩ := r
    · exact h
    · exact absurd hfuel (Nat.not_le.mpr (rounds_pos h))
  | succ fuel ih =>
    obtain ⟨ending | p, d⟩ := r
    · exact h
    · let due := p.wait.due?.getD now
      have htakes : (Leg.due due wall d).TakesOn p := by
        intro t ht
        simp only [due, show p.wait.due? = some t from ht, Option.getD_some, Nat.le_refl]
      have hless := htakes.rounds_run h peers
      have hsure := htakes.kept.sure_run h peers
      rw [Leg.run_due] at hless hsure
      exact ih hsure (Nat.le_of_lt_succ (Nat.lt_of_lt_of_le hless hfuel))

/-- A call that is awaited without a limit ends with a result. -/
theorem returned_finish (wall : Moment) (now : Instant) {r : Progress × Desk} (h : r.1.Sure) :
    (finish peers wall none now r).ending.Returned :=
  returned_await wall h (rounds_le_turns h)

/-! ## Configurations -/

theorem fanOut_registerAll (config : ServerConfig) (now : Instant) (d : Desk) : (d.registerAll config now).fanOut = d.fanOut := by
  unfold registerAll
  generalize Service.methods d.kind = methods
  induction methods generalizing d with
  | nil => rfl
  | cons m methods ih => exact ih (d.register m config.endpointLimiter config.endpointBreaker now)

theorem fanOut_build {config : ServerConfig} {backend : Backend} {now : Instant} {d : Desk} {sibling : Option Peer.Destination}
    (h : build config backend now = .ok (d, sibling)) : d.fanOut = config.fanOut := by
  unfold build at h
  dsimp only at h
  split at h
  case isTrue =>
    cases h
    exact fanOut_registerAll config now _
  case isFalse =>
    split at h
    case h_1 =>
      cases h
      exact fanOut_registerAll config now _
    case h_2 =>
      split at h
      case h_1 => cases h
      case h_2 =>
        cases h
        exact fanOut_registerAll config now _

end Desk

namespace Traffic

theorem fixtures_step (r : Traffic) (e : Event) : (r.step e).desk.fixtures = r.desk.fixtures := by
  cases e with
  | call peers stop now wall context tokens op =>
    rw [step, desk_note]
    exact Desk.fixtures_start r.desk
  | move method number move =>
    unfold step
    dsimp only
    split
    case h_1 p hp =>
      rw [desk_note]
      exact move.fixtures_apply p r.desk
    case h_2 => rfl
  | sweep now => rfl

theorem fixtures_after (r : Traffic) (events : List Event) : (r.after events).desk.fixtures = r.desk.fixtures := by
  induction events generalizing r with
  | nil => rfl
  | cons e events ih => exact (ih (r.step e)).trans (fixtures_step r e)

end Traffic

/-! ## Whole calls -/

/-- An instant that a clock can show, whose seconds are counted in 63 bits. -/
def OnClock (t : Instant) : Prop := t / 1000000000 < 2 ^ 63

/-- In the first half of its seconds a clock can show an instant that lies any timeout ahead. -/
theorem Intake.onClock_deadline (i : Intake) (config : ServerConfig) {now : Instant} (h : now < Span.ofSeconds (2 ^ 62))
    (method : String) (requestId : Option String) : OnClock (i.openCall config now method requestId).1.deadline := by
  have hahead {start ms : Nat} (hstart : start < 2 ^ 62 * 1000000000) (hms : ms < 2 ^ 64) :
      (start + ms * 1000000) / 1000000000 < 2 ^ 63 := by omega
  exact hahead h config.operationTimeoutMs.toNat_lt

theorem Intake.remaining_lt (i : Intake) (config : ServerConfig) {now t : Instant} (ht : now ≤ t) (method : String)
    (requestId : Option String) : Span.toMillis ((i.openCall config now method requestId).1.remaining t) < 2 ^ 64 := by
  have hleft {start later ms : Nat} (hlater : start ≤ later) (hms : ms < 2 ^ 64) :
      (start + ms * 1000000 - later) / 1000000 < 2 ^ 64 := by omega
  exact hleft ht config.operationTimeoutMs.toNat_lt

namespace Desk

/-- What a call may not be able to work out is defined for one that is opened now at guards which were made at `since`: its deadline can
be told by a clock, what is left of its time by a number of milliseconds, the level of a bucket by a number of tokens, and what the units
of a fan-out give finds its places. -/
structure Defined (context : Context) (ts : Tokens) (since now : Instant) : Prop where
  deadline : now < Span.ofSeconds (2 ^ 62) → OnClock context.deadline
  remaining : ∀ t, now ≤ t → Span.toMillis (context.remaining t) < 2 ^ 64
  level : ∀ (rate : Rat) burst uses t, let b := ((Bucket.full rate burst since).after uses).refill t
    ((TokenAmount.whole b.tokens).toNat : Int) = b.tokens.floor ∧ TokenAmount.whole b.tokens ≤ b.burst
  places : ∀ seed ids bound, (Job.create context seed ids bound ts : Job (Peer.Flight Course) Course × Tokens).1.FindsPlaces

/-- A call that has begun comes to a result, whatever happens to the desk while it waits. -/
structure Lasts (peers : Peers) (wall : Moment) (now : Instant) (call : Progress × Desk) : Prop where
  places : ∀ legs, (∀ leg ∈ legs, leg.Kept) → ∀ p link job, call.1.follow peers legs = .waiting p → p.wait = .gathering link job →
    job.FindsPlaces
  returned : ∀ legs, (∀ leg ∈ legs, leg.Kept) → ∀ ending, call.1.follow peers legs = .ended ending → ending.Returned
  ends : ∀ legs, call.1.TakenOn peers legs → call.1.turns ≤ legs.length →
    ∃ result, call.1.follow peers legs = .ended (.returned result)
  awaited : (finish peers wall none now call).ending.Returned

theorem lasts_of_sure {peers : Peers} {now : Instant} {call : Progress × Desk} (h : call.1.Sure) (wall : Moment) :
    Lasts peers wall now call where
  places legs hlegs p link job hwaiting hwait := by
    have hfollow := sure_follow h hlegs peers
    rw [hwaiting] at hfollow
    simp only [Progress.Sure, hwait] at hfollow
    exact @hfollow.1.findsPlaces
  returned legs hlegs ending hended := by
    have hfollow := sure_follow h hlegs peers
    rwa [hended] at hfollow
  ends legs htaken hturns := returned_follow h htaken (Nat.le_trans (rounds_le_turns h) hturns)
  awaited := returned_finish wall now h

/-- Under a configuration that is accepted a call breaks down if and only if its chain lets it in and it asks for courses under a bound
beyond the most permits, which no check of the configuration excludes. It breaks down at once then. All else that it might not be able to
work out is defined, and it ends with a result, whatever happens to the desk while it waits. -/
theorem call_breaks_down_iff (config : ServerConfig) (hvalid : config.validate = .ok ()) (backend : Backend) (since : Instant)
    (opened : Desk) (sibling : Option Peer.Destination) (hbuild : Desk.build config backend since = .ok (opened, sibling))
    (events : List Traffic.Event) (network : Peer.Network) (stop : Option Instant) (now : Instant) (wall : Moment) (intake : Intake)
    (requestId : Option String) (ts : Tokens) (op : Operation) :
    let d := ((Traffic.opened opened).after events).desk
    let peers := Peers.across network sibling
    let context := (intake.openCall config now op.method requestId).1
    let call := start peers stop now wall context ts op d
    (∀ bound, ({ config with fanOut := bound } : ServerConfig).validate = .ok ()) ∧ d.fanOut = config.fanOut ∧
      (∀ text, call.1 = .ended (.panicked text) ↔
        text = some tooManyPermits ∧ (d.enter? now op).isSome ∧ d.Overreaches op) ∧
      Defined context ts since now ∧ ((∀ text, call.1 ≠ .ended (.panicked text)) → Lasts peers wall now call) := by
  intro d peers context call
  have hpeers : peers.Return := Peers.return_across network sibling
  have hfanOut : d.fanOut = config.fanOut :=
    (congrArg (·.2.2.2.1) (Traffic.fixtures_after (.opened opened) events)).trans (fanOut_build hbuild)
  have hdefined : Defined context ts since now := {
    deadline := fun hnow => intake.onClock_deadline config hnow _ _
    remaining := fun t ht => intake.remaining_lt config ht _ _
    level := fun rate burst uses t => (((Bucket.sound_full rate burst since).after uses).refill t).whole_tokens
    places := fun seed ids bound => (Job.books_create context seed ids bound ts).findsPlaces }
  refine ⟨fun bound => hvalid, hfanOut, start_panicked_iff hpeers rfl, hdefined, fun hcalm => lasts_of_sure ?_ wall⟩
  exact sure_start hpeers rfl fun hsome hover => hcalm _ ((start_panicked_iff hpeers rfl _).mpr ⟨rfl, hsome, hover⟩)

/-- A configuration of a students service whose bound is beyond the most permits. -/
def boundlessConfig : ServerConfig := { ServerConfig.standard with fanOut := maxPermits + 1, peerUrl := some "http://courses" }

/-- A desk for it, with the student who is enrolled in three courses. -/
def boundlessDesk : Desk :=
  let d := bare .students (.sound retakenRecords) boundlessConfig.fanOut
  (d.linkWith (.full 1.0 100 0) (.fresh "courses" .standard Fault.isDependencyFailure)).registerAll boundlessConfig 0

theorem valid_boundlessConfig : boundlessConfig.validate = .ok () := by
  have hok : boundlessConfig.validate.toBool = true := by decide +kernel
  cases hvalidate : boundlessConfig.validate with
  | ok valid => rfl
  | error fault =>
    rw [hvalidate] at hok
    cases hok

theorem overreaches_boundlessDesk : boundlessDesk.Overreaches (.getStudentCourses "1") := by
  have hrows : boundlessDesk.backend.store.enrollmentsOf 1 Service.relationPage = retakenRows := by
    rw [Store.enrollmentsOf_relationPage, show boundlessDesk.backend.store = retakenRecords from rfl, everyEnrollmentOf_retaken]
    rfl
  exact ⟨Nat.lt_succ_self maxPermits, ⟨Peer.courseEndpoint, 0, 0⟩, "1", _, retakenRows, rfl, ⟨rfl, rfl, rfl, congrArg Except.ok hrows⟩,
    by decide⟩

/-- The configuration is accepted, and the call breaks down. -/
theorem call_breaks_down_boundless :
    let context := (Intake.fresh.openCall boundlessConfig 0 "get_student_courses" none).1
    boundlessConfig.validate = .ok () ∧ OnClock context.deadline ∧
      (start (.across twoCoursesNetwork (some Peer.courseDestination)) none 0 schoolStart context .fresh (.getStudentCourses "1")
        boundlessDesk).1 = .ended (.panicked (some tooManyPermits)) := by
  intro context
  have hbuild : Desk.build boundlessConfig (.sound retakenRecords) 0 = .ok (boundlessDesk, some Peer.courseDestination) := rfl
  obtain ⟨-, -, hbreaks, hdefined, -⟩ := call_breaks_down_iff boundlessConfig valid_boundlessConfig (.sound retakenRecords) 0
    boundlessDesk (some Peer.courseDestination) hbuild [] twoCoursesNetwork none 0 schoolStart .fresh none .fresh (.getStudentCourses "1")
  exact ⟨valid_boundlessConfig, hdefined.deadline (by decide), (hbreaks _).mpr ⟨rfl, by decide +kernel, overreaches_boundlessDesk⟩⟩

end Desk

end Campus
