import Campus.Proofs.Desk.Admission
import Campus.Proofs.Desk.Asking

/-! # The requests of one call

A call is followed from its start over all that happens to it while it waits. Others may change the desk at any time between, so each leg
of it starts at a desk of its own. The requests that it sends are those that the journal has after a leg and did not have before, each
with the instant of its leg.
-/
namespace Campus.Desk

open FanOut Pipeline

/-! ## Giving up -/

section Ends

variable (now : Instant) (p : Pending) (d : Desk)

theorem requests_cancel : (cancel now p d).2.stage.journal.requests = d.stage.journal.requests := by
  obtain ⟨frames, context, tokens, stop, wait⟩ := p
  cases wait with
  | gathering link job => exact requests_close ..
  | _ => rfl

/-- A call that is cancelled has nothing more to ask for. -/
theorem unasked_cancel : (cancel now p d).1.unasked = [] := by
  obtain ⟨frames, context, tokens, stop, wait⟩ := p
  cases wait <;> rfl

theorem requests_abandon : (abandon now p d).stage.journal.requests = d.stage.journal.requests := by
  obtain ⟨frames, context, tokens, stop, wait⟩ := p
  cases wait with
  | confirming student course due flight => exact (requests_close ..).trans (Peer.requests_abandon now flight d.stage)
  | roster due flight => exact (requests_close ..).trans (Peer.requests_abandon now flight d.stage)
  | gathering link job => exact requests_close ..

end Ends

/-! ## Legs -/

/-- The instant at which a call goes on that waits until `due`, unless it is to be cancelled before. -/
def Pending.next (p : Pending) (due : Instant) : Instant :=
  match p.stop with
  | some c => if c ≤ due then c else due
  | none => due

/-- What happens to a call while it waits, and the desk at that time: an instant comes at which its wait is over, it is cancelled from
outside, or it is given up. -/
inductive Leg where
  | due (now : Instant) (wall : Moment) (desk : Desk)
  | cancelled (now : Instant) (desk : Desk)
  | givenUp (now : Instant) (desk : Desk)

namespace Leg

def desk : Leg → Desk
  | due _ _ d | cancelled _ d | givenUp _ d => d

/-- What a leg is for a call. One that was to be cancelled until then is cancelled, at the instant that was set. -/
def move (peers : Peers) (p : Pending) : Leg → Move
  | due now wall _ =>
    match p.stop with
    | some c => if c ≤ now then .cancel c else .proceed peers now wall
    | none => .proceed peers now wall
  | cancelled now _ => .cancel now
  | givenUp now _ => .abandon now

def run (peers : Peers) (p : Pending) (leg : Leg) : Progress × Desk := (leg.move peers p).apply p leg.desk

theorem run_due (peers : Peers) (wall : Moment) (due : Instant) (p : Pending) (d : Desk) :
    (Leg.due due wall d).run peers p = await.go peers wall (p.next due) p d := by
  obtain ⟨frames, context, tokens, stop, wait⟩ := p
  rcases stop with _ | c
  · rfl
  by_cases hc : c ≤ due
  · simp only [run, move, await.go, Pending.next, hc, if_true]
    rfl
  · have hne : ¬c = due := fun heq => hc (Nat.le_of_eq heq)
    simp only [run, move, await.go, Pending.next, hc, if_false, Option.some.injEq, hne]
    rfl

/-- In a leg a call goes on before the instant at which it is to be cancelled, or it asks for nothing and never will. -/
theorem proceeds_or_rests (peers : Peers) (p : Pending) (leg : Leg) :
    (∃ now wall, leg.move peers p = .proceed peers now wall ∧ ∀ c, p.stop = some c → now < c) ∨
      (leg.run peers p).2.stage.journal.requests = leg.desk.stage.journal.requests ∧ (leg.run peers p).1.unasked = [] := by
  cases leg with
  | due now wall d =>
    rcases hstop : p.stop with _ | c
    · exact .inl ⟨now, wall, by rw [move, hstop], by simp⟩
    by_cases hc : c ≤ now
    · have hmove : (Leg.due now wall d).move peers p = .cancel c := by simp only [move, hstop, hc, if_true]
      rw [run, hmove]
      exact .inr ⟨requests_cancel .., unasked_cancel ..⟩
    · refine .inl ⟨now, wall, by simp only [move, hstop, hc, if_false], ?_⟩
      rintro _ ⟨⟩
      exact Nat.lt_of_not_le hc
  | cancelled now d => exact .inr ⟨requests_cancel .., unasked_cancel ..⟩
  | givenUp now d => exact .inr ⟨requests_abandon .., rfl⟩

/-- In each leg a call sends requests that were left until then. -/
theorem sends_run {peers : Peers} (h : peers.Careful) (p : Pending) (leg : Leg) :
    Peer.Sends (leg.move peers p).now p.wait.unasked leg.desk.stage (leg.run peers p).2.stage (leg.run peers p).1.unasked := by
  rcases leg.proceeds_or_rests peers p with ⟨now, wall, hmove, -⟩ | ⟨hsame, hnone⟩
  · simp only [run, hmove, Move.apply, Move.now, proceed, unasked_settle]
    exact (sends_resume p.stop now wall p.tokens leg.desk h p.wait).of_eq (requests_settle ..)
  · rw [hnone]
    exact .nothing hsame (List.nil_sublist _)

end Leg

/-! ## Requests with their instants -/

/-- A request that a call sent: when, under which method, for which id, and on behalf of which request. -/
structure Sent where
  now : Instant
  method : String
  id : String
  requestId : Option String
  deriving DecidableEq, Repr

def Sent.entry (r : Sent) : String × String × Option String := (r.method, r.id, r.requestId)

/-- The requests that a leg adds to the journal of a desk. -/
def sentSince (now : Instant) (d d' : Desk) : List Sent :=
  (d'.stage.journal.requests.drop d.stage.journal.requests.length).map fun (method, id, requestId) => ⟨now, method, id, requestId⟩

/-- The requests of a call in its later legs. -/
def sentBy (peers : Peers) : Progress → List Leg → List Sent
  | .waiting p, leg :: legs =>
    sentSince (leg.move peers p).now leg.desk (leg.run peers p).2 ++ sentBy peers (leg.run peers p).1 legs
  | _, _ => []

theorem now_of_mem_sentSince {now : Instant} {d d' : Desk} {r : Sent} (hr : r ∈ sentSince now d d') : r.now = now := by
  obtain ⟨entry, -, rfl⟩ := List.mem_map.mp hr
  rfl

theorem entry_sentSince (now : Instant) (d d' : Desk) :
    (sentSince now d d').map Sent.entry = d'.stage.journal.requests.drop d.stage.journal.requests.length := by
  rw [sentSince, List.map_map]
  exact List.map_id _

section Sends

variable {now : Instant} {before left : List Peer.Question} {d d' : Desk}

theorem requests_grow (h : Peer.Sends now before d.stage d'.stage left) :
    d.stage.journal.requests <+: d'.stage.journal.requests := by
  obtain ⟨asked, -, hsent, -⟩ := h
  exact ⟨_, hsent.symm⟩

theorem entry_sends (h : Peer.Sends now before d.stage d'.stage left) :
    ((sentSince now d d').map Sent.entry ++ left.map Peer.Question.entry).Sublist (before.map Peer.Question.entry) := by
  obtain ⟨asked, hsub, hsent, -⟩ := h
  rw [entry_sentSince, hsent, List.drop_left, ← List.map_append]
  exact hsub.map _

theorem lt_deadline_of_mem (h : Peer.Sends now before d.stage d'.stage left) {deadline : Instant}
    (hbefore : ∀ q ∈ before, q.unit.context.deadline = deadline) {r : Sent} (hr : r ∈ sentSince now d d') :
    r.now < deadline := by
  obtain ⟨asked, hsub, hsent, htime⟩ := h
  rw [now_of_mem_sentSince hr]
  rw [sentSince, hsent, List.drop_left, List.map_map] at hr
  obtain ⟨q, hq, -⟩ := List.mem_map.mp hr
  exact hbefore q (hsub.subset (List.mem_append_left left hq)) ▸ htime q hq

theorem sentSince_eq_nil (h : Peer.Sends now [] d.stage d'.stage left) : sentSince now d d' = [] := by
  have hentries := List.sublist_nil.mp (entry_sends h)
  exact List.map_eq_nil_iff.mp (List.append_eq_nil_iff.mp hentries).1

theorem unasked_of_sends {q : Peer.Question} (h : Peer.Sends now before d.stage d'.stage left) (hq : q ∈ left) : q ∈ before := by
  obtain ⟨asked, hsub, -⟩ := h
  exact hsub.subset (List.mem_append_right asked hq)

end Sends

/-! ## All legs of a call -/

/-- What a call has left to ask for is due to the same deadline, and before the same cancellation if it has something left. -/
structure Progress.Bound (deadline : Instant) (stop : Option Instant) (p : Progress) : Prop where
  deadline : ∀ q ∈ p.unasked, q.unit.context.deadline = deadline
  stop : ∀ w, p = .waiting w → w.stop = stop ∨ w.wait.unasked = []

theorem stop_settle {now : Instant} {frames : List Frame} {context : Context} {stop : Option Instant} {r : Turn × Tokens × Desk}
    {w : Pending} (h : (settle now frames context stop r).1 = .waiting w) : w.stop = stop := by
  obtain ⟨⟨ending, left⟩ | wait, ts, d⟩ := r
  · cases h
  · cases h
    rfl

section Run

variable {peers : Peers} {deadline : Instant} {stop : Option Instant}

/-- A call that has nothing left to ask for may be followed as long as one likes. -/
theorem Progress.Bound.of_unasked {p : Progress} (h : p.unasked = []) : p.Bound deadline stop where
  deadline := by simp [h]
  stop := by
    rintro w rfl
    exact .inr h

theorem Progress.Bound.run {p : Pending} (h : peers.Careful) (hp : (Progress.waiting p).Bound deadline stop) (leg : Leg) :
    (leg.run peers p).1.Bound deadline stop := by
  rcases leg.proceeds_or_rests peers p with ⟨now, wall, hmove, -⟩ | ⟨-, hnone⟩
  · refine ⟨fun q hq => hp.deadline q (unasked_of_sends (leg.sends_run h p) hq), fun w hw => ?_⟩
    rw [Leg.run, hmove] at hw
    rcases hp.stop p rfl with hstop | hnone
    · exact .inl ((stop_settle hw).trans hstop)
    · have hleft := leg.sends_run h p
      rw [hnone, Leg.run, hmove, hw] at hleft
      exact .inr (List.eq_nil_iff_forall_not_mem.mpr fun q hq => absurd (unasked_of_sends hleft hq) List.not_mem_nil)
  · exact .of_unasked hnone

theorem in_time_of_mem_sentBy (h : peers.Careful) (legs : List Leg) {p : Progress} (hp : p.Bound deadline stop) {r : Sent}
    (hr : r ∈ sentBy peers p legs) : r.now < deadline ∧ ∀ c, stop = some c → r.now < c := by
  induction legs generalizing p with
  | nil => cases p <;> cases hr
  | cons leg legs ih =>
    cases p with
    | ended ending => cases hr
    | waiting p =>
      rcases List.mem_append.mp hr with hnow | hlater
      · have hsends := leg.sends_run h p
        refine ⟨lt_deadline_of_mem hsends hp.deadline hnow, fun c hc => ?_⟩
        rcases hp.stop p rfl with hstop | hnone
        · rcases leg.proceeds_or_rests peers p with ⟨now, wall, hmove, hbefore⟩ | ⟨hsame, -⟩
          · rw [now_of_mem_sentSince hnow, hmove]
            exact hbefore c (hstop.trans hc)
          · rw [sentSince, hsame, List.drop_length] at hnow
            cases hnow
        · rw [show p.wait.unasked = [] from hnone] at hsends
          rw [sentSince_eq_nil hsends] at hnow
          cases hnow
      · exact ih (hp.run h leg) hlater

/-- Over all its legs a call sends some of the requests that it had left, in their order and each of them once at most. -/
theorem entry_sentBy (h : peers.Careful) (legs : List Leg) (p : Progress) :
    ((sentBy peers p legs).map Sent.entry).Sublist (p.unasked.map Peer.Question.entry) := by
  induction legs generalizing p with
  | nil => cases p <;> exact List.nil_sublist _
  | cons leg legs ih =>
    cases p with
    | ended ending => exact List.nil_sublist _
    | waiting p =>
      rw [sentBy, List.map_append]
      exact ((List.Sublist.refl _).append (ih _)).trans (entry_sends (leg.sends_run h p))

theorem sentBy_eq_nil (h : peers.Careful) (legs : List Leg) {p : Progress} (hp : p.unasked = []) : sentBy peers p legs = [] := by
  have hentries := entry_sentBy h legs p
  rw [hp] at hentries
  exact List.map_eq_nil_iff.mp (List.sublist_nil.mp hentries)

theorem sentBy_append_cancelled (h : peers.Careful) (before after : List Leg) (now : Instant) (d : Desk) (p : Progress) :
    sentBy peers p (before ++ .cancelled now d :: after) = sentBy peers p before := by
  induction before generalizing p with
  | nil =>
    cases p with
    | ended ending => rfl
    | waiting p =>
      have hrest : sentBy peers ((Leg.cancelled now d).run peers p).1 after = [] := sentBy_eq_nil h after (unasked_cancel now p d)
      rw [List.nil_append, sentBy, hrest, List.append_nil, sentSince]
      simp [Leg.run, Leg.move, Leg.desk, Move.apply, requests_cancel, sentBy]
  | cons leg before ih =>
    cases p with
    | ended ending => rfl
    | waiting p => exact congrArg (_ ++ ·) (ih _)

/-- A call that is awaited goes on in legs, and the requests of these are all that it adds to the journal. -/
theorem requests_await (h : peers.Careful) (wall : Moment) (limit : Option Instant) (fuel : Nat) (now : Instant) (r : Progress × Desk) :
    ∃ legs, (await peers wall limit fuel now r).desk.stage.journal.requests =
      r.2.stage.journal.requests ++ (sentBy peers r.1 legs).map Sent.entry := by
  induction fuel generalizing now r with
  | zero =>
    obtain ⟨ending | p, d⟩ := r
    · exact ⟨[], (List.append_nil _).symm⟩
    · exact ⟨[], (requests_abandon now p d).trans (List.append_nil _).symm⟩
  | succ fuel ih =>
    obtain ⟨ending | p, d⟩ := r
    · exact ⟨[], (List.append_nil _).symm⟩
    -- The next leg is the one that is due, and the legs after it are those of the rest of the wait.
    let due := p.wait.due?.getD now
    obtain ⟨legs, hlegs⟩ := ih (p.next due) ((Leg.due due wall d).run peers p)
    have hleg := List.prefix_iff_eq_append.mp (requests_grow ((Leg.due due wall d).sends_run h p))
    have hgoes : (await peers wall limit fuel (p.next due) (await.go peers wall (p.next due) p d)).desk.stage.journal.requests =
        d.stage.journal.requests ++ (sentBy peers (.waiting p) (.due due wall d :: legs)).map Sent.entry := by
      rw [sentBy, List.map_append, entry_sentSince, ← List.append_assoc, ← Leg.run_due, hlegs]
      exact congrArg (· ++ _) hleg.symm
    cases limit with
    | none => exact ⟨_, hgoes⟩
    | some l =>
      by_cases hl : l < p.next due
      · refine ⟨[], ?_⟩
        have hgiven : await peers wall (some l) (fuel + 1) now (.waiting p, d) = ⟨.dropped, l, abandon l p d⟩ := if_pos hl
        rw [hgiven]
        exact (requests_abandon l p d).trans (List.append_nil _).symm
      · have hon : await peers wall (some l) (fuel + 1) now (.waiting p, d) =
            await peers wall (some l) fuel (p.next due) (await.go peers wall (p.next due) p d) := if_neg hl
        rw [hon]
        exact ⟨_, hgoes⟩

end Run

/-! ## A whole call -/

section Calls

variable {context : Context} {ts : Tokens} {link : Option Peer.Link} {step : Service.Step}

/-- What a call may ask for goes under the method of its link and under the id of its request, and is due to its deadline. -/
theorem mem_questions {q : Peer.Question} (hq : q ∈ Link.questions link context ts step) :
    link.map (·.endpoint.method) = some q.method ∧ q.unit.context.requestId = context.requestId ∧
      q.unit.context.deadline = context.deadline := by
  unfold Link.questions at hq
  split at hq
  case h_1 => cases hq
  case h_2 l =>
    split at hq
    case isTrue => cases hq
    case isFalse =>
      obtain ⟨u, hu, rfl⟩ := List.mem_map.mp hq
      obtain ⟨hdeadline, hid⟩ := context_unitsFor hu
      exact ⟨rfl, hid, hdeadline⟩

theorem id_questions : ((Link.questions link context ts step).map fun q => q.unit.id).Sublist step.wanted := by
  unfold Link.questions
  split
  case h_1 => exact List.nil_sublist _
  case h_2 l =>
    split
    case isTrue => exact List.nil_sublist _
    case isFalse =>
      rw [List.map_map, ← id_unitsFor context ts step]
      exact List.Sublist.refl _

theorem questions_of_isCancelled (h : ts.isCancelled context.token = true) : Link.questions link context ts step = [] := by
  unfold Link.questions
  split
  case h_1 => rfl
  case h_2 => exact if_pos h

end Calls

section Start

variable {peers : Peers} (stop : Option Instant) (now : Instant) (wall : Moment) (context : Context) (ts : Tokens) (op : Operation)
  (d : Desk)

theorem stop_start {w : Pending} (h : (start peers stop now wall context ts op d).1 = .waiting w) : w.stop = stop := by
  unfold start at h
  split at h
  case h_1 => cases h
  case h_2 =>
    split at h
    case h_1 => cases h
    case h_2 => exact stop_settle h

/-- The first leg of a call, with or without a chain. -/
theorem begins (h : peers.Careful) {first : Progress × Desk}
    (hfirst : first ∈ [start peers stop now wall context ts op d, startDirect peers stop now wall context ts op d]) :
    Peer.Sends now
      (Link.questions d.link context ts (Service.handle d.kind d.link.isSome wall context.method op d.backend).1) d.stage
      first.2.stage first.1.unasked ∧ first.1.Bound context.deadline stop := by
  obtain ⟨hsends, hstop⟩ : Peer.Sends now
      (Link.questions d.link context ts (Service.handle d.kind d.link.isSome wall context.method op d.backend).1) d.stage
      first.2.stage first.1.unasked ∧ ∀ w, first.1 = .waiting w → w.stop = stop := by
    rcases List.mem_pair.mp hfirst with rfl | rfl
    · exact ⟨sends_start stop now wall ts d h context op, fun w hw => stop_start _ _ _ _ _ _ _ hw⟩
    · exact ⟨sends_startDirect stop now wall ts d h context op, fun w hw => stop_settle hw⟩
  exact ⟨hsends, fun q hq => (mem_questions (unasked_of_sends hsends hq)).2.2, fun w hw => .inl (hstop w hw)⟩

end Start

/-! ## What goes out for a call -/

/-- The requests that a call may make: for what its operation needs, once at most and in order, under the method of the link and the
id of the request that came in, in time, and none at all for a caller that was cancelled before. -/
structure Modest (d : Desk) (op : Operation) (context : Context) (ts : Tokens) (stop : Option Instant) (now : Instant)
    (sent : List Sent) : Prop where
  wanted : ∃ wanted, Service.Wants d.backend d.kind op wanted ∧ (sent.map Sent.id).Sublist wanted
  marked : ∀ r ∈ sent, d.link.map (·.endpoint.method) = some r.method ∧ r.requestId = context.requestId
  inTime : ∀ r ∈ sent, r.now < context.deadline ∧ ∀ c ∈ stop, now < c → r.now < c
  alive : ts.isCancelled context.token = true → sent = []

/-- The books on the requests of a call: its legs add to the journal, a cancelled call adds nothing more, and a call that is awaited adds
what some legs add. -/
structure Booked (peers : Peers) (wall : Moment) (now : Instant) (d : Desk) (first : Progress × Desk) (legs : List Leg) : Prop where
  begins : d.stage.journal.requests <+: first.2.stage.journal.requests
  goesOn (p : Pending) (leg : Leg) : leg.desk.stage.journal.requests <+: (leg.run peers p).2.stage.journal.requests
  stops : ∀ before after t e, legs = before ++ .cancelled t e :: after →
    sentBy peers first.1 legs = sentBy peers first.1 before
  awaited (limit : Option Instant) : ∃ legs, (finish peers wall limit now first).desk.stage.journal.requests =
    first.2.stage.journal.requests ++ (sentBy peers first.1 legs).map Sent.entry

section Whole

variable {peers : Peers} {stop : Option Instant} {now : Instant} {wall : Moment} {context : Context} {ts : Tokens} {op : Operation}
  {d : Desk} {first : Progress × Desk}

theorem modest_sent (h : peers.Careful)
    (hfirst : first ∈ [start peers stop now wall context ts op d, startDirect peers stop now wall context ts op d])
    (legs : List Leg) : Modest d op context ts stop now (sentSince now d first.2 ++ sentBy peers first.1 legs) := by
  obtain ⟨hsends, hbound⟩ := begins stop now wall context ts op d h hfirst
  have hentries : ((sentSince now d first.2 ++ sentBy peers first.1 legs).map Sent.entry).Sublist
      ((Link.questions d.link context ts
        (Service.handle d.kind d.link.isSome wall context.method op d.backend).1).map Peer.Question.entry) := by
    rw [List.map_append]
    exact ((List.Sublist.refl _).append (entry_sentBy h legs first.1)).trans (entry_sends hsends)
  refine ⟨⟨_, Service.wants_handle op d.link.isSome wall context.method d.kind, ?_⟩, fun r hr => ?_, fun r hr => ?_,
    fun hcancelled => ?_⟩
  · have hids := hentries.map fun entry : String × String × Option String => entry.2.1
    rw [List.map_map, List.map_map] at hids
    exact hids.trans id_questions
  · obtain ⟨q, hq, hentry⟩ := List.mem_map.mp (hentries.subset (List.mem_map_of_mem hr))
    obtain ⟨hmethod, hid, -⟩ := mem_questions hq
    obtain ⟨heq, -, heqid⟩ : q.method = r.method ∧ q.unit.id = r.id ∧ q.unit.context.requestId = r.requestId := by
      simpa [Peer.Question.entry, Sent.entry] using hentry
    exact ⟨heq ▸ hmethod, heqid ▸ hid⟩
  · rcases List.mem_append.mp hr with hnow | hlater
    · refine ⟨lt_deadline_of_mem hsends (fun q hq => (mem_questions hq).2.2) hnow, fun c _ hc => ?_⟩
      rwa [now_of_mem_sentSince hnow]
    · obtain ⟨htime, hstop⟩ := in_time_of_mem_sentBy h legs hbound hlater
      exact ⟨htime, fun c hc _ => hstop c hc⟩
  · rw [questions_of_isCancelled hcancelled] at hentries
    exact List.map_eq_nil_iff.mp (List.sublist_nil.mp hentries)

theorem booked_sent (h : peers.Careful)
    (hfirst : first ∈ [start peers stop now wall context ts op d, startDirect peers stop now wall context ts op d])
    (legs : List Leg) : Booked peers wall now d first legs where
  begins := requests_grow (begins stop now wall context ts op d h hfirst).1
  goesOn p leg := requests_grow (leg.sends_run h p)
  stops := by
    rintro before after t e rfl
    exact sentBy_append_cancelled h before after t e first.1
  awaited limit := requests_await h wall limit _ now first

end Whole

/-- A call asks the peer only for what it needs, and for none of it twice. Of the three operations that need something, and of no other,
requests go out; their ids are some of those that are needed, in their order. Each goes out under the method of the link and under the id
of the request that came in, before its deadline and before its cancellation, whatever the peer does, whatever becomes of the call, and
whatever others do to the desk while it waits. A request that goes out begins at the address of its id. It goes on only to where an answer
sends it, ten times at most, and is over with the first answer that sends it nowhere and with everything that goes wrong. -/
theorem sent_wanted (network : Peer.Network) (sibling : Option Peer.Destination) (stop : Option Instant) (now : Instant)
    (wall : Moment) (context : Context) (ts : Tokens) (op : Operation) (d : Desk) (legs : List Leg) :
    let peers := Peers.across network sibling
    ∀ first ∈ [start peers stop now wall context ts op d, startDirect peers stop now wall context ts op d],
      let sent := sentSince now d first.2 ++ sentBy peers first.1 legs
      Modest d op context ts stop now sent ∧ Booked peers wall now d first legs ∧
        ∀ r ∈ sent, ∀ (e : Peer.Endpoint), ∀ destination ∈ sibling, ∀ (ts : Tokens) (unit : Context),
          unit.requestId = r.requestId → unit.deadline = context.deadline →
            Peer.GoesOut network e destination r.now stop ts unit r.id := by
  intro peers first hfirst sent
  have h : peers.Careful := Peers.careful_across network sibling
  exact ⟨modest_sent h hfirst legs, booked_sent h hfirst legs, fun r _ e destination _ ts unit _ _ => Peer.goes_out ..⟩

theorem asks_thriceEnrolled : ∃ student, Asks thriceEnrolled ⟨Peer.courseEndpoint, 0, 0⟩ "1" student retakenRows := by
  have hrows : thriceEnrolled.backend.store.enrollmentsOf 1 Service.relationPage = retakenRows := by
    rw [Store.enrollmentsOf_relationPage, show thriceEnrolled.backend.store = retakenRecords from rfl, everyEnrollmentOf_retaken]
    rfl
  exact ⟨_, rfl, rfl, rfl, congrArg Except.ok hrows⟩

/-- Two of three courses are asked for at once, and the third when one of these is there. Then nothing is left to ask for. -/
theorem sent_wanted_thriceEnrolled :
    let peers := Peers.across twoCoursesNetwork (some Peer.courseDestination)
    let context : Context := .opened 1 "students" "get_student_courses" 0 10 (some "r-1")
    let first := startDirect peers none 0 schoolStart context .fresh (.getStudentCourses "1") thriceEnrolled
    let sent := sentSince 0 thriceEnrolled first.2 ++ sentBy peers first.1 [.due 2 schoolStart first.2, .due 5 schoolStart first.2]
    sent.map (fun r => (r.now, r.id)) = [(0, "7"), (0, "8"), (2, "7")] ∧
      ∃ wanted, Service.Wants thriceEnrolled.backend .students (.getStudentCourses "1") wanted ∧
        (sent.map Sent.id).Sublist wanted := by
  intro peers context first sent
  obtain ⟨student, hasks⟩ := asks_thriceEnrolled
  have hfirst : first = settle 0 [] context none (gather peers none 0 ⟨Peer.courseEndpoint, 0, 0⟩
      (Job.create context "1" (courseIds retakenRows) 2 .fresh).1 (tokensOf context (courseIds retakenRows) .fresh)
      thriceEnrolled) :=
    congrArg (settle 0 [] context none)
      (hasks.perform (by decide) (by decide) (by decide) (by decide) peers 0 schoolStart)
  refine ⟨?_, (sent_wanted twoCoursesNetwork (some Peer.courseDestination) none 0 schoolStart context .fresh
    (.getStudentCourses "1") thriceEnrolled [.due 2 schoolStart first.2, .due 5 schoolStart first.2] first
    (List.mem_cons_of_mem _ (List.mem_singleton_self _))).1.wanted⟩
  simp only [sent, hfirst]
  decide +kernel

def courseUrl (id : String) : Option Url := (Peer.courseDestination.path.resolve Peer.courseDestination.base id).toOption

/-- A network on which the first of the two courses has moved to the place of the second. -/
def movedNetwork : Peer.Network := fun now out =>
  if courseUrl "7" = some out.url then .answered 1 302 (courseUrl "8") [] else twoCoursesNetwork now out

/-- One enrollment in a course that has moved sends two requests to the peer, and the second is for another course. -/
theorem enrollStudent_asks_twice :
    let peers := Peers.across movedNetwork (some Peer.courseDestination)
    let context : Context := .opened 1 "students" "enroll_student" 0 10 (some "r-1")
    let first := startDirect peers none 0 schoolStart context .fresh (.enrollStudent "1" ⟨7⟩) thriceEnrolled
    let requests := (sentSince 0 thriceEnrolled first.2).flatMap fun r =>
      Peer.requests movedNetwork Peer.courseEndpoint Peer.courseDestination r.now none .fresh context r.id
    Service.Wants thriceEnrolled.backend .students (.enrollStudent "1" ⟨7⟩) ["7"] ∧
      requests.map (fun r => (r.1, some r.2.url)) = [(0, courseUrl "7"), (1, courseUrl "8")] ∧ courseUrl "7" ≠ courseUrl "8" ∧
      ¬requests.length ≤ 1 := by
  intro peers context first requests
  have hrequests : requests.map (fun r => (r.1, some r.2.url)) = [(0, courseUrl "7"), (1, courseUrl "8")] := by decide +kernel
  have hrow : thriceEnrolled.backend.student? 1 = .ok (some ⟨1, "Ada", ⟨2011, 8, 30, by decide⟩, 5, 87000000001⟩) := rfl
  have hwants : Service.Wants thriceEnrolled.backend .students (.enrollStudent "1" ⟨7⟩) ["7"] :=
    .confirmation (by decide +kernel : parseIdentifier "1" = .ok 1) hrow (by decide)
  refine ⟨hwants, hrequests, by decide +kernel, ?_⟩
  have htwo := congrArg List.length hrequests
  rw [List.length_map] at htwo
  simp [htwo]

end Campus.Desk
