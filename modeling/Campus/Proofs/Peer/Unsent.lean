import Campus.Proofs.Breaker.Permits
import Campus.Proofs.Peer.Answers
import Campus.Proofs.Peer.Link

/-! # Requests that are not sent

A call to a peer may end before anything is sent: it is turned away in front of the transport, or the transport gives it up.
What it then does to the breaker is decided by its fault alone. Where it is turned away, or its caller was cancelled, the
breaker is left as it was, also when it had cooled down and gave the call its probe. A call whose deadline has passed ends in a
timeout like one that was sent, and is counted against a peer that has not heard of it.
-/
namespace Campus

open Pipeline

namespace Breaker

/-- A breaker after one more counted failure, of a call that it lets through now. -/
def struck (b : Breaker) (now : Instant) : Breaker :=
  if b.phase = .closed then (b.settle now false true).1 else b.reopened now

theorem failures_struck (b : Breaker) (now : Instant) : (b.struck now).failures = oneMore b.failures := by
  by_cases hp : b.phase = .closed
  · by_cases ht : b.settings.threshold ≤ oneMore b.failures
    · simp [struck, hp, settle_plain_trips hp ht]
    · simp [struck, hp, settle_plain_counts hp ht]
  · simp [struck, hp, reopened]

/-- A call that is let through and fails at once is counted, or leaves the breaker as it was. -/
theorem record_acquired {b : Breaker} {now : Instant} {n : Nat} (h : b.Consistent now n) {p : Permit}
    (ha : (b.acquire now).1 = some p) (fault : Fault) :
    ((b.acquire now).2.1.record now p (some fault)).1 = if b.counts fault then b.struck now else b := by
  cases hp : b.phase with
  | closed =>
    rw [acquire_closed hp] at ha ⊢
    obtain rfl : ⟨false⟩ = p := by simpa using ha
    by_cases hc : b.counts fault = true
    · simp [record, hc, struck, hp]
    · simp [record, hc]
  | opened =>
    by_cases hcool : b.isCooled now = true
    · rw [acquire_cooled hp hcool] at ha ⊢
      obtain rfl : ⟨true⟩ = p := by simpa using ha
      by_cases hc : b.counts fault = true
      · simp [record, hc, struck, hp, settle_probe_failed, reopened, probed]
      · have hcounts : ¬ b.probed.counts fault = true := hc
        -- The place of the probe is given back, and the breaker is open since the same instant.
        have hidle : b.probing = false := h.probing_eq_false (by simp [hp])
        have hrelease : b.probed.release.1 = b := by
          obtain ⟨name, settings, counts, phase, failures, openedAt, probing⟩ := b
          simp_all [release, probed]
        simp [record, hcounts, hc, hrelease]
    · rw [acquire_cooling hp (by simpa using hcool)] at ha
      simp at ha
  | halfOpen =>
    rw [acquire_probing hp (h.halfOpen_iff.mp hp)] at ha
    simp at ha

end Breaker

namespace Peer

/-! ## What the transport gives up -/

/-- Why a request to a peer is not sent, and the fault of its caller. -/
inductive Withheld (e : Endpoint) (d : Destination) (ts : Tokens) (now : Instant) (context : Context) (id : String) :
    Fault → Prop
  /-- The address of the peer takes no path. -/
  | unaddressed {fault : Fault} (haddress : d.path.resolve d.base id = .error fault) : Withheld e d ts now context id fault
  | cancelled {url : Url} (haddress : d.path.resolve d.base id = .ok url) (htoken : ts.isCancelled context.token = true) :
    Withheld e d ts now context id .cancelled
  | expired {url : Url} (haddress : d.path.resolve d.base id = .ok url) (htoken : ts.isCancelled context.token = false)
      (htime : context.isExpired now = true) : Withheld e d ts now context id (.remoteTimeout e.dependency 0)
  /-- No request can be made out. -/
  | unbuilt {url : Url} {reason : String} (haddress : d.path.resolve d.base id = .ok url)
      (htoken : ts.isCancelled context.token = false) (htime : context.isExpired now = false) :
    Withheld e d ts now context id (.remoteUnavailable e.dependency reason)

section Exchange

variable {α : Type} {l : Link} {d : Destination} {stop : Option Instant} {ts : Tokens} {now : Instant} {context : Context}
  {id : String}

theorem withheld_of_prepare {e : Endpoint} {fault : Fault} (h : prepare e d ts now context id = .error fault) :
    Withheld e d ts now context id fault := by
  cases prepares_iff.mpr h with
  | unaddressed haddress => exact .unaddressed haddress
  | cancelled haddress htoken => exact .cancelled haddress htoken
  | expired haddress htoken htime => exact .expired haddress htoken (Context.isExpired_iff.mpr htime)
  -- What is wrong with the request itself, its header or its address, shows in the reason alone.
  | unheaded haddress htoken htime hheader => exact .unbuilt haddress htoken (Context.isExpired_eq_false htime)
  | unsendable haddress htoken htime hheader hsendable => exact .unbuilt haddress htoken (Context.isExpired_eq_false htime)

/-- A request that an exchange does not send ends at once, with the fault of what withheld it. -/
theorem exchange_of_unsent [Wire α] {network : Network} {e : Endpoint}
    (h : (exchange network e d now stop ts context id : Attempt α).sent = false) :
    ∃ fault, (exchange network e d now stop ts context id : Attempt α) = unsent fault ∧
      Withheld e d ts now context id fault := by
  unfold exchange at h ⊢
  cases hprepare : prepare e d ts now context id with
  | error fault => exact ⟨fault, rfl, withheld_of_prepare hprepare⟩
  | ok out =>
    rw [hprepare] at h
    dsimp only at h
    rw [sent_race] at h
    cases h

end Exchange

/-! ## What a call that is not sent does to its breaker -/

/-- How a call ends for which nothing is sent, and what is in its bucket and its breaker then. -/
inductive Unsent (l : Link) (d : Destination) (ts : Tokens) (now : Instant) (context : Context) (id : String)
    (bucket : Bucket Float) (breaker : Breaker) : Fault → Bucket Float → Breaker → Prop
  | unnamed (hid : id = "") :
    Unsent l d ts now context id bucket breaker (.validation s!"empty identifier for {l.endpoint.method}") bucket breaker
  | throttled {bucket' : Bucket Float} (hid : id ≠ "") (ht : bucket.take now = (false, bucket')) :
    Unsent l d ts now context id bucket breaker (.throttled l.endpoint.method) bucket' breaker
  | rejected {bucket' : Bucket Float} (hid : id ≠ "") (ht : bucket.take now = (true, bucket'))
      (ha : (breaker.acquire now).1 = none) :
    Unsent l d ts now context id bucket breaker (.circuitOpen breaker.name) bucket' breaker
  | spared {bucket' : Bucket Float} {fault : Fault} (hid : id ≠ "") (ht : bucket.take now = (true, bucket'))
      (ha : (breaker.acquire now).1 ≠ none) (hwithheld : Withheld l.endpoint d ts now context id fault)
      (hfault : fault.isDependencyFailure = false) : Unsent l d ts now context id bucket breaker fault bucket' breaker
  | struck {bucket' : Bucket Float} {fault : Fault} (hid : id ≠ "") (ht : bucket.take now = (true, bucket'))
      (ha : (breaker.acquire now).1 ≠ none) (hwithheld : Withheld l.endpoint d ts now context id fault)
      (hfault : fault.isDependencyFailure = true) :
    Unsent l d ts now context id bucket breaker fault bucket' (breaker.struck now)

theorem Unsent.same_or_struck {l : Link} {d : Destination} {ts : Tokens} {now : Instant} {context : Context} {id : String}
    {bucket bucket' : Bucket Float} {breaker breaker' : Breaker} {fault : Fault}
    (h : Unsent l d ts now context id bucket breaker fault bucket' breaker') :
    breaker' = breaker ∨ fault.isDependencyFailure = true ∧ breaker'.failures = Breaker.oneMore breaker.failures := by
  cases h with
  | unnamed hid => exact .inl rfl
  | throttled hid ht => exact .inl rfl
  | rejected hid ht ha => exact .inl rfl
  | spared hid ht ha hwithheld hfault => exact .inl rfl
  | struck hid ht ha hwithheld hfault => exact .inr ⟨hfault, breaker.failures_struck now⟩

theorem Withheld.of_forMethod {e : Endpoint} {d : Destination} {ts : Tokens} {now : Instant} {context : Context} {id : String}
    {fault : Fault} {method : String} (h : Withheld e d ts now (context.forMethod method) id fault) :
    Withheld e d ts now context id fault := by
  cases h with
  | unaddressed haddress => exact .unaddressed haddress
  | cancelled haddress htoken => exact .cancelled haddress htoken
  | expired haddress htoken htime => exact .expired haddress htoken htime
  | unbuilt haddress htoken htime => exact .unbuilt haddress htoken htime

section Calls

variable {α : Type} [Summarize α] {l : Link} {transport : Transport α} {stop : Option Instant} {ts : Tokens} {now : Instant}
  {context : Context} {id : String} {s s' : Stage} {bucket bucket' : Bucket Float} {breaker : Breaker} {p : Permit}

/-- A call that was let through and whose request the transport gives up. -/
theorem call_withheld (h : l.Guards s bucket breaker) {n : Nat} (hc : breaker.Consistent now n) (hid : id ≠ "")
    (ht : bucket.take now = (true, bucket')) (ha : (breaker.acquire now).1 = some p) {fault : Fault}
    (hattempt : transport now stop ts (context.forMethod l.endpoint.method) id = unsent fault) :
    ∃ s', call l transport stop ts now context id s = (.returned (.error fault), now, s') ∧
      l.Guards s' bucket' (if breaker.counts fault then breaker.struck now else breaker) := by
  have hacquire : breaker.acquire now = (some p, (breaker.acquire now).2.1, (breaker.acquire now).2.2) := Prod.ext ha rfl
  obtain ⟨s', hstart, hguards, -⟩ := startCall_admitted h ht hacquire (l.call id)
  simp only [Link.call] at hstart
  refine ⟨leave now (.failed fault) (l.frames (l.call id) p now) s', ?_, ?_⟩
  · simp [call, start, hid, hstart, hattempt, unsent, Ending.verdict, Link.call]
  · rw [← Breaker.record_acquired hc ha fault]
    exact hguards.leave (l.call id) p now (.failed fault)

theorem requests_call_sent (hid : id ≠ "") {frames : List Frame}
    (hstart : startCall now (l.call id) l.chain s = (.ok frames, s'))
    (hsent : (transport now stop ts (context.forMethod l.endpoint.method) id).sent = true) :
    (call l transport stop ts now context id s).2.2.journal.requests =
      s'.journal.requests ++ [(l.endpoint.method, id, context.requestId)] := by
  simp only [Link.call] at hstart
  by_cases hdelay : (transport now stop ts (context.forMethod l.endpoint.method) id).delay = 0
  · simp [call, start, hid, hstart, hsent, hdelay, requests_leave]
    rfl
  · simp [call, start, hid, hstart, hsent, hdelay, finish, requests_leave]
    rfl

end Calls

/-- In every state that a bucket and a breaker can be in, a call for which nothing is sent ends at once with a fault. The
breaker is left as it was when the call was turned away or its caller was cancelled. It counts the call that was let through
without the time for a request, which the peer has not seen. -/
theorem call_unsent {α : Type} [Summarize α] [Wire α] (name : String) (settings : BreakerSettings)
    (history : List Breaker.Event) (l : Link) (network : Network) (d : Destination) (stop : Option Instant) (ts : Tokens)
    (context : Context) (id : String) (s : Stage) (bucket : Bucket Float) (ending : Ending α) (t : Instant) (s' : Stage) :
    let r := (Breaker.Run.fresh (.fresh name settings Fault.isDependencyFailure)).after history
    l.Guards s bucket r.breaker →
      call l (exchange network l.endpoint d) stop ts r.now context id s = (ending, t, s') →
        s'.journal.requests = s.journal.requests →
          ∃ fault bucket' breaker', ending = .returned (.error fault) ∧ t = r.now ∧ l.Guards s' bucket' breaker' ∧
            Unsent l d ts r.now context id bucket r.breaker fault bucket' breaker' ∧
            (breaker' = r.breaker ∨
              fault.isDependencyFailure = true ∧ breaker'.failures = Breaker.oneMore r.breaker.failures) := by
  intro r hguards hcall hunsent
  suffices hended : ∃ fault bucket' breaker', ending = .returned (.error fault) ∧ t = r.now ∧
      l.Guards s' bucket' breaker' ∧ Unsent l d ts r.now context id bucket r.breaker fault bucket' breaker' by
    obtain ⟨fault, bucket', breaker', hending, ht, hleft, h⟩ := hended
    exact ⟨fault, bucket', breaker', hending, ht, hleft, h, h.same_or_struck⟩
  have hsound : r.Sound := Breaker.Run.sound_after
    (Breaker.Run.sound_fresh (Breaker.consistent_fresh name settings Fault.isDependencyFailure 0)) history
  have hcounts : r.breaker.counts = Fault.isDependencyFailure :=
    (Breaker.Run.sameRules_after (.fresh (.fresh name settings Fault.isDependencyFailure)) history).counts
  by_cases hid : id = ""
  · simp only [call, start, hid, if_true, Prod.mk.injEq] at hcall
    obtain ⟨rfl, rfl, rfl⟩ := hcall
    exact ⟨_, bucket, r.breaker, rfl, rfl, hguards, .unnamed hid⟩
  rcases ht : bucket.take r.now with ⟨_ | _, bucket'⟩
  · obtain ⟨s'', hstart, hleft, -⟩ := startCall_throttled hguards ht (l.call id)
    simp only [call, start_of_refused hid hstart, Prod.mk.injEq] at hcall
    obtain ⟨rfl, rfl, rfl⟩ := hcall
    exact ⟨_, bucket', r.breaker, rfl, rfl, hleft, .throttled hid ht⟩
  rcases ha : (r.breaker.acquire r.now).1 with _ | p
  · have hacquire : r.breaker.acquire r.now = (none, r.breaker, (r.breaker.acquire r.now).2.2) :=
      Prod.ext ha (Prod.ext (Breaker.breaker_of_rejected ha) rfl)
    obtain ⟨s'', hstart, hleft, -⟩ := startCall_rejected hguards ht hacquire (l.call id)
    simp only [call, start_of_refused hid hstart, Prod.mk.injEq] at hcall
    obtain ⟨rfl, rfl, rfl⟩ := hcall
    exact ⟨_, bucket', r.breaker, rfl, rfl, hleft, .rejected hid ht ha⟩
  have hacquire : r.breaker.acquire r.now = (some p, (r.breaker.acquire r.now).2.1, (r.breaker.acquire r.now).2.2) :=
    Prod.ext ha rfl
  have hheld : (exchange network l.endpoint d r.now stop ts (context.forMethod l.endpoint.method) id : Attempt α).sent =
      false := by
    rw [← Bool.not_eq_true]
    intro hsent
    obtain ⟨s'', hstart, -, hrequests⟩ := startCall_admitted hguards ht hacquire (l.call id)
    have hlonger := requests_call_sent hid hstart hsent
    rw [hcall, hunsent, hrequests] at hlonger
    simp at hlonger
  obtain ⟨fault, hattempt, hwithheld⟩ := exchange_of_unsent hheld
  obtain ⟨s'', hended, hleft⟩ := call_withheld hguards hsound.fields hid ht ha hattempt
  rw [hended, Prod.mk.injEq, Prod.mk.injEq] at hcall
  obtain ⟨rfl, rfl, rfl⟩ := hcall
  rw [hcounts] at hleft
  have hgiven : (r.breaker.acquire r.now).1 ≠ none := by simp [ha]
  by_cases hfault : fault.isDependencyFailure = true
  · rw [if_pos hfault] at hleft
    exact ⟨fault, bucket', _, rfl, rfl, hleft, .struck hid ht hgiven hwithheld.of_forMethod hfault⟩
  · rw [if_neg hfault] at hleft
    exact ⟨fault, bucket', _, rfl, rfl, hleft,
      .spared hid ht hgiven hwithheld.of_forMethod (Bool.eq_false_iff.mpr hfault)⟩

/-! ## A call that comes too late -/

def courseLink : Link := ⟨courseEndpoint, 0, 0⟩

def courseDestination : Destination where
  base := ⟨"http".toList, [], [], some (.domain "courses"), none, false, .segments [[]], none, none⟩
  path := ⟨[.literal "courses".toList, .id]⟩

/-- A guard room with one full bucket and one breaker, which has seen nothing yet. -/
def quietStage : Stage := ⟨[.full 1.0 100 0], [.fresh "courses" ⟨3, 60000000000⟩ Fault.isDependencyFailure], [], []⟩

/-- A call without time for its request counts as a failure of the peer. -/
theorem call_unsent_too_late :
    let r := (Breaker.Run.fresh (.fresh "courses" ⟨3, 60000000000⟩ Fault.isDependencyFailure)).after []
    let context := Context.opened 1 "students" "get_student_courses" 0 0 none
    let transport : Transport Course := exchange (fun _ _ => .silent) courseLink.endpoint courseDestination
    ∃ ending s', call courseLink transport none Tokens.fresh r.now context "1" quietStage = (ending, r.now, s') ∧
      s'.journal.requests = [] ∧ s'.breakers.map Breaker.failures = [1] ∧
      ∃ fault bucket' breaker', ending = .returned (.error fault) ∧ courseLink.Guards s' bucket' breaker' ∧
        Unsent courseLink courseDestination Tokens.fresh r.now context "1" (.full 1.0 100 0) r.breaker fault bucket'
          breaker' := by
  intro r context transport
  have hrequests : (call courseLink transport none Tokens.fresh r.now context "1" quietStage).2.2.journal.requests = [] := by
    decide +kernel
  have hfailures : (call courseLink transport none Tokens.fresh r.now context "1" quietStage).2.2.breakers.map
      Breaker.failures = [1] := by
    decide +kernel
  rcases hcall : call courseLink transport none Tokens.fresh r.now context "1" quietStage with ⟨ending, t, s'⟩
  rw [hcall] at hrequests hfailures
  obtain ⟨fault, bucket', breaker', hending, rfl, hguards, hunsent, -⟩ :=
    call_unsent "courses" ⟨3, 60000000000⟩ [] courseLink (fun _ _ => .silent) courseDestination none Tokens.fresh context "1"
      quietStage (.full 1.0 100 0) ending t s' ⟨rfl, rfl⟩ hcall hrequests
  exact ⟨ending, s', rfl, hrequests, hfailures, fault, bucket', breaker', hending, hguards, hunsent⟩

end Peer

end Campus
