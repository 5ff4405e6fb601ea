import Campus.Peer.Client
import Campus.Proofs.Pipeline.Frames

/-! # Calls through a link

The chain of a link asks its bucket, and then its breaker. A call comes back at once if one of them turns it away; otherwise
its request is sent, and the end of the request settles the permit of the breaker.
-/
namespace Campus

open Pipeline

namespace Peer

/-- The bucket and the breaker that stand in the places of a link. -/
structure Link.Guards (l : Link) (s : Stage) (bucket : Bucket Float) (breaker : Breaker) : Prop where
  bucket : s.buckets[l.bucket]? = some bucket
  breaker : s.breakers[l.breaker]? = some breaker

namespace Link.Guards

variable {l : Link} {s : Stage} {bucket : Bucket Float} {breaker : Breaker}

theorem setBucket (h : l.Guards s bucket breaker) (bucket' : Bucket Float) :
    l.Guards { s with buckets := s.buckets.set l.bucket bucket' } bucket' breaker :=
  ⟨List.getElem?_set_self (List.getElem?_eq_some_iff.mp h.bucket).1, h.breaker⟩

theorem setBreaker (h : l.Guards s bucket breaker) (breaker' : Breaker) :
    l.Guards { s with breakers := s.breakers.set l.breaker breaker' } bucket breaker' :=
  ⟨h.bucket, List.getElem?_set_self (List.getElem?_eq_some_iff.mp h.breaker).1⟩

theorem journal (h : l.Guards s bucket breaker) (j : Journal) : l.Guards { s with journal := j } bucket breaker :=
  ⟨h.bucket, h.breaker⟩

end Link.Guards

def Link.frames (l : Link) (call : CallInfo) (permit : Permit) (since : Instant) : List Frame :=
  [.permit l.breaker permit, .log call.method call.fields since]

/-- The end of a call that a link let through settles its permit. -/
theorem Link.Guards.leave {l : Link} {s : Stage} {bucket : Bucket Float} {breaker : Breaker} {now : Instant}
    (h : l.Guards s bucket breaker) (call : CallInfo) (p : Permit) (since : Instant) (v : Verdict) :
    l.Guards (Pipeline.leave now v (l.frames call p since) s) bucket (breaker.conclude now p v).1 := by
  have hsettled := h.setBreaker (breaker.conclude now p v).1
  simp only [Pipeline.leave, Link.frames, List.foldl_cons, List.foldl_nil, Frame.leave_permit h.breaker]
  exact hsettled.journal _

section Entering

variable {l : Link} {s : Stage} {bucket bucket' : Bucket Float} {breaker breaker' : Breaker} {now : Instant}

/-- Without a token a call is throttled, and the breaker does not hear of it. -/
theorem startCall_throttled (h : l.Guards s bucket breaker) (ht : bucket.take now = (false, bucket')) (call : CallInfo) :
    ∃ s', startCall now call l.chain s = (.error (.throttled l.endpoint.method), s') ∧ l.Guards s' bucket' breaker ∧
      s'.journal.requests = s.journal.requests := by
  have henter : enter now call l.chain [] s =
      (([.log call.method call.fields now], some (.throttled l.endpoint.method)),
        { s with buckets := s.buckets.set l.bucket bucket' }.note [.rateLimited l.endpoint.method]) := by
    simp [Link.chain, enter, h.bucket, ht]
  refine ⟨_, startCall_of_refused henter, (h.setBucket bucket').journal _, ?_⟩
  rw [requests_leave, Stage.requests_note]

/-- A call with a token that the breaker does not let through is rejected. -/
theorem startCall_rejected (h : l.Guards s bucket breaker) (ht : bucket.take now = (true, bucket')) {ns : List Notice}
    (ha : breaker.acquire now = (none, breaker', ns)) (call : CallInfo) :
    ∃ s', startCall now call l.chain s = (.error breaker'.rejection, s') ∧ l.Guards s' bucket' breaker' ∧
      s'.journal.requests = s.journal.requests := by
  have henter : enter now call l.chain [] s =
      (([.log call.method call.fields now], some breaker'.rejection),
        { s with buckets := s.buckets.set l.bucket bucket', breakers := s.breakers.set l.breaker breaker' }.note ns) := by
    simp [Link.chain, enter, h.bucket, h.breaker, ht, ha]
  refine ⟨_, startCall_of_refused henter, ((h.setBucket bucket').setBreaker breaker').journal _, ?_⟩
  rw [requests_leave, Stage.requests_note]

/-- A call with a token that the breaker lets through leaves its permit and its log line to be settled. -/
theorem startCall_admitted (h : l.Guards s bucket breaker) (ht : bucket.take now = (true, bucket')) {p : Permit}
    {ns : List Notice} (ha : breaker.acquire now = (some p, breaker', ns)) (call : CallInfo) :
    ∃ s', startCall now call l.chain s = (.ok (l.frames call p now), s') ∧ l.Guards s' bucket' breaker' ∧
      s'.journal.requests = s.journal.requests := by
  have henter : enter now call l.chain [] s = ((l.frames call p now, none),
      { s with buckets := s.buckets.set l.bucket bucket', breakers := s.breakers.set l.breaker breaker' }.note ns) := by
    simp [Link.chain, Link.frames, enter, h.bucket, h.breaker, ht, ha]
  refine ⟨_, startCall_of_entered henter, ((h.setBucket bucket').setBreaker breaker').journal _, ?_⟩
  rw [Stage.requests_note]

end Entering

section Requests

variable {α : Type} [Summarize α] {l : Link} {transport : Transport α} {stop : Option Instant} {ts : Tokens} {now : Instant}
  {context : Context} {id : String} {s : Stage} {bucket bucket' : Bucket Float} {breaker breaker' : Breaker}

def Link.call (l : Link) (id : String) : CallInfo := ⟨l.endpoint.method, s!"id={id}"⟩

/-- A request that takes some time is on its way once the chain has let its call through. -/
theorem start_sent (h : l.Guards s bucket breaker) (ht : bucket.take now = (true, bucket')) {p : Permit} {ns : List Notice}
    (ha : breaker.acquire now = (some p, breaker', ns)) (hid : id ≠ "") {delay : Span} {ending : Ending α}
    (hsent : transport now stop ts (context.forMethod l.endpoint.method) id = ⟨true, delay, ending⟩) (hdelay : 0 < delay) :
    ∃ s', start l transport stop ts now context id s = (.running (now + delay) ⟨l.frames (l.call id) p now, ending⟩, s') ∧
      l.Guards s' bucket' breaker' ∧
      s'.journal.requests = s.journal.requests ++ [(l.endpoint.method, id, context.requestId)] := by
  obtain ⟨s', hstart, hguards, hrequests⟩ := startCall_admitted h ht ha (l.call id)
  refine ⟨s'.write (.asked l.endpoint.method id context.requestId), ?_, hguards.journal _, ?_⟩
  · have hne : delay ≠ 0 := Nat.ne_of_gt hdelay
    simp only [Link.call] at hstart
    simp only [start, hid, if_false, hstart, hsent, if_true, hne, Link.call]
    rfl
  · rw [Stage.write, Journal.requests_append, hrequests]
    rfl

/-- A request that is answered at once is over when the chain has let its call through. -/
theorem start_answered (h : l.Guards s bucket breaker) (ht : bucket.take now = (true, bucket')) {p : Permit} {ns : List Notice}
    (ha : breaker.acquire now = (some p, breaker', ns)) (hid : id ≠ "") {a : α}
    (hsent : transport now stop ts (context.forMethod l.endpoint.method) id = ⟨true, 0, .returned (.ok a)⟩) :
    ∃ s', start l transport stop ts now context id s = (.ended (.returned (.ok a)), s') ∧
      l.Guards s' bucket' (breaker'.record now p none).1 := by
  obtain ⟨s', hstart, hguards, -⟩ := startCall_admitted h ht ha (l.call id)
  have hasked := hguards.journal (s'.write (.asked l.endpoint.method id context.requestId)).journal
  refine ⟨_, ?_, hasked.leave (l.call id) p now (.succeeded (summary a))⟩
  simp only [Link.call] at hstart
  simp only [start, hid, if_false, hstart, hsent, if_true, Link.call]
  rfl

theorem start_of_refused (hid : id ≠ "") {f : Fault} {s' : Stage}
    (h : startCall now (l.call id) l.chain s = (.error f, s')) :
    start l transport stop ts now context id s = (.ended (.returned (.error f)), s') := by
  simp only [Link.call] at h
  simp only [start, hid, if_false, h]

/-- A request that succeeds settles its permit with a success. -/
theorem finish_succeeded (h : l.Guards s bucket breaker) (call : CallInfo) (p : Permit) (since : Instant) (a : α) :
    ∃ s', finish now ⟨l.frames call p since, .returned (.ok a)⟩ s = (.returned (.ok a), s') ∧
      l.Guards s' bucket (breaker.record now p none).1 ∧ s'.journal.requests = s.journal.requests :=
  ⟨_, rfl, h.leave call p since (.succeeded (summary a)), requests_leave ..⟩

end Requests

end Peer

end Campus
