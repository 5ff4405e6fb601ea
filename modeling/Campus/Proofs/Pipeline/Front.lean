import Campus.Peer.Client
import Campus.Proofs.Pipeline.Frames

/-! # The standard chains

The two chains that services are built with put the same guards around an operation in different places: at an endpoint the log
and the metrics see only what the guards let through, in front of a peer the log sees every call. This says what a call of
either chain does to the guard room when it is turned away, when it is let through, and when it ends.
-/
namespace Campus

open Pipeline

/-! ## What is read off a journal -/

def Notice.isCallLine : Notice → Bool
  | callComplete _ _ _ _ | callFailed _ _ _ _ _ | callAborted _ _ _ => true
  | _ => false

def Entry.isMetric : Entry → Bool
  | counted _ _ | observed _ _ => true
  | _ => false

namespace Journal

/-- How often the operation at the bottom of a chain was called. -/
def invocations (j : Journal) : Nat := j.count .invoked

def metrics (j : Journal) : Journal := j.filter Entry.isMetric

def callLines (j : Journal) : List Notice := j.notices.filter Notice.isCallLine

variable (j k : Journal) (ns : List Notice)

@[simp] theorem invocations_append : invocations (j ++ k) = invocations j + invocations k := List.count_append

@[simp] theorem metrics_append : metrics (j ++ k) = metrics j ++ metrics k := List.filter_append ..

@[simp] theorem callLines_append : callLines (j ++ k) = callLines j ++ callLines k := by
  simp [callLines, notices]

@[simp] theorem invocations_notices : invocations (ns.map .notice) = 0 := by
  simp [invocations, List.count_eq_zero]

@[simp] theorem metrics_notices : metrics (ns.map .notice) = [] := by
  simp [metrics, Entry.isMetric]

@[simp] theorem callLines_notices : callLines (ns.map .notice) = ns.filter Notice.isCallLine := by
  have hnotices : notices (ns.map .notice) = ns := by
    rw [notices, List.filterMap_map]
    exact List.filterMap_some
  rw [callLines, hnotices]

end Journal

theorem Verdict.isCallLine_line (v : Verdict) (call : CallInfo) (elapsed : Span) :
    (v.line call elapsed).isCallLine = true := by
  cases v <;> rfl

namespace Breaker

/-! What a breaker logs is never the line of a call. -/

variable (b : Breaker) (now : Instant)

theorem callLines_acquire : (b.acquire now).2.2.filter Notice.isCallLine = [] := by
  unfold acquire
  repeat' split
  all_goals simp [Notice.isCallLine]

theorem callLines_settle (probe failed : Bool) : (b.settle now probe failed).2.filter Notice.isCallLine = [] := by
  unfold settle
  dsimp only
  repeat' split
  all_goals simp [Notice.isCallLine]

theorem callLines_record (p : Permit) (fault : Option Fault) :
    (b.record now p fault).2.filter Notice.isCallLine = [] := by
  unfold record
  repeat' split
  all_goals first
    | exact callLines_settle ..
    | simp [release, Notice.isCallLine]

theorem callLines_conclude (p : Permit) (v : Verdict) : (b.conclude now p v).2.filter Notice.isCallLine = [] := by
  cases v with
  | succeeded summary => exact callLines_record b now p none
  | failed fault => exact callLines_record b now p (some fault)
  | unfinished =>
    simp only [conclude, drop]
    split
    · exact callLines_settle ..
    · rfl

end Breaker

namespace Pipeline

/-! ## What is seen of a guard room -/

/-- What stands in the places of a chain, and what is read off the journal. -/
structure Stage.Shows (s : Stage) (i j : Nat) (bucket : Bucket Float) (breaker : Breaker) (invocations : Nat)
    (metrics : Journal) (lines : List Notice) : Prop where
  bucket : s.buckets[i]? = some bucket
  breaker : s.breakers[j]? = some breaker
  invocations : s.journal.invocations = invocations
  metrics : s.journal.metrics = metrics
  lines : s.journal.callLines = lines

namespace Stage.Shows

variable {s : Stage} {i j : Nat} {bucket : Bucket Float} {breaker : Breaker} {invocations : Nat} {metrics : Journal}
  {lines : List Notice}

theorem setBucket (h : s.Shows i j bucket breaker invocations metrics lines) (bucket' : Bucket Float) :
    ({ s with buckets := s.buckets.set i bucket' } : Stage).Shows i j bucket' breaker invocations metrics lines :=
  { h with bucket := List.getElem?_set_self (List.getElem?_eq_some_iff.mp h.bucket).1 }

theorem setBreaker (h : s.Shows i j bucket breaker invocations metrics lines) (breaker' : Breaker) :
    ({ s with breakers := s.breakers.set j breaker' } : Stage).Shows i j bucket breaker' invocations metrics lines :=
  { h with breaker := List.getElem?_set_self (List.getElem?_eq_some_iff.mp h.breaker).1 }

theorem note (h : s.Shows i j bucket breaker invocations metrics lines) (ns : List Notice) :
    (s.note ns).Shows i j bucket breaker invocations metrics (lines ++ ns.filter Notice.isCallLine) where
  bucket := h.bucket
  breaker := h.breaker
  invocations := by simp [h.invocations]
  metrics := by simp [h.metrics]
  lines := by simp [h.lines]

theorem noteLine (h : s.Shows i j bucket breaker invocations metrics lines) (v : Verdict) (call : CallInfo)
    (elapsed : Span) :
    (s.note [v.line call elapsed]).Shows i j bucket breaker invocations metrics (lines ++ [v.line call elapsed]) := by
  have hnoted := h.note [v.line call elapsed]
  have hseen : [v.line call elapsed].filter Notice.isCallLine = [v.line call elapsed] := by
    simp [v.isCallLine_line call elapsed]
  rwa [hseen] at hnoted

theorem noteGuard (h : s.Shows i j bucket breaker invocations metrics lines) {ns : List Notice}
    (hns : ns.filter Notice.isCallLine = []) : (s.note ns).Shows i j bucket breaker invocations metrics lines := by
  have hnoted := h.note ns
  rwa [hns, List.append_nil] at hnoted

theorem write (h : s.Shows i j bucket breaker invocations metrics lines) (e : Entry) :
    (s.write e).Shows i j bucket breaker (invocations + Journal.invocations [e]) (metrics ++ Journal.metrics [e])
      (lines ++ Journal.callLines [e]) where
  bucket := h.bucket
  breaker := h.breaker
  invocations := by simp [h.invocations]
  metrics := by simp [h.metrics]
  lines := by simp [h.lines]

theorem writeInvoked (h : s.Shows i j bucket breaker invocations metrics lines) :
    (s.write .invoked).Shows i j bucket breaker (invocations + 1) metrics lines := by
  have hwritten := h.write .invoked
  simpa [Journal.invocations, Journal.metrics, Journal.callLines, Journal.notices, Entry.isMetric] using hwritten

theorem writeMetrics (h : s.Shows i j bucket breaker invocations metrics lines) (method : String) (o : CallOutcome)
    (elapsed : Span) : ((s.write (.counted method o)).write (.observed method elapsed)).Shows i j bucket breaker
      invocations (metrics ++ [.counted method o, .observed method elapsed]) lines := by
  have hwritten := (h.write (.counted method o)).write (.observed method elapsed)
  simpa [Journal.invocations, Journal.metrics, Journal.callLines, Journal.notices, Entry.isMetric, List.filter_cons]
    using hwritten

theorem conclude (h : s.Shows i j bucket breaker invocations metrics lines) (now : Instant) (v : Verdict) (p : Permit) :
    (Frame.leave now v s (.permit j p)).Shows i j bucket (breaker.conclude now p v).1 invocations metrics lines := by
  rw [Frame.leave_permit h.breaker]
  exact (h.setBreaker _).noteGuard (Breaker.callLines_conclude ..)

end Stage.Shows

/-! ## The two chains -/

/-- A standard chain: around one endpoint of a service, or in front of a peer. -/
inductive Front where
  | inbound (method : String)
  | outbound (endpoint : Peer.Endpoint)

namespace Front

/-- The decorators, with a bucket and a breaker in the guard room, outermost first. -/
def chain (i j : Nat) : Front → List Decorator
  | inbound method => endpointChain method i j
  | outbound endpoint => Peer.Link.chain ⟨endpoint, i, j⟩

def name : Front → String
  | inbound method => method
  | outbound endpoint => endpoint.method

def refusal (call : CallInfo) (fault : Fault) : Front → List Notice
  | inbound _ => []
  | outbound _ => [(Verdict.failed fault).line call 0]

def measures (call : CallInfo) (elapsed : Span) (v : Verdict) : Front → Journal
  | inbound _ => [.counted call.method v.outcome, .observed call.method elapsed]
  | outbound _ => []

def pending (call : CallInfo) (since : Instant) : Front → List Frame
  | inbound _ => []
  | outbound _ => [.log call.method call.fields since]

def frames (j : Nat) (call : CallInfo) (since : Instant) (p : Permit) : Front → List Frame
  | inbound _ => [.log call.method call.fields since, .timer call.method since, .permit j p]
  | outbound _ => [.permit j p, .log call.method call.fields since]

section Calls

variable {s : Stage} {i j : Nat} {bucket bucket' : Bucket Float} {breaker : Breaker} {invocations : Nat} {metrics : Journal}
  {lines : List Notice} {now : Instant} (front : Front) (call : CallInfo)

theorem shows_leave_pending (h : s.Shows i j bucket breaker invocations metrics lines) (fault : Fault) :
    (leave now (.failed fault) (front.pending call now) s).Shows i j bucket breaker invocations metrics
      (lines ++ front.refusal call fault) := by
  cases front with
  | inbound method => simpa [leave, pending, refusal] using h
  | outbound endpoint =>
    have hline := h.noteLine (.failed fault) call (now - now)
    rw [← Frame.leave_log] at hline
    simpa [leave, pending, refusal] using hline

/-- Without a token a call is throttled, and the breaker does not hear of it. -/
theorem startCall_throttled (h : s.Shows i j bucket breaker invocations metrics lines)
    (ht : bucket.take now = (false, bucket')) :
    ∃ s', startCall now call (front.chain i j) s = (.error (.throttled front.name), s') ∧
      s'.Shows i j bucket' breaker invocations metrics (lines ++ front.refusal call (.throttled front.name)) := by
  have henter : enter now call (front.chain i j) [] s = ((front.pending call now, some (.throttled front.name)),
      { s with buckets := s.buckets.set i bucket' }.note [.rateLimited front.name]) := by
    cases front with
    | inbound method => simp [chain, endpointChain, pending, name, enter, h.bucket, ht]
    | outbound endpoint => simp [chain, Peer.Link.chain, pending, name, enter, h.bucket, ht]
  exact ⟨_, startCall_of_refused henter, shows_leave_pending front call ((h.setBucket bucket').noteGuard rfl) _⟩

/-- A call with a token that the breaker does not let through is rejected. -/
theorem startCall_rejected (h : s.Shows i j bucket breaker invocations metrics lines)
    (ht : bucket.take now = (true, bucket')) (ha : (breaker.acquire now).1 = none) :
    ∃ s', startCall now call (front.chain i j) s = (.error (.circuitOpen breaker.name), s') ∧
      s'.Shows i j bucket' breaker invocations metrics (lines ++ front.refusal call (.circuitOpen breaker.name)) := by
  have hsame := Breaker.breaker_of_rejected ha
  have henter : enter now call (front.chain i j) [] s =
      ((front.pending call now, some (.circuitOpen breaker.name)),
        { s with buckets := s.buckets.set i bucket', breakers := s.breakers.set j breaker }.note
          (breaker.acquire now).2.2) := by
    cases front with
    | inbound method =>
      simp [chain, endpointChain, pending, enter, h.bucket, h.breaker, ht, ha, hsame, Breaker.rejection]
    | outbound endpoint =>
      simp [chain, Peer.Link.chain, pending, enter, h.bucket, h.breaker, ht, ha, hsame, Breaker.rejection]
  have hseen := ((h.setBucket bucket').setBreaker breaker).noteGuard (breaker.callLines_acquire now)
  exact ⟨_, startCall_of_refused henter, shows_leave_pending front call hseen _⟩

/-- A call with a token that the breaker lets through holds its permit. -/
theorem startCall_letIn (h : s.Shows i j bucket breaker invocations metrics lines)
    (ht : bucket.take now = (true, bucket')) {p : Permit} (ha : (breaker.acquire now).1 = some p) :
    ∃ s', startCall now call (front.chain i j) s = (.ok (front.frames j call now p), s') ∧
      s'.Shows i j bucket' (breaker.acquire now).2.1 invocations metrics lines := by
  have henter : enter now call (front.chain i j) [] s = ((front.frames j call now p, none),
      { s with
        buckets := s.buckets.set i bucket'
        breakers := s.breakers.set j (breaker.acquire now).2.1 }.note (breaker.acquire now).2.2) := by
    cases front with
    | inbound method => simp [chain, endpointChain, frames, enter, h.bucket, h.breaker, ht, ha]
    | outbound endpoint => simp [chain, Peer.Link.chain, frames, enter, h.bucket, h.breaker, ht, ha]
  exact ⟨_, startCall_of_entered henter,
    ((h.setBucket bucket').setBreaker _).noteGuard (breaker.callLines_acquire now)⟩

/-- The end of a call that was let in settles its permit, and is logged and measured. -/
theorem shows_leave (now : Instant) (h : s.Shows i j bucket breaker invocations metrics lines) (since : Instant) (p : Permit)
    (v : Verdict) :
    (leave now v (front.frames j call since p) s).Shows i j bucket (breaker.conclude now p v).1 invocations
      (metrics ++ front.measures call (now - since) v) (lines ++ [v.line call (now - since)]) := by
  cases front with
  | inbound method =>
    have hseen := ((h.noteLine v call (now - since)).writeMetrics call.method v.outcome (now - since)).conclude now v p
    rwa [← Frame.leave_timer, ← Frame.leave_log] at hseen
  | outbound endpoint =>
    have hseen := (h.conclude now v p).noteLine v call (now - since)
    rw [← Frame.leave_log] at hseen
    simpa [leave, frames, measures] using hseen

end Calls

end Front

end Pipeline

end Campus
