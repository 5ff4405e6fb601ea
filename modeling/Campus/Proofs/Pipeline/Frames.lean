import Campus.Pipeline.Chain
import Campus.Proofs.Breaker.Fields

/-! # Frames

A call that ends leaves the frames of its chain one by one: its end is logged, measured, and settles the permit that the call
holds. None of this sends a request.
-/
namespace Campus

open Pipeline

/-- Settles a permit by what is known of the end of its call. -/
def Breaker.conclude (b : Breaker) (now : Instant) (p : Permit) : Verdict → Breaker × List Notice
  | .succeeded _ => b.record now p none
  | .failed fault => b.record now p (some fault)
  | .unfinished => b.drop now p

namespace Verdict

def line (call : CallInfo) (elapsed : Span) : Verdict → Notice
  | succeeded summary => .callComplete call.method call.fields summary elapsed
  | failed fault => .callFailed call.method call.fields fault.message fault.kind.label elapsed
  | unfinished => .callAborted call.method call.fields elapsed

def outcome : Verdict → CallOutcome
  | succeeded _ => .ok
  | failed fault => .failed fault.kind
  | unfinished => .aborted

end Verdict

namespace Journal

/-- The requests that were handed to a transport: the method, the id, and the id of the inbound request. -/
def requests (j : Journal) : List (String × String × Option String) := j.filterMap fun
  | .asked method id requestId => some (method, id, requestId)
  | _ => none

@[simp] theorem requests_append (j k : Journal) : requests (j ++ k) = requests j ++ requests k := List.filterMap_append

@[simp] theorem requests_notices (ns : List Notice) : requests (ns.map .notice) = [] := by
  induction ns with
  | nil => rfl
  | cons n ns ih => exact ih

end Journal

namespace Pipeline

/-! ## Leaving one frame -/

namespace Stage

variable (s : Stage) (e : Entry) (ns : List Notice)

@[simp] theorem journal_note : (s.note ns).journal = s.journal ++ ns.map .notice := rfl

@[simp] theorem journal_write : (s.write e).journal = s.journal ++ [e] := rfl

end Stage

theorem Frame.leave_log (now since : Instant) (v : Verdict) (s : Stage) (call : CallInfo) :
    Frame.leave now v s (.log call.method call.fields since) = s.note [v.line call (now - since)] := by
  cases v <;> rfl

theorem Frame.leave_timer (now since : Instant) (v : Verdict) (s : Stage) (method : String) :
    Frame.leave now v s (.timer method since) =
      (s.write (.counted method v.outcome)).write (.observed method (now - since)) := by
  cases v <;> rfl

theorem Frame.leave_permit {s : Stage} {j : Nat} {b : Breaker} (h : s.breakers[j]? = some b) (now : Instant) (v : Verdict)
    (p : Permit) :
    Frame.leave now v s (.permit j p) =
      { s with breakers := s.breakers.set j (b.conclude now p v).1 }.note (b.conclude now p v).2 := by
  simp only [leave, h]
  cases v <;> rfl

/-- Leaving a frame asks no bucket for a token, and nothing more is torn down by it. -/
theorem Frame.rest_leave (now : Instant) (v : Verdict) (s : Stage) (f : Frame) :
    (Frame.leave now v s f).buckets = s.buckets ∧ (Frame.leave now v s f).leaving = s.leaving := by
  cases f with
  | log method fields since => exact ⟨rfl, rfl⟩
  | timer method since => exact ⟨rfl, rfl⟩
  | permit i p =>
    cases h : s.breakers[i]? with
    | none => simp [Frame.leave, h]
    | some b =>
      rw [leave_permit h]
      exact ⟨rfl, rfl⟩

theorem rest_leave (now : Instant) (v : Verdict) (frames : List Frame) (s : Stage) :
    (leave now v frames s).buckets = s.buckets ∧ (leave now v frames s).leaving = s.leaving := by
  induction frames generalizing s with
  | nil => exact ⟨rfl, rfl⟩
  | cons f frames ih =>
    obtain ⟨hbuckets, hleaving⟩ := Frame.rest_leave now v s f
    exact ⟨(ih _).1.trans hbuckets, (ih _).2.trans hleaving⟩

theorem Stage.requests_note (s : Stage) (ns : List Notice) : (s.note ns).journal.requests = s.journal.requests := by
  simp

theorem Frame.requests_leave (now : Instant) (v : Verdict) (s : Stage) (f : Frame) :
    (Frame.leave now v s f).journal.requests = s.journal.requests := by
  cases f with
  | log method fields since => exact s.requests_note _
  | timer method since => simp [Frame.leave, Stage.write, Journal.requests]
  | permit j p =>
    cases h : s.breakers[j]? with
    | none => simp [Frame.leave, h]
    | some b => simp [Frame.leave_permit h]

theorem requests_leave (now : Instant) (v : Verdict) (frames : List Frame) (s : Stage) :
    (leave now v frames s).journal.requests = s.journal.requests := by
  induction frames generalizing s with
  | nil => rfl
  | cons f frames ih => exact (ih (Frame.leave now v s f)).trans (Frame.requests_leave now v s f)

theorem startCall_of_refused {now : Instant} {call : CallInfo} {decorators : List Decorator} {s s' : Stage}
    {frames : List Frame} {f : Fault} (h : enter now call decorators [] s = ((frames, some f), s')) :
    startCall now call decorators s = (.error f, leave now (.failed f) frames s') := by
  rw [startCall, h]

theorem startCall_of_entered {now : Instant} {call : CallInfo} {decorators : List Decorator} {s s' : Stage}
    {frames : List Frame} (h : enter now call decorators [] s = ((frames, none), s')) :
    startCall now call decorators s = (.ok frames, s') := by
  rw [startCall, h]

end Pipeline

end Campus
