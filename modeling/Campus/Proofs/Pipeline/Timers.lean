import Campus.Proofs.Pipeline.Front
import Mathlib.Data.List.Induction

/-! # Timers

What the meters of a chain are to write about a call. A meter keeps a timer for each call that gets past the decorators around it,
and a timer tells of its call when it is left: it counts the call under its outcome, and observes how long it took. No other frame
tells anything, and nothing is told when a call goes in.
-/
namespace Campus

namespace Fault

def innermost : Fault → Fault
  | aggregate _ _ source => source.innermost
  | f => f

theorem kind_innermost (f : Fault) : f.innermost.kind = f.kind := by
  induction f with
  | aggregate seed related source ih => exact ih
  | _ => rfl

end Fault

def Ending.outcome {α : Type} : Ending α → CallOutcome
  | returned (.ok _) => .ok
  | returned (.error f) => .failed f.innermost.kind
  | panicked _ | dropped => .aborted

theorem Ending.outcome_verdict {α : Type} [Summarize α] (e : Ending α) : e.verdict.outcome = e.outcome := by
  cases e with
  | returned result =>
    cases result with
    | ok a => rfl
    | error f => exact congrArg CallOutcome.failed f.kind_innermost.symm
  | panicked text => rfl
  | dropped => rfl

/-! ## Journals that measure calls -/

structure Measure where
  method : String
  outcome : CallOutcome
  elapsed : Span
  deriving DecidableEq, Repr

namespace Journal

/-- A journal that measures some calls, in order: it counts each of them, the latency comes right behind the count, and nothing
else is counted or observed. -/
inductive Measures : Journal → List Measure → Prop
  | nil : Measures [] []
  | other {e : Entry} {j : Journal} {ms : List Measure} (he : e.isMetric = false) (h : Measures j ms) : Measures (e :: j) ms
  | measure (m : Measure) {j : Journal} {ms : List Measure} (h : Measures j ms) :
    Measures (.counted m.method m.outcome :: .observed m.method m.elapsed :: j) (m :: ms)

variable {j k : Journal} {ms ns : List Measure}

theorem Measures.append (h : j.Measures ms) (h' : k.Measures ns) : Measures (j ++ k) (ms ++ ns) := by
  induction h with
  | nil => exact h'
  | other he _ ih => exact .other he ih
  | measure m _ ih => exact .measure m ih

theorem measures_of_metrics (h : j.metrics = []) : j.Measures [] := by
  induction j with
  | nil => exact .nil
  | cons e j ih =>
    have hnone := List.filter_eq_nil_iff.mp h
    have he : e.isMetric = false := by simpa using hnone e List.mem_cons_self
    exact .other he (ih (List.filter_eq_nil_iff.mpr fun e' he' => hnone e' (List.mem_cons_of_mem e he')))

end Journal

namespace Pipeline

/-- From one state of a guard room to another, these calls were measured. -/
def Stage.Measured (s s' : Stage) (ms : List Measure) : Prop := ∃ j : Journal, s'.journal = s.journal ++ j ∧ j.Measures ms

namespace Stage

variable {s s' s'' : Stage} {ms ns : List Measure}

theorem Measured.trans (h : s.Measured s' ms) (h' : s'.Measured s'' ns) : s.Measured s'' (ms ++ ns) := by
  obtain ⟨j, hj, hms⟩ := h
  obtain ⟨k, hk, hns⟩ := h'
  exact ⟨j ++ k, by rw [hk, hj, List.append_assoc], hms.append hns⟩

theorem measured_of_metrics {j : Journal} (h : s'.journal = s.journal ++ j) (hj : j.metrics = []) : s.Measured s' [] :=
  ⟨j, h, Journal.measures_of_metrics hj⟩

theorem measured_refl (s : Stage) : s.Measured s [] := measured_of_metrics (List.append_nil _).symm rfl

theorem measured_note (s : Stage) (ns : List Notice) : s.Measured (s.note ns) [] :=
  measured_of_metrics rfl (Journal.metrics_notices ns)

theorem measured_write (s : Stage) {e : Entry} (he : e.isMetric = false) : s.Measured (s.write e) [] :=
  measured_of_metrics rfl (by simp [Journal.metrics, he])

end Stage

/-! ## Timers -/

def Frame.measure? (now : Instant) (outcome : CallOutcome) : Frame → Option Measure
  | .timer method since => some ⟨method, outcome, now - since⟩
  | _ => none

theorem Frame.measured_leave (now : Instant) (v : Verdict) (s : Stage) (f : Frame) :
    s.Measured (Frame.leave now v s f) (f.measure? now v.outcome).toList := by
  cases f with
  | log method fields since => exact s.measured_note _
  | timer method since =>
    rw [Frame.leave_timer]
    exact ⟨[_, _], by simp, .measure ⟨method, v.outcome, now - since⟩ .nil⟩
  | permit i p =>
    cases h : s.breakers[i]? with
    | none =>
      rw [Frame.leave, h]
      exact s.measured_refl
    | some b =>
      rw [Frame.leave_permit h]
      exact Stage.measured_note _ _

/-- The frames of a call tell of it as often as there are timers among them. -/
theorem measured_leave (now : Instant) (v : Verdict) (frames : List Frame) (s : Stage) :
    s.Measured (leave now v frames s) (frames.filterMap (Frame.measure? now v.outcome)) := by
  induction frames generalizing s with
  | nil => exact s.measured_refl
  | cons f frames ih =>
    have hboth := (Frame.measured_leave now v s f).trans (ih (Frame.leave now v s f))
    have hms : (f :: frames).filterMap (Frame.measure? now v.outcome) =
        (f.measure? now v.outcome).toList ++ frames.filterMap (Frame.measure? now v.outcome) := by
      rw [List.filterMap_cons]
      cases f.measure? now v.outcome <;> rfl
    rw [hms]
    exact hboth

theorem measured_enter (now : Instant) (call : CallInfo) (decorators : List Decorator) (frames : List Frame) (s : Stage) :
    s.Measured (enter now call decorators frames s).2 [] := by
  induction decorators generalizing frames s with
  | nil => exact s.measured_refl
  | cons d inner ih =>
    cases d with
    | logging | metrics => exact ih _ s
    | mark name => exact (s.measured_write rfl).trans (ih frames _)
    | rateLimit endpoint i =>
      simp only [enter]
      split
      · exact ih frames s
      · split
        · exact ih frames _
        · exact Stage.measured_note _ _
    | breaker i =>
      simp only [enter]
      split
      · exact ih frames s
      · split
        · exact (Stage.measured_note _ _).trans (ih _ _)
        · exact Stage.measured_note _ _

/-- A call comes to the inner decorators once the outer ones have let it through. -/
theorem enter_append (now : Instant) (call : CallInfo) (outer inner : List Decorator) (frames : List Frame) (s : Stage) :
    enter now call (outer ++ inner) frames s =
      match enter now call outer frames s with
      | ((frames, none), s) => enter now call inner frames s
      | refused => refused := by
  induction outer generalizing frames s with
  | nil => rfl
  | cons d outer ih =>
    cases d with
    | logging | metrics | mark => exact ih _ _
    | rateLimit endpoint i =>
      simp only [List.cons_append, enter]
      cases s.buckets[i]? with
      | none => exact ih frames s
      | some b =>
        by_cases ht : (b.take now).1 = true
        · simp only [ht, if_true]
          exact ih frames _
        · simp only [ht]
          rfl
    | breaker i =>
      simp only [List.cons_append, enter]
      cases s.breakers[i]? with
      | none => exact ih frames s
      | some b =>
        dsimp only
        cases (b.acquire now).1 with
        | none => rfl
        | some p => exact ih _ _

theorem measures_enter_one (now since : Instant) (outcome : CallOutcome) (call : CallInfo) (d : Decorator) (frames : List Frame)
    (s : Stage) : (enter since call [d] frames s).1.1.filterMap (Frame.measure? now outcome) =
      (if d = .metrics then [⟨call.method, outcome, now - since⟩] else []) ++
        frames.filterMap (Frame.measure? now outcome) := by
  cases d with
  | logging | metrics | mark => rfl
  | rateLimit endpoint i =>
    simp only [enter]
    split
    · rfl
    · split <;> rfl
  | breaker i =>
    simp only [enter]
    split
    · rfl
    · split <;> rfl

/-! ## Calls that were made -/

/-- A call that was made of a chain under a handle, and the guard room as it stood then. -/
structure Made where
  handle : String
  call : CallInfo
  chain : List Decorator
  since : Instant
  room : Stage

namespace Made

variable (m : Made) (decorators : List Decorator)

/-- Whether a call gets past decorators that it comes to first. -/
def passes (outer : List Decorator) : Bool := (enter m.since m.call outer [] m.room).1.2.isNone

/-- The places of the meters among decorators that a call gets to, as it gets past all that stands around them. -/
def metersAmong : List Nat :=
  (List.range decorators.length).filter fun i => decorators[i]? = some .metrics && m.passes (decorators.take i)

def meters : List Nat := m.metersAmong m.chain

theorem mem_meters {i : Nat} : i ∈ m.meters ↔ m.chain[i]? = some .metrics ∧ m.passes (m.chain.take i) = true := by
  rw [meters, metersAmong, List.mem_filter, List.mem_range, Bool.and_eq_true, decide_eq_true_iff]
  refine ⟨And.right, fun h => ⟨?_, h⟩⟩
  exact (List.getElem?_eq_some_iff.mp h.1).1

theorem nodup_meters : m.meters.Nodup := List.nodup_range.filter _

/-- A meter further inside does not change what a call comes to before. -/
theorem metersAmong_concat (d : Decorator) :
    m.metersAmong (decorators ++ [d]) =
      m.metersAmong decorators ++ if d = .metrics ∧ m.passes decorators = true then [decorators.length] else [] := by
  have hfirst : (List.range decorators.length).filter (fun i =>
      (decorators ++ [d])[i]? = some .metrics && m.passes ((decorators ++ [d]).take i)) = m.metersAmong decorators := by
    refine List.filter_congr fun i hi => ?_
    have hi := List.mem_range.mp hi
    rw [List.getElem?_append_left hi, List.take_append_of_le_length (Nat.le_of_lt hi)]
  rw [metersAmong, List.length_append, List.length_singleton, List.range_succ, List.filter_append, hfirst]
  by_cases hd : d = .metrics ∧ m.passes decorators = true
  · simp [hd]
  · rw [if_neg hd]
    simpa using hd

theorem measures_enter (now : Instant) (outcome : CallOutcome) :
    (enter m.since m.call decorators [] m.room).1.1.filterMap (Frame.measure? now outcome) =
      List.replicate (m.metersAmong decorators).length ⟨m.call.method, outcome, now - m.since⟩ := by
  induction decorators using List.reverseRecOn with
  | nil => rfl
  | append_singleton outer d ih =>
    rw [enter_append, metersAmong_concat]
    rcases hin : enter m.since m.call outer [] m.room with ⟨⟨frames, _ | f⟩, s⟩
    · have hpasses : m.passes outer = true := by simp [passes, hin]
      rw [hin] at ih
      simp only [measures_enter_one, ih, hpasses, and_true]
      by_cases hd : d = .metrics <;> simp [hd, List.replicate_succ]
    · have hrefused : m.passes outer = false := by simp [passes, hin]
      simpa [hrefused, hin] using ih

end Made

end Pipeline

end Campus
