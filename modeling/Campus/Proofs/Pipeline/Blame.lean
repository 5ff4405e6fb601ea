import Campus.Proofs.Pipeline.Places

/-! # Ends that count against a breaker

The failures of a breaker rise at the end of a call only, and only for two reasons: the call ended with a fault that counts, or it held
the probe and came to no end of its own. A breaker that never sees such an end stays closed, without failures.
-/
namespace Campus.Breaker

variable {b : Breaker} {now : Instant} {p : Permit} {v : Verdict}

/-- An end of a call that counts against a breaker. -/
inductive Blames (b : Breaker) (p : Permit) : Verdict → Prop
  | failed {fault : Fault} (h : b.counts fault = true) : Blames b p (.failed fault)
  | unfinished (h : p.probe = true) : Blames b p .unfinished

theorem failures_acquire (b : Breaker) (now : Instant) : (b.acquire now).2.1.failures = b.failures := by
  unfold acquire
  cases b.phase with
  | closed => rfl
  | opened => dsimp only; split <;> rfl
  | halfOpen => dsimp only; split <;> rfl

theorem failures_settle_ok_le (b : Breaker) (now : Instant) (probe : Bool) :
    (b.settle now probe false).1.failures ≤ b.failures := by
  have hzero : (0 : UInt32) ≤ b.failures := UInt32.le_iff_toNat_le.mpr (Nat.zero_le _)
  cases probe with
  | true => exact hzero
  | false =>
    by_cases hphase : b.phase = .closed
    · rw [settle_plain_ok hphase]
      exact hzero
    · rw [settle_late hphase]
      exact UInt32.le_refl _

/-- The failures of a breaker rise with ends only that count against it. -/
theorem blames_of_failures_lt (h : b.failures < (b.conclude now p v).1.failures) : b.Blames p v := by
  cases v with
  | succeeded summary =>
    exact absurd (UInt32.lt_of_lt_of_le h (failures_settle_ok_le b now p.probe)) (UInt32.lt_irrefl _)
  | failed fault =>
    by_cases hcounts : b.counts fault = true
    · exact .failed hcounts
    · have hsame : (b.conclude now p (.failed fault)).1.failures = b.failures := by
        simp only [conclude, record, hcounts]
        cases p.probe <;> rfl
      rw [hsame] at h
      exact absurd h (UInt32.lt_irrefl _)
  | unfinished =>
    by_cases hprobe : p.probe = true
    · exact .unfinished hprobe
    · have hsame : (b.conclude now p .unfinished).1 = b := by simp [conclude, drop, hprobe]
      rw [hsame] at h
      exact absurd h (UInt32.lt_irrefl _)

theorem sameRules_conclude (b : Breaker) (now : Instant) (p : Permit) (v : Verdict) :
    b.SameRules (b.conclude now p v).1 := by
  cases v with
  | succeeded summary => exact sameRules_record b now p none
  | failed fault => exact sameRules_record b now p (some fault)
  | unfinished => exact sameRules_drop b now p

/-! ## Unhurt breakers -/

structure Unhurt (b : Breaker) : Prop where
  phase : b.phase = .closed
  failures : b.failures = 0

theorem unhurt_fresh (name : String) (settings : BreakerSettings) (counts : Fault → Bool) :
    (fresh name settings counts).Unhurt := ⟨rfl, rfl⟩

/-- An end that does not count against a breaker leaves it unhurt. -/
theorem Unhurt.conclude (h : b.Unhurt) (hv : ¬b.Blames ⟨false⟩ v) : (b.conclude now ⟨false⟩ v).1.Unhurt := by
  cases v with
  | succeeded summary =>
    simp only [Breaker.conclude, record, settle_plain_ok h.phase]
    exact ⟨h.phase, rfl⟩
  | failed fault =>
    have hcounts : ¬b.counts fault = true := fun hcounts => hv (.failed hcounts)
    simp only [Breaker.conclude, record, hcounts]
    exact h
  | unfinished => exact h

end Campus.Breaker
