import Campus.Breaker

/-! # The fields of a breaker

What the fields of a breaker say about each other and about the probes that are out. Each operation keeps this, given the
number of probes before and after it: a permit that is given out adds to it, one that is settled or dropped takes from it.
-/
namespace Campus.Breaker

theorem toNat_oneMore (n : UInt32) : (oneMore n).toNat = min (n.toNat + 1) (UInt32.size - 1) := by
  unfold oneMore
  split
  case isTrue h =>
    rw [UInt32.toNat_add, UInt32.toNat_one, Nat.mod_eq_of_lt h]
    omega
  case isFalse h =>
    have hn := n.toNat_lt_size
    omega

theorem le_oneMore (n : UInt32) : n ≤ oneMore n := by
  have hn := n.toNat_lt_size
  rw [UInt32.le_iff_toNat_le, toNat_oneMore]
  omega

def probed (b : Breaker) : Breaker := { b with phase := .halfOpen, probing := true }

def recovered (b : Breaker) : Breaker := { b with phase := .closed, failures := 0, openedAt := none, probing := false }

def reopened (b : Breaker) (now : Instant) : Breaker :=
  { b with phase := .opened, failures := oneMore b.failures, openedAt := some now, probing := false }

/-! ## What each operation does, phase by phase -/

section Operations

variable {b : Breaker} {now : Instant}

theorem acquire_closed (h : b.phase = .closed) : b.acquire now = (some ⟨false⟩, b, []) := by
  simp [acquire, h]

theorem acquire_cooled (h : b.phase = .opened) (hc : b.isCooled now = true) :
    b.acquire now = (some ⟨true⟩, b.probed, [.probing b.name]) := by
  simp [acquire, probed, h, hc]

theorem acquire_cooling (h : b.phase = .opened) (hc : b.isCooled now = false) :
    b.acquire now = (none, b, [.rejected b.name]) := by
  simp [acquire, h, hc]

theorem acquire_probing (h : b.phase = .halfOpen) (hp : b.probing = true) :
    b.acquire now = (none, b, [.rejected b.name]) := by
  simp [acquire, h, hp]

theorem breaker_of_rejected (h : (b.acquire now).1 = none) : (b.acquire now).2.1 = b := by
  unfold acquire at h ⊢
  cases hp : b.phase with
  | closed => simp [hp] at h
  | opened =>
    by_cases hc : b.isCooled now = true
    · simp [hp, hc] at h
    · simp [hc]
  | halfOpen =>
    by_cases hb : b.probing = true
    · simp [hb]
    · simp [hp, hb] at h

theorem settle_probe_ok : b.settle now true false = (b.recovered, [.closed b.name]) := rfl

theorem settle_probe_failed : b.settle now true true = (b.reopened now, [.reopened b.name]) := rfl

/-- Outside the closed phase the result of a call that was no probe changes nothing. -/
theorem settle_late (h : b.phase ≠ .closed) (failed : Bool) : b.settle now false failed = (b, []) := by
  simp [settle, h]

theorem settle_plain_ok (h : b.phase = .closed) : b.settle now false false = ({ b with failures := 0 }, []) := by
  simp [settle, h]

theorem settle_plain_trips (h : b.phase = .closed) (ht : b.settings.threshold ≤ oneMore b.failures) :
    b.settle now false true = ({ b with phase := .opened, failures := oneMore b.failures, openedAt := some now },
      [.opened b.name (oneMore b.failures).toNat]) := by
  simp [settle, h, ht]

theorem settle_plain_counts (h : b.phase = .closed) (ht : ¬ b.settings.threshold ≤ oneMore b.failures) :
    b.settle now false true = ({ b with failures := oneMore b.failures }, []) := by
  simp [settle, h, ht]

end Operations

/-! ## The name and the rules stay -/

/-- Two breakers of one name, with the same settings and the same faults that count. -/
structure SameRules (b c : Breaker) : Prop where
  name : c.name = b.name
  settings : c.settings = b.settings
  counts : c.counts = b.counts

theorem SameRules.refl (b : Breaker) : b.SameRules b := ⟨rfl, rfl, rfl⟩

theorem SameRules.trans {a b c : Breaker} (h : a.SameRules b) (k : b.SameRules c) : a.SameRules c :=
  ⟨k.name.trans h.name, k.settings.trans h.settings, k.counts.trans h.counts⟩

theorem sameRules_acquire (b : Breaker) (now : Instant) : b.SameRules (b.acquire now).2.1 := by
  unfold acquire
  cases b.phase with
  | closed => exact .refl b
  | opened => dsimp only; split <;> exact ⟨rfl, rfl, rfl⟩
  | halfOpen => dsimp only; split <;> exact ⟨rfl, rfl, rfl⟩

theorem sameRules_settle (b : Breaker) (now : Instant) (probe failed : Bool) :
    b.SameRules (b.settle now probe failed).1 := by
  unfold settle
  dsimp only
  repeat' split
  all_goals exact ⟨rfl, rfl, rfl⟩

theorem sameRules_record (b : Breaker) (now : Instant) (p : Permit) (f : Option Fault) :
    b.SameRules (b.record now p f).1 := by
  unfold record
  split
  · exact sameRules_settle b now p.probe false
  · split
    · exact sameRules_settle b now p.probe true
    · split <;> exact ⟨rfl, rfl, rfl⟩

theorem sameRules_drop (b : Breaker) (now : Instant) (p : Permit) : b.SameRules (b.drop now p).1 := by
  unfold drop
  split
  · exact sameRules_settle b now true true
  · exact .refl b

/-! ## Consistent fields -/

def weight (p : Permit) : Nat := if p.probe then 1 else 0

/-- The fields agree with each other at an instant, while so many probes are out. -/
structure Consistent (b : Breaker) (now : Instant) (probes : Nat) : Prop where
  threshold_pos : 0 < b.settings.threshold
  halfOpen_iff : b.phase = .halfOpen ↔ b.probing = true
  probes_eq : probes = if b.probing then 1 else 0
  openedAt_eq_none_iff : b.openedAt = none ↔ b.phase = .closed
  openedAt_le : ∀ t, b.openedAt = some t → t ≤ now
  failures_lt : b.phase = .closed → b.failures < b.settings.threshold
  le_failures : b.phase ≠ .closed → b.settings.threshold ≤ b.failures

theorem toNat_threshold_fresh (name : String) (settings : BreakerSettings) (counts : Fault → Bool) :
    (fresh name settings counts).settings.threshold.toNat = max settings.threshold.toNat 1 := by
  unfold fresh
  dsimp only
  split
  case isTrue h => simp [h]
  case isFalse h =>
    have h0 : settings.threshold.toNat ≠ 0 := fun h0 => h (UInt32.toNat_inj.mp h0)
    omega

theorem consistent_fresh (name : String) (settings : BreakerSettings) (counts : Fault → Bool) (now : Instant) :
    (fresh name settings counts).Consistent now 0 := by
  have hpos : 0 < (fresh name settings counts).settings.threshold := by
    rw [UInt32.lt_iff_toNat_lt, toNat_threshold_fresh]
    exact Nat.lt_of_lt_of_le Nat.one_pos (Nat.le_max_right _ _)
  exact {
    threshold_pos := hpos
    halfOpen_iff := by simp [fresh]
    probes_eq := by simp [fresh]
    openedAt_eq_none_iff := by simp [fresh]
    openedAt_le := by simp [fresh]
    failures_lt := fun _ => hpos
    le_failures := fun h => absurd rfl h }

namespace Consistent

variable {b : Breaker} {now : Instant} {n : Nat}

theorem probes_le_one (h : b.Consistent now n) : n ≤ 1 := by
  rw [h.probes_eq]
  split <;> omega

theorem probing_iff (h : b.Consistent now n) : b.probing = true ↔ n = 1 := by
  rw [h.probes_eq]
  cases b.probing <;> simp

theorem probing_eq_false (h : b.Consistent now n) (hp : b.phase ≠ .halfOpen) : b.probing = false :=
  Bool.eq_false_iff.mpr fun hb => hp (h.halfOpen_iff.mpr hb)

theorem wait (h : b.Consistent now n) (span : Span) : b.Consistent (now + span) n :=
  { h with openedAt_le := fun t ht => Nat.le_trans (h.openedAt_le t ht) (Nat.le_add_right now span) }

/-- A call that is let through adds its permit to those that are out; one that is rejected leaves the breaker as it is. -/
theorem acquire (h : b.Consistent now n) :
    ((b.acquire now).1 = none ∧ (b.acquire now).2.1 = b) ∨
      ∃ p, (b.acquire now).1 = some p ∧ (b.acquire now).2.1.Consistent now (n + weight p) := by
  cases hp : b.phase with
  | closed =>
    rw [acquire_closed hp]
    exact .inr ⟨⟨false⟩, rfl, h⟩
  | opened =>
    cases hc : b.isCooled now with
    | false =>
      rw [acquire_cooling hp hc]
      exact .inl ⟨rfl, rfl⟩
    | true =>
      rw [acquire_cooled hp hc]
      have hidle : b.probing = false := h.probing_eq_false (by simp [hp])
      have hnone := h.openedAt_eq_none_iff
      refine .inr ⟨⟨true⟩, rfl, ?_⟩
      exact { h with
        halfOpen_iff := by simp [probed]
        probes_eq := by simp [probed, weight, h.probes_eq, hidle]
        openedAt_eq_none_iff := by simpa [probed, hp] using hnone
        failures_lt := by simp [probed]
        le_failures := fun _ => h.le_failures (by simp [hp]) }
  | halfOpen =>
    rw [acquire_probing hp (h.halfOpen_iff.mp hp)]
    exact .inl ⟨rfl, rfl⟩

theorem settle_probe (h : b.Consistent now (n + 1)) (failed : Bool) : (b.settle now true failed).1.Consistent now n := by
  have hn : n = 0 := by have := h.probes_le_one; omega
  have hhalf : b.phase = .halfOpen := h.halfOpen_iff.mpr (h.probing_iff.mpr (by omega))
  cases failed with
  | false =>
    rw [settle_probe_ok]
    exact { h with
      halfOpen_iff := by simp [recovered]
      probes_eq := by simp [recovered, hn]
      openedAt_eq_none_iff := by simp [recovered]
      openedAt_le := by simp [recovered]
      failures_lt := fun _ => h.threshold_pos
      le_failures := by simp [recovered] }
  | true =>
    rw [settle_probe_failed]
    exact { h with
      halfOpen_iff := by simp [reopened]
      probes_eq := by simp [reopened, hn]
      openedAt_eq_none_iff := by simp [reopened]
      openedAt_le := by simp [reopened]
      failures_lt := by simp [reopened]
      le_failures := fun _ => UInt32.le_trans (h.le_failures (by simp [hhalf])) (le_oneMore b.failures) }

/-- The result of a call that was no probe takes no probe away. -/
theorem settle_plain (h : b.Consistent now n) (failed : Bool) : (b.settle now false failed).1.Consistent now n := by
  by_cases hp : b.phase = .closed
  case neg =>
    rw [settle_late hp]
    exact h
  have hidle : b.probing = false := h.probing_eq_false (by simp [hp])
  cases failed with
  | false =>
    rw [settle_plain_ok hp]
    exact { h with
      failures_lt := fun _ => h.threshold_pos
      le_failures := fun hn => absurd hp hn }
  | true =>
    by_cases ht : b.settings.threshold ≤ oneMore b.failures
    · rw [settle_plain_trips hp ht]
      exact { h with
        halfOpen_iff := by simp [hidle]
        openedAt_eq_none_iff := by simp
        openedAt_le := by simp
        failures_lt := by simp
        le_failures := fun _ => ht }
    · rw [settle_plain_counts hp ht]
      exact { h with
        failures_lt := fun _ => UInt32.not_le.mp ht
        le_failures := fun hn => absurd hp hn }

/-- A probe whose place is given back is out no longer. -/
theorem release (h : b.Consistent now (n + 1)) : b.release.1.Consistent now n := by
  have hn : n = 0 := by have := h.probes_le_one; omega
  have hhalf : b.phase = .halfOpen := h.halfOpen_iff.mpr (h.probing_iff.mpr (by omega))
  have hopen : b.openedAt ≠ none := by
    rw [ne_eq, h.openedAt_eq_none_iff, hhalf]
    decide
  exact { h with
    halfOpen_iff := by simp [Breaker.release, hhalf]
    probes_eq := by simp [Breaker.release, hn]
    openedAt_eq_none_iff := by simpa [Breaker.release, hhalf] using hopen
    failures_lt := by simp [Breaker.release, hhalf]
    le_failures := fun _ => h.le_failures (by simp [hhalf]) }

theorem record {p : Permit} (h : b.Consistent now (n + weight p)) (f : Option Fault) :
    (b.record now p f).1.Consistent now n := by
  obtain ⟨_ | _⟩ := p
  · have h0 : b.Consistent now n := h
    cases f with
    | none => exact h0.settle_plain false
    | some f =>
      unfold Breaker.record
      dsimp only
      split
      · exact h0.settle_plain true
      · exact h0
  · have h1 : b.Consistent now (n + 1) := h
    cases f with
    | none => exact h1.settle_probe false
    | some f =>
      unfold Breaker.record
      dsimp only
      split
      · exact h1.settle_probe true
      · exact h1.release

theorem drop {p : Permit} (h : b.Consistent now (n + weight p)) : (b.drop now p).1.Consistent now n := by
  obtain ⟨_ | _⟩ := p
  · exact h
  · exact Consistent.settle_probe h true

end Consistent

end Campus.Breaker
