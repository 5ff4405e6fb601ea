import Campus.Bucket
import Mathlib.Algebra.Order.Field.Rat
import Mathlib.Tactic.Linarith
import Mathlib.Tactic.Positivity
import Mathlib.Tactic.Ring

/-! # Levels of a bucket

Buckets with exact amounts. What a bucket holds lies between nothing and its burst at every instant, and it grows no faster than the
rate. To refill a bucket early changes nothing that is seen later.
-/
namespace Campus.Bucket

open TokenAmount

/-! ## Spans in seconds -/

theorem seconds_eq (s : Span) : (seconds s : Rat) = (s : Rat) / 1000000000 := rfl

theorem seconds_nonneg (s : Span) : (0 : Rat) ≤ seconds s := by
  rw [seconds_eq]
  positivity

theorem seconds_mono {s t : Span} (h : s ≤ t) : (seconds s : Rat) ≤ seconds t := by
  have hcast : (s : Rat) ≤ t := by exact_mod_cast h
  rw [seconds_eq, seconds_eq]
  linarith

/-- The seconds between two instants, counted through one between them. -/
theorem seconds_between {s t u : Instant} (hst : s ≤ t) (htu : t ≤ u) :
    (seconds (u - s) : Rat) = seconds (t - s) + seconds (u - t) := by
  rw [seconds_eq, seconds_eq, seconds_eq, Nat.cast_sub hst, Nat.cast_sub htu, Nat.cast_sub (Nat.le_trans hst htu)]
  ring

/-! ## Refilling -/

/-- A bucket that holds no less than nothing and no more than its burst, and does not leak. -/
structure Sound (b : Bucket Rat) : Prop where
  rate : 0 ≤ b.rate
  nonneg : 0 ≤ b.tokens
  le_burst : b.tokens ≤ (b.burst.toNat : Rat)

variable {b : Bucket Rat} {now : Instant}

theorem rate_full {rate : Rat} (h : 0 ≤ rate) (burst : UInt32) (start : Instant) :
    (full rate burst start : Bucket Rat).rate = rate := if_pos h

theorem sound_full (rate : Rat) (burst : UInt32) (start : Instant) : (full rate burst start : Bucket Rat).Sound where
  rate := by
    change (0 : Rat) ≤ if 0 ≤ rate then rate else 0
    split
    · assumption
    · rfl
  nonneg := Nat.cast_nonneg burst.toNat
  le_burst := le_refl (burst.toNat : Rat)

@[simp] theorem rate_refill (b : Bucket Rat) (now : Instant) : (b.refill now).rate = b.rate := rfl

@[simp] theorem burst_refill (b : Bucket Rat) (now : Instant) : (b.refill now).burst = b.burst := rfl

@[simp] theorem refilledAt_refill (b : Bucket Rat) (now : Instant) : (b.refill now).refilledAt = now := rfl

theorem tokens_refill (b : Bucket Rat) (now : Instant) :
    (b.refill now).tokens = min (b.tokens + seconds (now - b.refilledAt) * b.rate) (b.burst.toNat : Rat) := by
  rw [min_def]
  rfl

theorem Sound.refill (h : b.Sound) (now : Instant) : (b.refill now).Sound where
  rate := h.rate
  nonneg := by
    have hgain : 0 ≤ seconds (now - b.refilledAt) * b.rate := mul_nonneg (seconds_nonneg _) h.rate
    rw [tokens_refill]
    apply le_min
    · linarith [h.nonneg]
    · exact Nat.cast_nonneg _
  le_burst := by
    rw [tokens_refill]
    exact min_le_right _ _

/-- A refill adds no more than the rate gives in the time since the last one. -/
theorem tokens_refill_le (b : Bucket Rat) (now : Instant) :
    (b.refill now).tokens ≤ b.tokens + seconds (now - b.refilledAt) * b.rate := by
  rw [tokens_refill]
  exact min_le_left _ _

/-- At the instant of the last refill there is nothing to add. -/
theorem Sound.refill_self (h : b.Sound) : b.refill b.refilledAt = b := by
  have htokens : (b.refill b.refilledAt).tokens = b.tokens := by
    rw [tokens_refill, Nat.sub_self, seconds_eq]
    simpa using h.le_burst
  cases b
  simp only [Bucket.refill] at htokens ⊢
  rw [htokens]

/-- A refill between two others changes nothing: what the burst cuts off early would be cut off later. -/
theorem Sound.refill_refill (h : b.Sound) {t u : Instant} (ht : b.refilledAt ≤ t) (hu : t ≤ u) :
    (b.refill t).refill u = b.refill u := by
  have htokens : ((b.refill t).refill u).tokens = (b.refill u).tokens := by
    have hgain : 0 ≤ seconds (u - t) * b.rate := mul_nonneg (seconds_nonneg _) h.rate
    have hsplit : seconds (u - b.refilledAt) * b.rate =
        seconds (t - b.refilledAt) * b.rate + seconds (u - t) * b.rate := by
      rw [seconds_between ht hu]
      ring
    simp only [tokens_refill, rate_refill, burst_refill, refilledAt_refill]
    rw [hsplit, ← add_assoc, min_add, min_assoc, min_eq_right (a := (b.burst.toNat : Rat) + _) (by linarith)]
  cases b
  simp only [Bucket.refill] at htokens ⊢
  rw [htokens]

/-- The whole tokens of a level are its floor: the level is not below nothing, and no count above the burst has to be written down. -/
theorem Sound.whole_tokens (h : b.Sound) : ((whole b.tokens).toNat : Int) = b.tokens.floor ∧ whole b.tokens ≤ b.burst := by
  have hnonneg : 0 ≤ b.tokens.floor := Rat.le_floor_iff.mpr (by simpa using h.nonneg)
  have hburst : b.tokens.floor ≤ b.burst.toNat := by
    have hfloor := Rat.floor_monotone h.le_burst
    rwa [← Int.cast_natCast, Rat.floor_intCast] at hfloor
  have hlt : b.tokens.floor.toNat < 2 ^ 32 := by
    have hsize := b.burst.toNat_lt
    omega
  have hcount : (whole b.tokens).toNat = b.tokens.floor.toNat := UInt32.toNat_ofNat_of_lt hlt
  refine ⟨by rw [hcount, Int.toNat_of_nonneg hnonneg], ?_⟩
  rw [UInt32.le_iff_toNat_le, hcount]
  omega

/-! ## Taking a token -/

theorem take_eq (b : Bucket Rat) (now : Instant) :
    b.take now = if 1 ≤ (b.refill now).tokens then
      (true, { b.refill now with tokens := (b.refill now).tokens - 1 }) else (false, b.refill now) := rfl

/-- A token is refused exactly when there is no whole one. -/
theorem take_eq_false_iff (b : Bucket Rat) (now : Instant) : (b.take now).1 = false ↔ (b.refill now).tokens < 1 := by
  rw [take_eq]
  split
  case isTrue h => simpa using h
  case isFalse h => simpa using h

theorem tokens_take (b : Bucket Rat) (now : Instant) :
    (b.take now).2.tokens + (if (b.take now).1 then 1 else 0) = (b.refill now).tokens := by
  rw [take_eq]
  split
  case isTrue => exact sub_add_cancel _ _
  case isFalse => exact add_zero _

@[simp] theorem rate_take (b : Bucket Rat) (now : Instant) : (b.take now).2.rate = b.rate := by
  rw [take_eq]
  split <;> rfl

@[simp] theorem burst_take (b : Bucket Rat) (now : Instant) : (b.take now).2.burst = b.burst := by
  rw [take_eq]
  split <;> rfl

@[simp] theorem refilledAt_take (b : Bucket Rat) (now : Instant) : (b.take now).2.refilledAt = now := by
  rw [take_eq]
  split <;> rfl

theorem Sound.take (h : b.Sound) (now : Instant) : (b.take now).2.Sound := by
  have hrefilled := h.refill now
  rw [take_eq]
  split
  case isTrue hwhole =>
    refine ⟨h.rate, ?_, ?_⟩
    · exact sub_nonneg.mpr hwhole
    · have hle := hrefilled.le_burst
      simp only [burst_refill] at hle ⊢
      linarith
  case isFalse => exact hrefilled

end Campus.Bucket
