import Campus.Breaker.Run
import Campus.Proofs.Breaker.Fields

/-! # The permits of a run

However permits are given out, settled and dropped while time passes, the fields of a breaker stay consistent with the probes
that are out: at most one, and one exactly while the breaker is half open.
-/
namespace Campus.Breaker.Run

def countProbes : List (String × Permit) → Nat
  | [] => 0
  | p :: rest => weight p.2 + countProbes rest

@[simp] theorem countProbes_nil : countProbes [] = 0 := rfl

@[simp] theorem countProbes_cons (p : String × Permit) (rest : List (String × Permit)) :
    countProbes (p :: rest) = weight p.2 + countProbes rest := rfl

def probes (r : Run) : Nat := countProbes r.permits

/-- Every name holds one permit, and the fields agree with the permits that are out. -/
structure Sound (r : Run) : Prop where
  names : (r.permits.map Prod.fst).Nodup
  fields : r.breaker.Consistent r.now r.probes

/-! ## What an event does to a run -/

section Step

variable {r : Run} {name : String} {p : Permit}

theorem step_acquire_rejected (h : (r.breaker.acquire r.now).1 = none) :
    (r.step (.acquire name)).1 = { r with breaker := (r.breaker.acquire r.now).2.1 } := by
  rcases hres : r.breaker.acquire r.now with ⟨_ | q, b, notices⟩
  · simp [step, hres]
  · simp [hres] at h

theorem step_acquire_new (h : (r.breaker.acquire r.now).1 = some p) (hold : r.permit? name = none) :
    (r.step (.acquire name)).1 =
      { r with breaker := (r.breaker.acquire r.now).2.1, permits := (name, p) :: r.without name } := by
  rcases hres : r.breaker.acquire r.now with ⟨_ | q, b, notices⟩
  · simp [hres] at h
  · obtain rfl : q = p := by simpa [hres] using h
    simp [step, hres, hold]

theorem step_acquire_again {old : Permit} (h : (r.breaker.acquire r.now).1 = some p)
    (hold : r.permit? name = some old) :
    (r.step (.acquire name)).1 =
      { r with breaker := ((r.breaker.acquire r.now).2.1.drop r.now old).1, permits := (name, p) :: r.without name } := by
  rcases hres : r.breaker.acquire r.now with ⟨_ | q, b, notices⟩
  · simp [hres] at h
  · obtain rfl : q = p := by simpa [hres] using h
    simp [step, hres, hold]

theorem step_record (h : r.permit? name = some p) (fault : Option Fault) :
    (r.step (.record name fault)).1 =
      { r with breaker := (r.breaker.record r.now p fault).1, permits := r.without name } := by
  simp [step, h]

theorem step_record_unknown (h : r.permit? name = none) (fault : Option Fault) :
    (r.step (.record name fault)).1 = r := by
  simp [step, h]

theorem step_drop (h : r.permit? name = some p) :
    (r.step (.drop name)).1 = { r with breaker := (r.breaker.drop r.now p).1, permits := r.without name } := by
  simp [step, h]

theorem step_drop_unknown (h : r.permit? name = none) : (r.step (.drop name)).1 = r := by
  simp [step, h]

end Step

/-! ## Permits under names -/

theorem without_of_permit?_eq_none {r : Run} {name : String} (h : r.permit? name = none) :
    r.without name = r.permits := by
  simp only [permit?, Option.map_eq_none_iff, List.find?_eq_none, beq_iff_eq] at h
  exact List.filter_eq_self.mpr fun p hp => by simpa using h p hp

theorem nodup_without {r : Run} (h : (r.permits.map Prod.fst).Nodup) (name : String) :
    ((r.without name).map Prod.fst).Nodup :=
  h.sublist (List.filter_sublist.map Prod.fst)

theorem nodup_cons_without {r : Run} (h : (r.permits.map Prod.fst).Nodup) (name : String) (p : Permit) :
    (((name, p) :: r.without name).map Prod.fst).Nodup := by
  rw [List.map_cons, List.nodup_cons]
  exact ⟨by simp [without], nodup_without h name⟩

theorem countProbes_without {permits : List (String × Permit)} (hn : (permits.map Prod.fst).Nodup) {name : String}
    {p : Permit} (h : (permits.find? fun q => q.1 == name).map Prod.snd = some p) :
    countProbes (permits.filter fun q => q.1 != name) + weight p = countProbes permits := by
  induction permits with
  | nil => simp at h
  | cons q rest ih =>
    obtain ⟨hq, hrest⟩ := List.nodup_cons.mp hn
    by_cases hname : q.1 = name
    · have hp : q.2 = p := by simpa [hname] using h
      -- The name is in use once, so the permits behind it are all kept.
      have hkeep : rest.filter (fun q => q.1 != name) = rest := by
        refine List.filter_eq_self.mpr fun r hr => ?_
        have hne : r.1 ≠ name := fun he => hq (List.mem_map.mpr ⟨r, hr, he.trans hname.symm⟩)
        simpa using hne
      simp [hname, hkeep, hp, Nat.add_comm]
    · have htail := ih hrest (by simpa [hname] using h)
      have hfilter : (q :: rest).filter (fun q => q.1 != name) = q :: rest.filter fun q => q.1 != name := by
        simp [hname]
      rw [hfilter, countProbes_cons, countProbes_cons]
      omega

theorem probes_without {r : Run} (h : r.Sound) {name : String} {p : Permit} (hp : r.permit? name = some p) :
    countProbes (r.without name) + weight p = r.probes :=
  countProbes_without h.names hp

/-! ## One event, then any number -/

/-- A permit that is settled or dropped takes its share of the probes with it. -/
theorem sound_without {r : Run} (h : r.Sound) {name : String} {p : Permit} (hp : r.permit? name = some p) {b : Breaker}
    (hb : r.breaker.Consistent r.now (countProbes (r.without name) + weight p) →
      b.Consistent r.now (countProbes (r.without name))) :
    ({ r with breaker := b, permits := r.without name } : Run).Sound where
  names := nodup_without h.names name
  fields := hb (by rw [probes_without h hp]; exact h.fields)

/-- A permit that is given out takes the place of the one under its name. -/
theorem sound_acquire {r : Run} (h : r.Sound) (name : String) : (r.step (.acquire name)).1.Sound := by
  obtain ⟨hnone, hb⟩ | ⟨p, hsome, hb⟩ := h.fields.acquire
  · rw [step_acquire_rejected hnone, hb]
    exact h
  have hnames := nodup_cons_without h.names name p
  cases hold : r.permit? name with
  | none =>
    rw [step_acquire_new hsome hold]
    refine ⟨hnames, ?_⟩
    dsimp only [probes]
    rw [countProbes_cons, Nat.add_comm, without_of_permit?_eq_none hold]
    exact hb
  | some old =>
    rw [step_acquire_again hsome hold]
    refine ⟨hnames, ?_⟩
    dsimp only [probes]
    rw [countProbes_cons, Nat.add_comm]
    refine Consistent.drop ?_
    rwa [Nat.add_right_comm, probes_without h hold]

theorem sound_step {r : Run} (h : r.Sound) (e : Event) : (r.step e).1.Sound := by
  cases e with
  | acquire name => exact sound_acquire h name
  | record name fault =>
    cases hp : r.permit? name with
    | none =>
      rw [step_record_unknown hp]
      exact h
    | some p =>
      rw [step_record hp]
      exact sound_without h hp fun hc => hc.record fault
  | drop name =>
    cases hp : r.permit? name with
    | none =>
      rw [step_drop_unknown hp]
      exact h
    | some p =>
      rw [step_drop hp]
      exact sound_without h hp fun hc => hc.drop
  | wait span => exact ⟨h.names, h.fields.wait span⟩

theorem sound_after {r : Run} (h : r.Sound) (events : List Event) : (r.after events).Sound := by
  induction events generalizing r with
  | nil => exact h
  | cons e events ih => exact ih (sound_step h e)

theorem sound_fresh {b : Breaker} (h : b.Consistent 0 0) : (fresh b).Sound := ⟨List.nodup_nil, h⟩

theorem sameRules_step (r : Run) (e : Event) : r.breaker.SameRules (r.step e).1.breaker := by
  cases e with
  | acquire name =>
    have hacq := sameRules_acquire r.breaker r.now
    cases hres : (r.breaker.acquire r.now).1 with
    | none =>
      rw [step_acquire_rejected hres]
      exact hacq
    | some p =>
      cases hold : r.permit? name with
      | none =>
        rw [step_acquire_new hres hold]
        exact hacq
      | some old =>
        rw [step_acquire_again hres hold]
        exact hacq.trans (sameRules_drop _ r.now old)
  | record name fault =>
    cases hp : r.permit? name with
    | none =>
      rw [step_record_unknown hp]
      exact .refl _
    | some p =>
      rw [step_record hp]
      exact sameRules_record r.breaker r.now p fault
  | drop name =>
    cases hp : r.permit? name with
    | none =>
      rw [step_drop_unknown hp]
      exact .refl _
    | some p =>
      rw [step_drop hp]
      exact sameRules_drop r.breaker r.now p
  | wait span => exact .refl _

theorem sameRules_after (r : Run) (events : List Event) : r.breaker.SameRules (r.after events).breaker := by
  induction events generalizing r with
  | nil => exact .refl _
  | cons e events ih => exact (sameRules_step r e).trans (ih (r.step e).1)

/-- In every state that a breaker can reach, its phase tells whether a probe is out, of which there is never more than one;
the instant of its opening is known unless it is closed, and lies in the past; and the failures in a row stay below the
threshold while it is closed and are not below it otherwise. -/
theorem phase_agrees_with_permits (name : String) (settings : BreakerSettings) (counts : Fault → Bool)
    (events : List Event) :
    let r := (fresh (.fresh name settings counts)).after events
    let b := r.breaker
    let threshold := max settings.threshold.toNat 1
    (b.phase = .halfOpen ↔ b.probing = true) ∧ (b.probing = true ↔ r.probes = 1) ∧ r.probes ≤ 1 ∧
      (b.openedAt = none ↔ b.phase = .closed) ∧ (∀ t, b.openedAt = some t → t ≤ r.now) ∧
      (b.phase = .closed → b.failures.toNat < threshold) ∧ (b.phase ≠ .closed → threshold ≤ b.failures.toNat) := by
  intro r b threshold
  have hsound : r.Sound := sound_after (sound_fresh (consistent_fresh name settings counts 0)) events
  have hrules := sameRules_after (fresh (.fresh name settings counts)) events
  have hthreshold : b.settings.threshold.toNat = threshold := by
    rw [hrules.settings]
    exact toNat_threshold_fresh name settings counts
  have h := hsound.fields
  refine ⟨h.halfOpen_iff, h.probing_iff, h.probes_le_one, h.openedAt_eq_none_iff, h.openedAt_le, ?_, ?_⟩
  · intro hp
    rw [← hthreshold]
    exact UInt32.lt_iff_toNat_lt.mp (h.failures_lt hp)
  · intro hp
    rw [← hthreshold]
    exact UInt32.le_iff_toNat_le.mp (h.le_failures hp)

end Campus.Breaker.Run
