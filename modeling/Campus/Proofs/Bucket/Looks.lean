import Campus.Proofs.Bucket.Admission

/-! # Looks at a bucket

Two runs of a bucket that differ only in the looks at its level. A look refills the bucket, so the burst caps its level at other
instants; yet the two buckets cannot be told apart by anything that is refilled later. Hence no call is answered otherwise because
somebody looked, and a call that is made later is answered no worse.
-/
namespace Campus.Bucket

open TokenAmount

/-- What the calls that ask for a token are told, in their order. -/
def answers {R : Type} [TokenAmount R] (b : Bucket R) : List Event → List Bool
  | [] => []
  | e :: events => (if e.isTake then [(b.step e).1] else []) ++ (b.step e).2.answers events

/-- A bucket that cannot be told from another from its last refill on: whenever both are refilled they are the same. -/
def Alike (b c : Bucket Rat) : Prop := ∀ now, b.refilledAt ≤ now → c.refill now = b.refill now

variable {b c : Bucket Rat}

/-! ## One event -/

theorem Alike.refl (b : Bucket Rat) : b.Alike b := fun _ _ => rfl

theorem Alike.take_eq (h : b.Alike c) {now : Instant} (hnow : b.refilledAt ≤ now) : c.take now = b.take now := by
  rw [Bucket.take_eq, Bucket.take_eq, h now hnow]

theorem Alike.look (h : b.Alike c) (hb : b.Sound) {now : Instant} (hnow : b.refilledAt ≤ now) : (b.refill now).Alike c := by
  intro u hu
  rw [refilledAt_refill] at hu
  rw [h u (le_trans hnow hu), hb.refill_refill hnow hu]

/-- The level of a bucket that nobody takes from does not fall. -/
theorem Sound.tokens_refill_mono (h : b.Sound) {t u : Instant} (htu : t ≤ u) : (b.refill t).tokens ≤ (b.refill u).tokens := by
  have hspan : seconds (t - b.refilledAt) * b.rate ≤ seconds (u - b.refilledAt) * b.rate :=
    mul_le_mul_of_nonneg_right (seconds_mono (Nat.sub_le_sub_right htu b.refilledAt)) h.rate
  rw [tokens_refill, tokens_refill]
  exact min_le_min_right _ (by linarith)

/-! ## Runs -/

/-- A run with looks and the run without them answer all calls alike, and leave buckets that are alike. -/
theorem Alike.run (h : b.Alike c) (hb : b.Sound) {events : List Event} (horder : InOrder b.refilledAt events) :
    c.answers (events.filter Event.isTake) = b.answers events ∧ (b.after events).Alike (c.after (events.filter Event.isTake)) := by
  induction events generalizing b c with
  | nil => exact ⟨rfl, h⟩
  | cons e events ih =>
    obtain ⟨hfirst, hrest⟩ := inOrder_cons_iff.mp horder
    rw [← refilledAt_step b e] at hrest
    cases e with
    | take now =>
      -- From the first common call on the two runs go through the same buckets.
      have hsame : c.step (.take now) = b.step (.take now) := h.take_eq hfirst
      obtain ⟨hanswers, halike⟩ := ih (.refl _) (hb.step (.take now)) hrest
      rw [List.filter_cons_of_pos rfl]
      constructor
      · rw [answers, answers, hsame, hanswers]
      · change ((b.step _).2.after events).Alike ((c.step _).2.after _)
        rw [hsame]
        exact halike
    | look now =>
      rw [List.filter_cons_of_neg (by simp [Event.isTake])]
      exact ih (h.look hb hfirst) (hb.refill now) hrest

theorem refilledAt_after_le {events : List Event} {now : Instant} (hb : b.refilledAt ≤ now)
    (h : ∀ e ∈ events, e.instant ≤ now) : (b.after events).refilledAt ≤ now := by
  induction events generalizing b with
  | nil => exact hb
  | cons e events ih =>
    refine ih ?_ fun e' he' => h e' (List.mem_cons_of_mem e he')
    rw [refilledAt_step]
    exact h e List.mem_cons_self

theorem Sound.alike_after_looks (hb : b.Sound) {looks : List Event} (horder : InOrder b.refilledAt looks)
    (hlooks : ∀ e ∈ looks, e.isTake = false) : (b.after looks).Alike b := by
  have hnone : looks.filter Event.isTake = [] := List.filter_eq_nil_iff.mpr fun e he => by simp [hlooks e he]
  have halike := ((Alike.refl b).run hb horder).2
  rwa [hnone] at halike

/-- Looking at a bucket with exact amounts changes nothing that a call could notice. Whatever it goes through, its calls are answered as
if nobody had looked, and from then on it holds what it would hold then. To refill it at one instant and then at a later one is to
refill it at the later one. A call that would get a token would also get one later, as long as no other call comes between. -/
theorem looks_unobservable (rate : Rat) (burst : UInt32) (start : Instant) (events : List Event) (horder : InOrder start events) :
    let new : Bucket Rat := full rate burst start
    let calls := events.filter Event.isTake
    let b := new.after events
    new.answers calls = new.answers events ∧
      (∀ now, b.refilledAt ≤ now → (new.after calls).refill now = b.refill now) ∧
      (∀ t u, b.refilledAt ≤ t → t ≤ u → (b.refill t).refill u = b.refill u) ∧
      (∀ t u looks, t ≤ u → (b.take t).1 = true → b.refilledAt ≤ u → InOrder b.refilledAt looks →
        (∀ e ∈ looks, e.isTake = false ∧ e.instant ≤ u) → ((b.after looks).take u).1 = true) := by
  intro new calls b
  have hnew : new.Sound := sound_full rate burst start
  have hb : b.Sound := hnew.after events
  obtain ⟨hanswers, halike⟩ := (Alike.refl new).run hnew horder
  refine ⟨hanswers, halike, fun t u ht hu => hb.refill_refill ht hu, fun t u looks htu htaken hu hlooks hquiet => ?_⟩
  have hlater := hb.alike_after_looks hlooks fun e he => (hquiet e he).1
  have hlast : (b.after looks).refilledAt ≤ u := refilledAt_after_le hu fun e he => (hquiet e he).2
  rw [← hlater.take_eq hlast, ← Bool.not_eq_false, take_eq_false_iff, not_lt]
  rw [← Bool.not_eq_false, take_eq_false_iff, not_lt] at htaken
  exact le_trans htaken (hb.tokens_refill_mono htu)

/-- A bucket of two tokens that gets one every other second. It is looked at while it fills up and when it has been full for long, where
the burst cuts off what had come in since the last call; the calls are answered as without that, and the one that gets its token would
get it after two more looks as well. -/
theorem looks_unobservable_when_full :
    let events : List Event := [.take 0, .look 1000000000, .take 1000000000, .take 2000000000, .look 3000000000, .look 9000000000]
    let new : Bucket Rat := full (1 / 2) 2 0
    let b := new.after events
    InOrder 0 events ∧ new.answers [.take 0, .take 1000000000, .take 2000000000] = new.answers events ∧
      (new.after [.take 0, .take 1000000000, .take 2000000000]).refill 9000000000 = b.refill 9000000000 ∧
      (b.refill 9500000000).refill 10000000000 = b.refill 10000000000 ∧
      (b.take 9000000000).1 = true ∧ ((b.after [.look 9200000000, .look 9900000000]).take 10000000000).1 = true := by
  intro events new b
  have horder : InOrder 0 events := by simp [InOrder, events, Event.instant]
  obtain ⟨hanswers, hlevel, hrefill, hwait⟩ := looks_unobservable (1 / 2) 2 0 events horder
  have htaken : (b.take 9000000000).1 = true := by decide +kernel
  refine ⟨horder, hanswers, hlevel 9000000000 (by decide), hrefill _ _ (by decide) (by decide), htaken, ?_⟩
  refine hwait 9000000000 10000000000 _ (by decide) htaken (by decide) ?_ ?_
  · change InOrder 9000000000 _
    simp [InOrder, Event.instant]
  · simp [Event.isTake, Event.instant]

end Campus.Bucket
