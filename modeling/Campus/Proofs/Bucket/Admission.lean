import Campus.Proofs.Bucket.Level

/-! # How many calls a bucket admits

Runs of a bucket: calls that take a token and looks at the level, one after the other. Whatever a token was taken for in a span of
time was in the bucket at its beginning or has come in since, so no span admits more calls than the burst and what the rate gives
in it. A full bucket admits as many calls at once as its burst, and one without a rate never admits more.
-/
namespace Campus.Bucket

open TokenAmount

inductive Event where
  /-- A call asks for a token. -/
  | take (now : Instant)
  /-- Somebody asks how many tokens there are. -/
  | look (now : Instant)
  deriving DecidableEq, Repr

namespace Event

def instant : Event → Instant
  | take now | look now => now

def isTake : Event → Bool
  | take _ => true
  | look _ => false

end Event

section Runs

variable {R : Type} [TokenAmount R]

/-- Whether an event gets a token, and the bucket after it. -/
def step (b : Bucket R) : Event → Bool × Bucket R
  | .take now => b.take now
  | .look now => (false, (b.available now).2)

def after (b : Bucket R) (events : List Event) : Bucket R := events.foldl (fun b e => (b.step e).2) b

/-- The instants at which a token was taken, in order. -/
def admitted (b : Bucket R) : List Event → List Instant
  | [] => []
  | e :: events => (if (b.step e).1 then [e.instant] else []) ++ (b.step e).2.admitted events

end Runs

/-- Events that come in order, none of them before an instant. -/
def InOrder (start : Instant) (events : List Event) : Prop := (start :: events.map Event.instant).Pairwise (· ≤ ·)

theorem InOrder.le {start : Instant} {events : List Event} (h : InOrder start events) {e : Event} (he : e ∈ events) :
    start ≤ e.instant := (List.pairwise_cons.mp h).1 e.instant (List.mem_map_of_mem he)

theorem inOrder_cons_iff {start : Instant} {e : Event} {events : List Event} :
    InOrder start (e :: events) ↔ start ≤ e.instant ∧ InOrder e.instant events := by
  rw [InOrder, List.map_cons, List.pairwise_cons]
  constructor
  · intro h
    exact ⟨h.1 e.instant List.mem_cons_self, h.2⟩
  · rintro ⟨hstart, hrest⟩
    refine ⟨fun t ht => ?_, hrest⟩
    rcases List.mem_cons.mp ht with rfl | hlater
    · exact hstart
    · exact le_trans hstart ((List.pairwise_cons.mp hrest).1 t hlater)

variable {b : Bucket Rat}

/-! ## One event -/

@[simp] theorem rate_step (b : Bucket Rat) (e : Event) : (b.step e).2.rate = b.rate := by
  cases e with
  | take now => exact rate_take b now
  | look now => rfl

@[simp] theorem burst_step (b : Bucket Rat) (e : Event) : (b.step e).2.burst = b.burst := by
  cases e with
  | take now => exact burst_take b now
  | look now => rfl

@[simp] theorem refilledAt_step (b : Bucket Rat) (e : Event) : (b.step e).2.refilledAt = e.instant := by
  cases e with
  | take now => exact refilledAt_take b now
  | look now => rfl

theorem Sound.step (h : b.Sound) (e : Event) : (b.step e).2.Sound := by
  cases e with
  | take now => exact h.take now
  | look now => exact h.refill now

/-- After an event the bucket has what was in it at that instant, less the token that was taken. -/
theorem tokens_step (b : Bucket Rat) (e : Event) :
    (b.step e).2.tokens + (if (b.step e).1 then 1 else 0) = (b.refill e.instant).tokens := by
  cases e with
  | take now => exact tokens_take b now
  | look now => exact add_zero _

theorem Sound.step_refill (h : b.Sound) {t : Instant} {e : Event} (ht : b.refilledAt ≤ t) (he : t ≤ e.instant) :
    (b.refill t).step e = b.step e := by
  have hrefill := h.refill_refill ht he
  cases e with
  | take now =>
    simp only [Event.instant] at hrefill
    simp only [Bucket.step, take_eq, hrefill]
  | look now =>
    simp only [Event.instant] at hrefill
    simp only [Bucket.step, available, hrefill]

/-! ## Runs -/

theorem Sound.after (h : b.Sound) (events : List Event) : (b.after events).Sound := by
  induction events generalizing b with
  | nil => exact h
  | cons e events ih => exact ih (h.step e)

@[simp] theorem burst_after (b : Bucket Rat) (events : List Event) : (b.after events).burst = b.burst := by
  induction events generalizing b with
  | nil => rfl
  | cons e events ih => exact (ih _).trans (burst_step b e)

theorem mem_admitted {events : List Event} {t : Instant} (h : t ∈ b.admitted events) : ∃ e ∈ events, e.instant = t := by
  induction events generalizing b with
  | nil => cases h
  | cons e events ih =>
    rcases List.mem_append.mp h with hnow | hlater
    · split at hnow
      · exact ⟨e, List.mem_cons_self, (List.mem_singleton.mp hnow).symm⟩
      · cases hnow
    · obtain ⟨e', he', ht⟩ := ih hlater
      exact ⟨e', List.mem_cons_of_mem _ he', ht⟩

/-- Nothing is admitted at instants that lie before all events. -/
theorem countP_admitted_eq_zero {start : Instant} {events : List Event} (horder : InOrder start events) {p : Instant → Bool}
    (hp : ∀ t, start ≤ t → p t = false) : (b.admitted events).countP p = 0 := by
  rw [List.countP_eq_zero]
  intro t ht
  obtain ⟨e, he, rfl⟩ := mem_admitted ht
  rw [hp _ (horder.le he)]
  exact Bool.false_ne_true

theorem countP_admitted_cons (b : Bucket Rat) (e : Event) (events : List Event) (p : Instant → Bool) :
    (b.admitted (e :: events)).countP p =
      (if (b.step e).1 && p e.instant then 1 else 0) + ((b.step e).2.admitted events).countP p := by
  rw [admitted, List.countP_append]
  cases (b.step e).1 <;> simp [List.countP_singleton]

/-- Until an instant no more calls are admitted than the tokens that are there and those that come in. -/
theorem Sound.countP_until_le (h : b.Sound) {events : List Event} (horder : InOrder b.refilledAt events) (last : Instant) :
    ((b.admitted events).countP (· ≤ last) : Rat) ≤ b.tokens + seconds (last - b.refilledAt) * b.rate := by
  induction events generalizing b with
  | nil => exact add_nonneg h.nonneg (mul_nonneg (seconds_nonneg _) h.rate)
  | cons e events ih =>
    obtain ⟨hfirst, hrest⟩ := inOrder_cons_iff.mp horder
    by_cases hlast : e.instant ≤ last
    · -- The token that is taken now comes out of the level, which has grown since the last refill.
      have hlater := ih (h.step e) (by rwa [refilledAt_step])
      have hlevel := tokens_refill_le b e.instant
      have htokens := tokens_step b e
      rw [rate_step, refilledAt_step] at hlater
      rw [countP_admitted_cons, seconds_between hfirst hlast, decide_eq_true hlast, Bool.and_true]
      push_cast
      linarith
    · have hnone : (b.admitted (e :: events)).countP (· ≤ last) = 0 := by
        apply countP_admitted_eq_zero (inOrder_cons_iff.mpr ⟨le_refl e.instant, hrest⟩)
        intro t ht
        exact decide_eq_false fun hle => hlast (le_trans ht hle)
      rw [hnone, Nat.cast_zero]
      exact add_nonneg h.nonneg (mul_nonneg (seconds_nonneg _) h.rate)

/-- In no span of time are more calls admitted than the burst and what the rate gives in it. -/
theorem Sound.countP_between_le (h : b.Sound) {events : List Event} (horder : InOrder b.refilledAt events)
    (first last : Instant) :
    ((b.admitted events).countP (fun t => first ≤ t ∧ t ≤ last) : Rat) ≤
      b.burst.toNat + seconds (last - first) * b.rate := by
  induction events generalizing b with
  | nil => exact add_nonneg (Nat.cast_nonneg _) (mul_nonneg (seconds_nonneg _) h.rate)
  | cons e events ih =>
    obtain ⟨hfirst, hrest⟩ := inOrder_cons_iff.mp horder
    by_cases hin : first ≤ e.instant
    · -- The span has begun: what is admitted from now on is in the bucket, which is never above its burst, or comes in.
      have hsame : (b.refill e.instant).admitted (e :: events) = b.admitted (e :: events) := by
        rw [admitted, admitted, h.step_refill hfirst (le_refl e.instant)]
      have hcount := (h.refill e.instant).countP_until_le (inOrder_cons_iff.mpr ⟨le_refl e.instant, hrest⟩) last
      have hlevel := (h.refill e.instant).le_burst
      rw [hsame, rate_refill, refilledAt_refill] at hcount
      rw [burst_refill] at hlevel
      have hfewer : (b.admitted (e :: events)).countP (fun t => first ≤ t ∧ t ≤ last) ≤
          (b.admitted (e :: events)).countP (· ≤ last) := by
        apply List.countP_mono_left
        intro t _ ht
        exact decide_eq_true (of_decide_eq_true ht).2
      have hspan : seconds (last - e.instant) * b.rate ≤ seconds (last - first) * b.rate := by
        apply mul_le_mul_of_nonneg_right _ h.rate
        exact seconds_mono (Nat.sub_le_sub_left hin last)
      calc ((b.admitted (e :: events)).countP (fun t => first ≤ t ∧ t ≤ last) : Rat)
          ≤ (b.admitted (e :: events)).countP (· ≤ last) := by exact_mod_cast hfewer
        _ ≤ (b.refill e.instant).tokens + seconds (last - e.instant) * b.rate := hcount
        _ ≤ b.burst.toNat + seconds (last - first) * b.rate := by linarith
    · have hlater := ih (h.step e) (by rwa [refilledAt_step])
      rw [countP_admitted_cons]
      simpa [hin] using hlater

/-! ## Whole tokens -/

theorem take_of_whole {now : Instant} {k : Nat} (hk : (b.refill now).tokens = k) :
    (b.take now).1 = decide (0 < k) ∧ (b.take now).2.tokens = (k - 1 : Nat) := by
  have htokens := tokens_take b now
  have hrefused := take_eq_false_iff b now
  rw [hk] at htokens hrefused
  cases k with
  | zero =>
    have hnone : (b.take now).1 = false := hrefused.mpr (by norm_num)
    rw [hnone] at htokens ⊢
    exact ⟨rfl, by simpa using htokens⟩
  | succ k =>
    have hone : (b.take now).1 = true := by
      rw [← Bool.not_eq_false, hrefused, not_lt]
      exact_mod_cast Nat.le_add_left 1 k
    rw [hone, Nat.cast_succ] at htokens
    rw [hone]
    exact ⟨by simp, add_right_cancel htokens⟩

theorem Sound.tokens_refill_of_rate (h : b.Sound) (hrate : b.rate = 0) (now : Instant) :
    (b.refill now).tokens = b.tokens := by
  rw [tokens_refill, hrate, mul_zero, add_zero]
  exact min_eq_left h.le_burst

/-- It admits calls until its tokens are used up, and then none. -/
theorem Sound.length_admitted_of_rate (h : b.Sound) (hrate : b.rate = 0) {k : Nat} (hk : b.tokens = k)
    (events : List Event) : (b.admitted events).length = min k (events.countP Event.isTake) := by
  induction events generalizing b k with
  | nil => simp [admitted]
  | cons e events ih =>
    have hlevel := (h.tokens_refill_of_rate hrate e.instant).trans hk
    have hkept : (b.step e).2.rate = 0 := (rate_step b e).trans hrate
    cases e with
    | look now =>
      have hlater := ih (h.step (.look now)) hkept hlevel
      simpa [admitted, Bucket.step, Event.isTake] using hlater
    | take now =>
      have hwhole : (b.refill now).tokens = k := hlevel
      obtain ⟨htaken, hless⟩ := take_of_whole hwhole
      have hlater := ih (h.step (.take now)) hkept hless
      rw [admitted, List.length_append, hlater, List.countP_cons_of_pos rfl, Bucket.step, htaken]
      cases k with
      | zero => simp
      | succ k =>
        simp
        omega

/-- After some calls at once a bucket that had whole tokens has as many less, down to none. -/
theorem Sound.takeMany (h : b.Sound) {now : Instant} {k : Nat} (hk : (b.refill now).tokens = k) (n : Nat) :
    (b.takeMany now n).2.Sound ∧ ((b.takeMany now n).2.refill now).tokens = (k - n : Nat) := by
  induction n with
  | zero => exact ⟨h, hk⟩
  | succ n ih =>
    obtain ⟨hsound, hlevel⟩ := ih
    have hnext := hsound.take now
    have hself : ((b.takeMany now n).2.take now).2.refill now = ((b.takeMany now n).2.take now).2 := by
      have hrefill := hnext.refill_self
      rwa [refilledAt_take] at hrefill
    refine ⟨hnext, ?_⟩
    change (((b.takeMany now n).2.take now).2.refill now).tokens = _
    rw [hself, (take_of_whole hlevel).2, Nat.sub_sub]

/-- Of calls that come at once the next is admitted as long as there are tokens left. -/
theorem Sound.takeMany_succ (h : b.Sound) {now : Instant} {k : Nat} (hk : (b.refill now).tokens = k) (n : Nat) :
    (b.takeMany now (n + 1)).1 = ((b.takeMany now n).1.1 + if n < k then 1 else 0, decide (n < k)) := by
  have htaken := (take_of_whole (h.takeMany hk n).2).1
  have hleft : decide (0 < k - n) = decide (n < k) := decide_eq_decide.mpr Nat.sub_pos_iff_lt
  change ((b.takeMany now n).1.1 + if ((b.takeMany now n).2.take now).1 then 1 else 0, ((b.takeMany now n).2.take now).1) = _
  rw [htaken, hleft]
  simp

/-- Of calls that come at once as many are admitted as there are tokens. -/
theorem Sound.taken_takeMany (h : b.Sound) {now : Instant} {k : Nat} (hk : (b.refill now).tokens = k) (n : Nat) :
    (b.takeMany now n).1.1 = min n k := by
  induction n with
  | zero => simp [Bucket.takeMany]
  | succ n ih =>
    rw [h.takeMany_succ hk, ih]
    split
    all_goals
      simp only
      omega

/-- Whatever a new bucket with exact amounts goes through, its level stays between nothing and its burst, no span of time admits more
calls than the burst and what the rate gives in it, and a call is refused exactly when there is no whole token. Whenever the bucket is
full it admits as many calls at once as its burst and refuses the next. Without a rate it never admits more than that. -/
theorem admission_bounded (rate : Rat) (burst : UInt32) (start : Instant) (events : List Event) (hrate : 0 ≤ rate)
    (horder : InOrder start events) :
    let new : Bucket Rat := full rate burst start
    let b := new.after events
    (∀ now, 0 ≤ (b.refill now).tokens ∧ (b.refill now).tokens ≤ burst.toNat) ∧
      (∀ first last, ((new.admitted events).countP (fun t => first ≤ t ∧ t ≤ last) : Rat) ≤
        burst.toNat + rate * seconds (last - first)) ∧
      (∀ now, (b.take now).1 = false ↔ (b.refill now).tokens < 1) ∧
      (∀ now n, (b.refill now).tokens = burst.toNat →
        (b.takeMany now n).1.1 = min n burst.toNat ∧ (b.takeMany now (n + 1)).1.2 = decide (n < burst.toNat)) ∧
      (rate = 0 → (new.admitted events).length = min burst.toNat (events.countP Event.isTake)) := by
  intro new b
  have hnew : new.Sound := sound_full rate burst start
  have hb : b.Sound := hnew.after events
  have hburst : b.burst = burst := burst_after new events
  refine ⟨fun now => ?_, fun first last => ?_, take_eq_false_iff b, fun now n hfull => ?_, fun hzero => ?_⟩
  · have hlevel := hb.refill now
    rw [← hburst]
    exact ⟨hlevel.nonneg, hlevel.le_burst⟩
  · have hcount := hnew.countP_between_le horder first last
    rwa [rate_full hrate, mul_comm] at hcount
  · exact ⟨hb.taken_takeMany hfull n, congrArg Prod.snd (hb.takeMany_succ hfull n)⟩
  · have hrate' : new.rate = 0 := (rate_full hrate burst start).trans hzero
    exact hnew.length_admitted_of_rate hrate' (k := burst.toNat) rfl events

/-- A bucket of two tokens that gets one every other second, and is looked at while it is empty. A span that begins in the middle admits
one call, and once the bucket is full again it admits two. Without a rate the same calls get two tokens, and no more. -/
theorem admission_bounded_midway :
    let events : List Event := [.take 0, .take 0, .look 500000000, .take 1000000000, .take 2000000000]
    let new : Bucket Rat := full (1 / 2) 2 0
    let b := new.after events
    (0 : Rat) ≤ 1 / 2 ∧ InOrder 0 events ∧ new.admitted events = [0, 0, 2000000000] ∧
      ((new.admitted events).countP (fun t => 1000000000 ≤ t ∧ t ≤ 3000000000) : Rat) ≤
        2 + 1 / 2 * seconds (3000000000 - 1000000000) ∧
      (b.refill 3000000000).tokens < 1 ∧ (b.take 3000000000).1 = false ∧ (b.refill 10000000000).tokens = 2 ∧
      (b.takeMany 10000000000 2).1.1 = 2 ∧ (b.takeMany 10000000000 3).1.2 = false ∧
      ((full 0 2 0 : Bucket Rat).admitted events).length = 2 := by
  intro events new b
  have hrate : (0 : Rat) ≤ 1 / 2 := by norm_num
  have horder : InOrder 0 events := by simp [InOrder, events, Event.instant]
  obtain ⟨-, hwindow, hrefused, hfull, -⟩ := admission_bounded (1 / 2) 2 0 events hrate horder
  obtain ⟨-, -, -, -, hdry⟩ := admission_bounded 0 2 0 events (le_refl 0) horder
  have hlow : (b.refill 3000000000).tokens < 1 := by decide +kernel
  have hlevel : (b.refill 10000000000).tokens = 2 := by decide +kernel
  obtain ⟨hmany, hnext⟩ := hfull 10000000000 2 hlevel
  refine ⟨hrate, horder, by decide +kernel, hwindow 1000000000 3000000000, hlow, (hrefused 3000000000).mpr hlow, hlevel,
    ?_, ?_, ?_⟩
  · rw [hmany]
    rfl
  · rw [hnext]
    rfl
  · rw [hdry rfl]
    rfl

end Campus.Bucket
