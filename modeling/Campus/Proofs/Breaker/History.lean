import Campus.Proofs.Breaker.Phases
import Mathlib.Data.List.Induction

/-! # The count of failures and the history

What a run has seen, as marks: the ends of calls that a breaker takes note of. The count of failures is read off them. While the
breaker is closed it is the number of failures since the last success, and the failure that brings it to the threshold opens the
breaker. From there on every probe that is lost adds one, up to the largest number that there is room for.
-/
namespace Campus.Breaker

/-- The end of a call that a breaker takes note of. -/
inductive Mark where
  /-- A call that was no probe succeeded while the breaker was closed. -/
  | success
  /-- A call that was no probe failed while the breaker was closed, and its fault counts. -/
  | failure
  /-- The probe succeeded. -/
  | recovery
  /-- The probe was dropped, or failed with a fault that counts. -/
  | loss
  deriving DecidableEq, Repr

namespace Mark

def isReset : Mark → Bool
  | success | recovery => true
  | failure | loss => false

def streak (marks : List Mark) : Nat := (marks.reverse.takeWhile fun m => !m.isReset).count failure

theorem streak_concat_of_isReset {m : Mark} (h : m.isReset = true) (marks : List Mark) : streak (marks ++ [m]) = 0 := by
  simp [streak, h]

theorem streak_concat_failure (marks : List Mark) : streak (marks ++ [failure]) = streak marks + 1 := by
  simp [streak, isReset]

end Mark

namespace Run

def mark? (r : Run) : Event → Option Mark
  | .record name none =>
    match r.permit? name with
    | some ⟨true⟩ => some .recovery
    | some ⟨false⟩ => if r.breaker.phase = .closed then some .success else none
    | none => none
  | .record name (some fault) =>
    match r.permit? name with
    | some ⟨true⟩ => if r.breaker.counts fault then some .loss else none
    | some ⟨false⟩ => if r.breaker.phase = .closed ∧ r.breaker.counts fault then some .failure else none
    | none => none
  | .drop name => if r.permit? name = some ⟨true⟩ then some .loss else none
  | .acquire _ | .wait _ => none

/-- The marks of a run, oldest first. -/
def history : Run → List Event → List Mark
  | _, [] => []
  | r, e :: events => (r.mark? e).toList ++ (r.step e).1.history events

theorem history_concat (r : Run) (events : List Event) (e : Event) :
    r.history (events ++ [e]) = r.history events ++ ((r.after events).mark? e).toList := by
  induction events generalizing r with
  | nil => simp [history, after]
  | cons first events ih =>
    rw [List.cons_append, history, ih, history, List.append_assoc]
    rfl

/-! ## One event -/

/-- What an event does to the phase and to the count of failures, by its mark. -/
inductive Counted (b : Breaker) : Option Mark → Breaker → Prop
  | unmarked {b' : Breaker} (hfailures : b'.failures = b.failures) (hphase : b'.phase = .closed ↔ b.phase = .closed) :
    Counted b none b'
  | success {b' : Breaker} (hbefore : b.phase = .closed) (hafter : b'.phase = .closed) (hfailures : b'.failures = 0) :
    Counted b (some .success) b'
  | failure {b' : Breaker} (hbefore : b.phase = .closed) (hfailures : b'.failures = oneMore b.failures)
      (hphase : b'.phase = if b.settings.threshold ≤ oneMore b.failures then .opened else .closed) :
    Counted b (some .failure) b'
  | recovery {b' : Breaker} (hbefore : b.phase ≠ .closed) (hafter : b'.phase = .closed) (hfailures : b'.failures = 0) :
    Counted b (some .recovery) b'
  | loss {b' : Breaker} (hbefore : b.phase ≠ .closed) (hafter : b'.phase ≠ .closed)
      (hfailures : b'.failures = oneMore b.failures) : Counted b (some .loss) b'

theorem Counted.refl (b : Breaker) : Counted b none b := .unmarked rfl Iff.rfl

/-- A call that asks for a permit changes neither the count nor whether the breaker is closed. The permit it takes the place of
is no probe. -/
theorem counted_acquire {r : Run} (h : r.Sound) (name : String) :
    Counted r.breaker none (r.step (.acquire name)).1.breaker := by
  have hstays : Counted r.breaker none (r.breaker.acquire r.now).2.1 := by
    cases hp : r.breaker.phase with
    | closed =>
      rw [acquire_closed hp]
      exact .refl _
    | opened =>
      cases hc : r.breaker.isCooled r.now with
      | false =>
        rw [acquire_cooling hp hc]
        exact .refl _
      | true =>
        rw [acquire_cooled hp hc]
        exact .unmarked rfl (by simp [probed, hp])
    | halfOpen =>
      rw [acquire_probing hp (h.fields.halfOpen_iff.mp hp)]
      exact .refl _
  cases hgiven : (r.breaker.acquire r.now).1 with
  | none =>
    rw [step_acquire_rejected hgiven]
    exact hstays
  | some p =>
    cases hold : r.permit? name with
    | none =>
      rw [step_acquire_new hgiven hold]
      exact hstays
    | some old =>
      have hidle : r.breaker.phase ≠ .halfOpen := by
        intro hhalf
        rw [acquire_probing hhalf (h.fields.halfOpen_iff.mp hhalf)] at hgiven
        cases hgiven
      obtain rfl := plain_of_permit? h hidle hold
      rw [step_acquire_again hgiven hold, drop_plain]
      exact hstays

theorem counted_record_plain (b : Breaker) (now : Instant) (fault : Option Fault) :
    Counted b (match fault with
      | none => if b.phase = .closed then some .success else none
      | some f => if b.phase = .closed ∧ b.counts f then some .failure else none)
      (b.record now ⟨false⟩ fault).1 := by
  by_cases hp : b.phase = .closed
  case neg =>
    rw [record_late hp]
    cases fault <;> simp [hp, Counted.refl]
  cases fault with
  | none =>
    simp only [hp, if_true, record, settle_plain_ok hp]
    exact .success hp rfl rfl
  | some f =>
    by_cases hf : b.counts f = true
    · simp only [hp, hf, and_self, if_true, record]
      by_cases ht : b.settings.threshold ≤ oneMore b.failures
      · rw [settle_plain_trips hp ht]
        exact .failure hp rfl (by simp [ht])
      · rw [settle_plain_counts hp ht]
        exact .failure hp rfl (by simp [ht, hp])
    · simp [hf, record, Counted.refl]

theorem counted_record_probe {b : Breaker} (h : b.phase = .halfOpen) (now : Instant) (fault : Option Fault) :
    Counted b (match fault with
      | none => some .recovery
      | some f => if b.counts f then some .loss else none)
      (b.record now ⟨true⟩ fault).1 := by
  have hopen : b.phase ≠ .closed := by simp [h]
  cases fault with
  | none => exact .recovery hopen rfl rfl
  | some f =>
    by_cases hf : b.counts f = true
    · simp only [hf, if_true, record, settle_probe_failed]
      exact .loss hopen (by simp [reopened]) rfl
    · simp only [hf, record, if_true]
      exact .unmarked rfl (by simp [release, h])

theorem counted_step {r : Run} (h : r.Sound) (e : Event) : Counted r.breaker (r.mark? e) (r.step e).1.breaker := by
  cases e with
  | acquire name => exact counted_acquire h name
  | record name fault =>
    cases hname : r.permit? name with
    | none =>
      rw [step_record_unknown hname]
      cases fault <;> simp [mark?, hname, Counted.refl]
    | some p =>
      rw [step_record hname]
      obtain ⟨_ | _⟩ := p
      · have hplain := counted_record_plain r.breaker r.now fault
        cases fault <;> simpa only [mark?, hname] using hplain
      · have hprobe := counted_record_probe (halfOpen_of_probe h hname) r.now fault
        cases fault <;> simpa only [mark?, hname] using hprobe
  | drop name =>
    cases hname : r.permit? name with
    | none =>
      rw [step_drop_unknown hname]
      simp [mark?, hname, Counted.refl]
    | some p =>
      rw [step_drop hname]
      obtain ⟨_ | _⟩ := p
      · rw [drop_plain]
        simp [mark?, hname, Counted.refl]
      · have hopen : r.breaker.phase ≠ .closed := by simp [halfOpen_of_probe h hname]
        simp only [mark?, hname, if_true, drop, settle_probe_failed]
        exact .loss hopen (by simp [reopened]) rfl
  | wait span => exact .refl _

/-! ## While the breaker is closed -/

/-- Below the threshold there is room for one failure more. -/
theorem toNat_oneMore_of_closed {r : Run} (h : r.Sound) (hp : r.breaker.phase = .closed) :
    (oneMore r.breaker.failures).toNat = r.breaker.failures.toNat + 1 := by
  have hlt := UInt32.lt_iff_toNat_lt.mp (h.fields.failures_lt hp)
  have hsize := r.breaker.settings.threshold.toNat_lt_size
  rw [toNat_oneMore]
  omega

theorem toNat_failures_of_closed {r : Run} (h : r.Sound) (hzero : r.breaker.failures = 0) (events : List Event)
    (hp : (r.after events).breaker.phase = .closed) :
    (r.after events).breaker.failures.toNat = Mark.streak (r.history events) := by
  induction events using List.reverseRecOn with
  | nil => simp [after, history, Mark.streak, hzero]
  | append_singleton events e ih =>
    rw [after_append] at hp ⊢
    rw [history_concat]
    have hsound := sound_after h events
    have hcounted := counted_step hsound e
    change ((r.after events).step e).1.breaker.phase = .closed at hp
    change ((r.after events).step e).1.breaker.failures.toNat = _
    generalize ((r.after events).step e).1.breaker = b' at hcounted hp ⊢
    generalize (r.after events).mark? e = m at hcounted ⊢
    cases hcounted with
    | unmarked hfailures hphase =>
      rw [hfailures, ih (hphase.mp hp)]
      simp
    | success hbefore hafter hfailures =>
      rw [hfailures]
      exact (Mark.streak_concat_of_isReset rfl _).symm
    | failure hbefore hfailures hphase =>
      rw [hfailures, toNat_oneMore_of_closed hsound hbefore, ih hbefore]
      exact (Mark.streak_concat_failure _).symm
    | recovery hbefore hafter hfailures =>
      rw [hfailures]
      exact (Mark.streak_concat_of_isReset rfl _).symm
    | loss hbefore hafter hfailures => exact absurd hp hafter

/-- A closed breaker opens with the failure that brings the count to the threshold, and with nothing else. -/
theorem opens_iff {r : Run} (h : r.Sound) (hp : r.breaker.phase = .closed) (e : Event) :
    (r.step e).1.breaker.phase = .opened ↔
      r.mark? e = some .failure ∧ r.breaker.failures.toNat + 1 = r.breaker.settings.threshold.toNat := by
  have hcounted := counted_step h e
  have hmore := toNat_oneMore_of_closed h hp
  have hlt := UInt32.lt_iff_toNat_lt.mp (h.fields.failures_lt hp)
  generalize (r.step e).1.breaker = b' at hcounted ⊢
  generalize r.mark? e = m at hcounted ⊢
  cases hcounted with
  | unmarked hfailures hphase => simp [hphase.mpr hp]
  | success hbefore hafter hfailures => simp [hafter]
  | failure hbefore hfailures hphase =>
    rw [hphase]
    by_cases ht : r.breaker.settings.threshold ≤ oneMore r.breaker.failures
    · have hreached := UInt32.le_iff_toNat_le.mp ht
      simp only [ht, if_true, true_and, true_iff]
      omega
    · have hshort := UInt32.lt_iff_toNat_lt.mp (UInt32.not_le.mp ht)
      simp only [ht, if_false, reduceCtorEq, true_and, false_iff]
      omega
  | recovery hbefore hafter hfailures => exact absurd hp hbefore
  | loss hbefore hafter hfailures => exact absurd hp hbefore

/-! ## While the breaker is not closed -/

/-- A run that stays out of the closed phase, whatever is left off at its end. -/
def StaysOpen (r : Run) (events : List Event) : Prop := ∀ past, past <+: events → (r.after past).breaker.phase ≠ .closed

theorem toNat_failures_of_staysOpen {r : Run} (h : r.Sound) {events : List Event} (hopen : r.StaysOpen events) :
    (r.after events).breaker.failures.toNat =
      min (r.breaker.failures.toNat + (r.history events).count .loss) (UInt32.size - 1) := by
  induction events using List.reverseRecOn with
  | nil =>
    have hsize := r.breaker.failures.toNat_lt_size
    simp only [after, List.foldl_nil, history, List.count_nil]
    omega
  | append_singleton events e ih =>
    have hlast : (r.after events).breaker.phase ≠ .closed := hopen events (List.prefix_append events [e])
    have hnow := hopen (events ++ [e]) (List.prefix_refl _)
    have hbefore := ih fun past hpast => hopen past (hpast.trans (List.prefix_append events [e]))
    rw [after_append] at hnow ⊢
    rw [history_concat, List.count_append]
    have hcounted := counted_step (sound_after h events) e
    change ((r.after events).step e).1.breaker.phase ≠ .closed at hnow
    change ((r.after events).step e).1.breaker.failures.toNat = _
    generalize ((r.after events).step e).1.breaker = b' at hcounted hnow ⊢
    generalize (r.after events).mark? e = m at hcounted ⊢
    cases hcounted with
    | unmarked hfailures hphase =>
      rw [hfailures, hbefore]
      simp
    | success hclosed hafter hfailures => exact absurd hclosed hlast
    | failure hclosed hfailures hphase => exact absurd hclosed hlast
    | recovery hopened hafter hfailures => exact absurd hafter hnow
    | loss hopened hafter hfailures =>
      rw [hfailures, toNat_oneMore, hbefore]
      simp only [Option.toList_some, List.count_singleton_self]
      omega

/-- A run that begins closed and ends otherwise has an event with which the breaker opened for the last time. -/
theorem exists_opening {r : Run} (h : r.Sound) (hstart : r.breaker.phase = .closed) (events : List Event)
    (hp : (r.after events).breaker.phase ≠ .closed) :
    ∃ before e later, events = before ++ e :: later ∧ (r.after before).breaker.phase = .closed ∧
      ((r.after before).step e).1.breaker.phase = .opened ∧ ((r.after before).step e).1.StaysOpen later := by
  induction events using List.reverseRecOn with
  | nil => exact absurd hstart hp
  | append_singleton events e ih =>
    rw [after_append] at hp
    by_cases hbefore : (r.after events).breaker.phase = .closed
    · refine ⟨events, e, [], rfl, hbefore, ?_, ?_⟩
      · exact ((step_closed (sound_after h events) hbefore e).resolve_left hp).1
      · intro past hpast
        rw [List.prefix_nil.mp hpast]
        exact hp
    · obtain ⟨before, opening, later, rfl, hclosed, hopened, hstays⟩ := ih hbefore
      refine ⟨before, opening, later ++ [e], by simp, hclosed, hopened, ?_⟩
      intro past hpast
      rcases List.prefix_concat_iff.mp hpast with rfl | hshorter
      · rw [after_append]
        rwa [after_append] at hp
      · exact hstays past hshorter

/-- The count of failures in every state that a run can reach. While the breaker is closed it is the number of failures since the
last success, be it that of a probe; the failure that brings it to the threshold opens the breaker, and nothing else does. Faults
that do not count leave it alone, and a call that is no probe may be dropped without a trace. Since the breaker opened, it is the
threshold and the probes lost from then on, as far as there is room. -/
theorem failures_tell_history (name : String) (settings : BreakerSettings) (counts : Fault → Bool) (events : List Event) :
    let start := fresh (.fresh name settings counts)
    let r := start.after events
    let threshold := max settings.threshold.toNat 1
    (r.breaker.phase = .closed →
      r.breaker.failures.toNat = Mark.streak (start.history events) ∧
        ∀ e, ((r.step e).1.breaker.phase = .closed ∨ (r.step e).1.breaker.phase = .opened) ∧
          ((r.step e).1.breaker.phase = .opened ↔
            r.mark? e = some .failure ∧ Mark.streak (start.history (events ++ [e])) = threshold)) ∧
      (∀ call fault, counts fault = false →
        (r.step (.record call (some fault))).1.breaker.failures = r.breaker.failures) ∧
      (∀ call, r.permit? call = some ⟨false⟩ → (r.step (.drop call)).1.breaker = r.breaker) ∧
      (r.breaker.phase ≠ .closed → ∃ before e later, events = before ++ e :: later ∧
        let opened := ((start.after before).step e).1
        (start.after before).breaker.phase = .closed ∧ opened.breaker.phase = .opened ∧ opened.StaysOpen later ∧
          r.breaker.failures.toNat = min (threshold + (opened.history later).count .loss) (UInt32.size - 1)) := by
  intro start r threshold
  have hstart : start.Sound := sound_fresh (consistent_fresh name settings counts 0)
  have hsound : r.Sound := sound_after hstart events
  have hrules := sameRules_after start
  have hthreshold (events : List Event) : (start.after events).breaker.settings.threshold.toNat = threshold := by
    rw [(hrules events).settings]
    exact toNat_threshold_fresh name settings counts
  refine ⟨?_, ?_, ?_, ?_⟩
  · intro hp
    have hstreak := toNat_failures_of_closed hstart rfl events hp
    refine ⟨hstreak, fun e => ⟨?_, ?_⟩⟩
    · exact (step_closed hsound hp e).imp_right And.left
    · rw [opens_iff hsound hp e, hthreshold events, hstreak]
      refine and_congr_right fun hmark => ?_
      have hconcat : start.history (events ++ [e]) = start.history events ++ [.failure] := by
        rw [history_concat, hmark]
        rfl
      rw [hconcat, Mark.streak_concat_failure]
  · intro call fault hcounts
    have hignored : r.breaker.counts fault = false := by
      rw [(hrules events).counts]
      exact hcounts
    have hunmarked : r.mark? (.record call (some fault)) = none := by
      simp only [mark?, hignored]
      cases r.permit? call with
      | none => rfl
      | some p => obtain ⟨_ | _⟩ := p <;> simp
    have hcounted := counted_step hsound (.record call (some fault))
    rw [hunmarked] at hcounted
    cases hcounted with
    | unmarked hfailures hphase => exact hfailures
  · intro call hcall
    rw [step_drop hcall, drop_plain]
  · intro hp
    obtain ⟨before, e, later, rfl, hclosed, hopened, hstays⟩ := exists_opening hstart rfl events hp
    refine ⟨before, e, later, rfl, hclosed, hopened, hstays, ?_⟩
    have hbefore := sound_after hstart before
    have hreached : ((start.after before).step e).1.breaker.failures.toNat = threshold := by
      obtain ⟨hmark, hfull⟩ := (opens_iff hbefore hclosed e).mp hopened
      have hcounted := counted_step hbefore e
      rw [hmark] at hcounted
      cases hcounted with
      | failure _ hfailures hphase =>
        rw [hfailures, toNat_oneMore_of_closed hbefore hclosed, hfull, hthreshold before]
    rw [← hreached, ← toNat_failures_of_staysOpen (sound_step hbefore e) hstays]
    simp only [r, after_append]
    rfl

end Run

end Campus.Breaker
