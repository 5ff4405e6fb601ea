import Campus.Proofs.Breaker.Phases

/-! # Cool-downs and probes

From the instant at which a breaker opened until its cool-down is over, every call is rejected. The first call after that is let
through as a probe, and until the probe ends the others are rejected. A probe that succeeds closes the breaker; one that fails
or is dropped starts a new cool-down; one that ends with a fault that does not count leaves the place to the next call. So a
breaker that has cooled down and has no probe out always lets the next call through.
-/
namespace Campus.Breaker

theorem isCooled_iff {b : Breaker} {t now : Instant} (h : b.openedAt = some t) (hle : t ≤ now) :
    b.isCooled now = true ↔ t + b.settings.coolDown ≤ now := by
  simp only [isCooled, h, decide_eq_true_eq]
  rw [Nat.le_sub_iff_add_le hle, Nat.add_comm]

theorem isCooled_mono {b : Breaker} {now later : Instant} (h : b.isCooled now = true) (hle : now ≤ later) :
    b.isCooled later = true := by
  cases ht : b.openedAt with
  | none => simp [isCooled, ht] at h
  | some t =>
    simp only [isCooled, ht, decide_eq_true_eq] at h ⊢
    exact Nat.le_trans h (Nat.sub_le_sub_right hle t)

namespace Run

/-- What a call that asks for a permit now is told: its permit, or the fault of a call that is turned away. -/
def reply (r : Run) : Except Fault Permit :=
  match r.breaker.acquire r.now with
  | (some p, _, _) => .ok p
  | (none, b, _) => .error b.rejection

/-- Whatever asks for a permit among some events does so before an instant. -/
def AsksBefore (limit : Instant) : Run → List Event → Prop
  | _, [] => True
  | r, e :: events => (e.Asks → r.now < limit) ∧ AsksBefore limit (r.step e).1 events

/-! ## Replies -/

theorem reply_closed {r : Run} (h : r.breaker.phase = .closed) : r.reply = .ok ⟨false⟩ := by
  rw [reply, acquire_closed h]

theorem reply_cooling {r : Run} (h : r.breaker.phase = .opened) (hc : r.breaker.isCooled r.now = false) :
    r.reply = .error (.circuitOpen r.breaker.name) := by
  rw [reply, acquire_cooling h hc]
  rfl

theorem reply_cooled {r : Run} (h : r.breaker.phase = .opened) (hc : r.breaker.isCooled r.now = true) :
    r.reply = .ok ⟨true⟩ := by
  rw [reply, acquire_cooled h hc]

theorem reply_probing {r : Run} (h : r.Sound) (hp : r.breaker.phase = .halfOpen) :
    r.reply = .error (.circuitOpen r.breaker.name) := by
  rw [reply, acquire_probing hp (h.fields.halfOpen_iff.mp hp)]
  rfl

theorem acquire_of_reply_ok {r : Run} {p : Permit} (h : r.reply = .ok p) : (r.breaker.acquire r.now).1 = some p := by
  rcases hres : r.breaker.acquire r.now with ⟨_ | q, b, notices⟩
  · simp [reply, hres] at h
  · simpa [reply, hres] using h

theorem acquire_of_reply_error {r : Run} {fault : Fault} (h : r.reply = .error fault) :
    (r.breaker.acquire r.now).1 = none := by
  rcases hres : r.breaker.acquire r.now with ⟨_ | q, b, notices⟩
  · rfl
  · simp [reply, hres] at h

/-- A call that is given a permit holds it under its name. -/
theorem permit?_of_reply {r : Run} {p : Permit} (h : r.reply = .ok p) (call : String) :
    (r.step (.acquire call)).1.permit? call = some p := by
  have hgiven := acquire_of_reply_ok h
  cases hold : r.permit? call with
  | none => simp [step_acquire_new hgiven hold, permit?]
  | some old => simp [step_acquire_again hgiven hold, permit?]

/-! ## Time only passes -/

theorem now_le_step (r : Run) (e : Event) : r.now ≤ (r.step e).1.now := by
  cases e with
  | acquire name =>
    apply Nat.le_of_eq
    cases hres : (r.breaker.acquire r.now).1 with
    | none => simp [step_acquire_rejected hres]
    | some p =>
      cases hold : r.permit? name with
      | none => simp [step_acquire_new hres hold]
      | some old => simp [step_acquire_again hres hold]
  | record name fault =>
    apply Nat.le_of_eq
    cases hp : r.permit? name with
    | none => simp [step_record_unknown hp]
    | some p => simp [step_record hp]
  | drop name =>
    apply Nat.le_of_eq
    cases hp : r.permit? name with
    | none => simp [step_drop_unknown hp]
    | some p => simp [step_drop hp]
  | wait span => exact Nat.le_add_right r.now span

theorem now_le_after (r : Run) (events : List Event) : r.now ≤ (r.after events).now := by
  induction events generalizing r with
  | nil => exact Nat.le_refl r.now
  | cons e events ih => exact Nat.le_trans (now_le_step r e) (ih (r.step e).1)

theorem asksBefore_of_now_lt {r : Run} {events : List Event} {limit : Instant} (h : (r.after events).now < limit) :
    r.AsksBefore limit events := by
  induction events generalizing r with
  | nil => trivial
  | cons e events ih => exact ⟨fun _ => Nat.lt_of_le_of_lt (now_le_after r (e :: events)) h, ih h⟩

theorem asksBefore_of_not_asks {r : Run} {events : List Event} (limit : Instant) (h : ∀ e ∈ events, ¬ e.Asks) :
    r.AsksBefore limit events := by
  induction events generalizing r with
  | nil => trivial
  | cons e events ih =>
    exact ⟨fun he => absurd he (h e List.mem_cons_self), ih fun e' he' => h e' (List.mem_cons_of_mem _ he')⟩

/-! ## While a breaker cools down -/

section CoolsDown

variable {r : Run} {t : Instant}

theorem isCooled_iff_now (h : r.Sound) (ht : r.breaker.openedAt = some t) :
    r.breaker.isCooled r.now = true ↔ t + r.breaker.settings.coolDown ≤ r.now :=
  isCooled_iff ht (h.fields.openedAt_le t ht)

/-- An open breaker stays as it is as long as no call asks for a permit after its cool-down. -/
theorem breaker_after_opened (h : r.Sound) (hp : r.breaker.phase = .opened) (ht : r.breaker.openedAt = some t)
    {events : List Event} (hasks : r.AsksBefore (t + r.breaker.settings.coolDown) events) :
    (r.after events).breaker = r.breaker := by
  induction events generalizing r with
  | nil => rfl
  | cons e events ih =>
    have hstep : (r.step e).1.breaker = r.breaker := by
      apply breaker_step_opened h hp
      intro he
      rw [Bool.eq_false_iff, ne_eq, isCooled_iff_now h ht]
      exact Nat.not_le_of_lt (hasks.1 he)
    have hrest := ih (sound_step h e) (by rw [hstep]; exact hp) (by rw [hstep]; exact ht) (by rw [hstep]; exact hasks.2)
    exact hrest.trans hstep

/-- A breaker that opened at an instant: until its cool-down is over every call is rejected, whatever else happens, and the
first call after that is let through as a probe. -/
structure CoolsDown (r : Run) (t : Instant) : Prop where
  rejects : ∀ events, (r.after events).now < t + r.breaker.settings.coolDown →
    (r.after events).breaker = r.breaker ∧ (r.after events).reply = .error (.circuitOpen r.breaker.name)
  probes : ∀ events, r.AsksBefore (t + r.breaker.settings.coolDown) events →
    t + r.breaker.settings.coolDown ≤ (r.after events).now → (r.after events).reply = .ok ⟨true⟩

structure Opens (r : Run) (t : Instant) : Prop extends r.CoolsDown t where
  opened : r.breaker.phase = .opened
  since : r.breaker.openedAt = some t

theorem coolsDown_of_opened (h : r.Sound) (hp : r.breaker.phase = .opened) (ht : r.breaker.openedAt = some t) :
    r.CoolsDown t where
  rejects events hlt := by
    have hsame := breaker_after_opened h hp ht (asksBefore_of_now_lt hlt)
    refine ⟨hsame, ?_⟩
    rw [← hsame]
    apply reply_cooling
    · rw [hsame, hp]
    · rw [Bool.eq_false_iff, ne_eq, isCooled_iff_now (sound_after h events) (by rw [hsame, ht]), hsame]
      exact Nat.not_le_of_lt hlt
  probes events hasks hle := by
    have hsame := breaker_after_opened h hp ht hasks
    apply reply_cooled
    · rw [hsame, hp]
    · rw [isCooled_iff_now (sound_after h events) (by rw [hsame, ht]), hsame]
      exact hle

theorem opens_of_opened (h : r.Sound) (hp : r.breaker.phase = .opened) (ht : r.breaker.openedAt = some t) : r.Opens t :=
  ⟨coolsDown_of_opened h hp ht, hp, ht⟩

end CoolsDown

/-! ## While a probe is out -/

theorem after_halfOpen {r : Run} (h : r.Sound) {call : String} (hcall : r.permit? call = some ⟨true⟩)
    {events : List Event} (hevents : ∀ e ∈ events, ¬ e.Ends call) :
    (r.after events).breaker = r.breaker ∧ (r.after events).permit? call = some ⟨true⟩ := by
  induction events generalizing r with
  | nil => exact ⟨rfl, hcall⟩
  | cons e events ih =>
    obtain ⟨hbreaker, hpermit⟩ := step_halfOpen h hcall (hevents e List.mem_cons_self)
    obtain ⟨hrest, hout⟩ := ih (sound_step h e) hpermit fun e' he' => hevents e' (List.mem_cons_of_mem _ he')
    exact ⟨hrest.trans hbreaker, hout⟩

def Cooled (r : Run) : Prop := r.breaker.phase = .halfOpen → r.breaker.isCooled r.now = true

theorem cooled_step {r : Run} (h : r.Sound) (hc : r.Cooled) (e : Event) : (r.step e).1.Cooled := by
  intro hhalf
  cases hp : r.breaker.phase with
  | closed =>
    rcases step_closed h hp e with hclosed | ⟨hopened, -⟩
    · simp [hclosed] at hhalf
    · simp [hopened] at hhalf
  | opened =>
    by_cases hcool : e.Asks → r.breaker.isCooled r.now = false
    · rw [breaker_step_opened h hp hcool, hp] at hhalf
      cases hhalf
    · -- A probe is let through only after the cool-down, and keeps the instant at which the breaker opened.
      obtain ⟨hasks, hcooled⟩ := Classical.not_imp.mp hcool
      rw [Bool.not_eq_false] at hcooled
      cases e with
      | acquire name =>
        have hacquire := acquire_cooled hp hcooled
        have hplain : ∀ old, r.permit? name = some old → old = ⟨false⟩ := fun old => plain_of_permit? h (by simp [hp])
        cases hold : r.permit? name with
        | none =>
          rw [step_acquire_new (p := ⟨true⟩) (by rw [hacquire]) hold, hacquire]
          exact hcooled
        | some old =>
          obtain rfl := hplain old hold
          rw [step_acquire_again (p := ⟨true⟩) (by rw [hacquire]) hold, hacquire, drop_plain]
          exact hcooled
      | record name fault => cases hasks
      | drop name => cases hasks
      | wait span => cases hasks
  | halfOpen =>
    have hprobes : r.probes ≠ 0 := by
      rw [h.fields.probing_iff.mp (h.fields.halfOpen_iff.mp hp)]
      exact Nat.one_ne_zero
    obtain ⟨call, hcall⟩ := exists_probe h hprobes
    by_cases he : e.Ends call
    · have hnone := probes_step_ends h hcall he
      have hone := (sound_step h e).fields.probing_iff.mp ((sound_step h e).fields.halfOpen_iff.mp hhalf)
      omega
    · rw [(step_halfOpen h hcall he).1]
      exact isCooled_mono (hc hp) (now_le_step r e)

theorem cooled_after {r : Run} (h : r.Sound) (hc : r.Cooled) (events : List Event) : (r.after events).Cooled := by
  induction events generalizing r with
  | nil => exact hc
  | cons e events ih => exact ih (sound_step h e) (cooled_step h hc e)

/-- The call under a name is the probe of its breaker: until it ends every other call is rejected, and its end closes the
breaker, opens it anew, or leaves its place to the next call. -/
structure ProbedBy (r : Run) (call : String) : Prop where
  rejects : ∀ events, (∀ e ∈ events, ¬ e.Ends call) → (r.after events).permit? call = some ⟨true⟩ ∧
    (r.after events).breaker = r.breaker ∧ (r.after events).reply = .error (.circuitOpen r.breaker.name)
  succeeds : let b := (r.step (.record call none)).1.breaker
    b.phase = .closed ∧ b.failures = 0 ∧ b.openedAt = none
  fails : ∀ fault, r.breaker.counts fault = true → (r.step (.record call (some fault))).1.Opens r.now
  drops : (r.step (.drop call)).1.Opens r.now
  ignores : ∀ fault, r.breaker.counts fault = false →
    let r' := (r.step (.record call (some fault))).1
    r'.breaker.phase = .opened ∧ r'.breaker.openedAt = r.breaker.openedAt ∧ r'.breaker.failures = r.breaker.failures ∧
      ∀ events, (∀ e ∈ events, ¬ e.Asks) → (r'.after events).reply = .ok ⟨true⟩

theorem probedBy_of_permit? {r : Run} (h : r.Sound) (hc : r.Cooled) {call : String}
    (hcall : r.permit? call = some ⟨true⟩) : r.ProbedBy call where
  rejects events hevents := by
    obtain ⟨hbreaker, hout⟩ := after_halfOpen h hcall hevents
    refine ⟨hout, hbreaker, ?_⟩
    rw [← hbreaker]
    exact reply_probing (sound_after h events) (halfOpen_of_probe (sound_after h events) hout)
  succeeds := by
    rw [step_record hcall]
    exact ⟨rfl, rfl, rfl⟩
  fails fault hcounts := by
    have hreopened : (r.step (.record call (some fault))).1.breaker = r.breaker.reopened r.now := by
      simp [step_record hcall, record, hcounts, settle_probe_failed]
    apply opens_of_opened (sound_step h _)
    · rw [hreopened]
      rfl
    · rw [hreopened]
      rfl
  drops := by
    have hreopened : (r.step (.drop call)).1.breaker = r.breaker.reopened r.now := by
      simp [step_drop hcall, drop, settle_probe_failed]
    apply opens_of_opened (sound_step h _)
    · rw [hreopened]
      rfl
    · rw [hreopened]
      rfl
  ignores fault hcounts := by
    intro r'
    have hhalf := halfOpen_of_probe h hcall
    have hbreaker : r'.breaker = r.breaker.release.1 := by
      simp only [r', step_record hcall]
      simp [record, hcounts]
    have hopened : r'.breaker.phase = .opened := by
      rw [hbreaker]
      simp [release, hhalf]
    have hsince : r'.breaker.openedAt = r.breaker.openedAt := by
      rw [hbreaker]
      rfl
    have hnow : r'.now = r.now := by
      simp only [r', step_record hcall]
    refine ⟨hopened, hsince, by rw [hbreaker]; rfl, ?_⟩
    intro events hquiet
    have hsound : r'.Sound := sound_step h _
    cases ht : r.breaker.openedAt with
    | none =>
      have hclosed := h.fields.openedAt_eq_none_iff.mp ht
      simp [hhalf] at hclosed
    | some t =>
      rw [ht] at hsince
      have hcooled : t + r'.breaker.settings.coolDown ≤ r'.now := by
        have hover := (isCooled_iff_now h ht).mp (hc hhalf)
        rw [hbreaker, hnow]
        exact hover
      exact (coolsDown_of_opened hsound hopened hsince).probes events (asksBefore_of_not_asks _ hquiet)
        (Nat.le_trans hcooled (now_le_after r' events))

/-! ## Never stuck -/

theorem reply_of_no_probe {r : Run} (h : r.Sound) (hp : r.probes = 0)
    (hover : ∀ t, r.breaker.openedAt = some t → t + r.breaker.settings.coolDown ≤ r.now) : ∃ p, r.reply = .ok p := by
  cases hphase : r.breaker.phase with
  | closed => exact ⟨_, reply_closed hphase⟩
  | opened =>
    cases ht : r.breaker.openedAt with
    | none =>
      have hclosed := h.fields.openedAt_eq_none_iff.mp ht
      simp [hphase] at hclosed
    | some t => exact ⟨_, reply_cooled hphase ((isCooled_iff_now h ht).mpr (hover t ht))⟩
  | halfOpen =>
    have hone := h.fields.probing_iff.mp (h.fields.halfOpen_iff.mp hphase)
    omega

/-- The end of a call that was let through while the breaker was closed changes nothing once the breaker is not. -/
theorem breaker_step_of_issued_closed {r : Run} (hp : r.breaker.phase = .closed) {call : String}
    {events : List Event} (hevents : ∀ e ∈ events, ¬ e.Concerns call)
    (hlate : ((r.step (.acquire call)).1.after events).breaker.phase ≠ .closed) {e : Event} (he : e.Ends call) :
    (((r.step (.acquire call)).1.after events).step e).1.breaker =
      ((r.step (.acquire call)).1.after events).breaker := by
  apply breaker_step_late hlate call _ he
  intro p hpermit
  rw [permit?_after hevents, permit?_of_reply (reply_closed hp), Option.some.injEq] at hpermit
  exact hpermit.symm

/-- How a breaker with some settings lets calls through, in a state of a run. -/
structure Admission (r : Run) (name : String) (settings : BreakerSettings) (counts : Fault → Bool) : Prop where
  name : r.breaker.name = name
  coolDown : r.breaker.settings.coolDown = settings.coolDown
  counts : r.breaker.counts = counts
  /-- A closed breaker stays closed or opens now. -/
  closed : r.breaker.phase = .closed → ∀ e, (r.step e).1.breaker.phase = .closed ∨ (r.step e).1.Opens r.now
  opened : ∀ t, r.breaker.phase = .opened → r.breaker.openedAt = some t → r.CoolsDown t
  given : ∀ call p, r.reply = .ok p → (r.step (.acquire call)).1.permit? call = some p
  probed : ∀ call, r.permit? call = some ⟨true⟩ → r.ProbedBy call
  /-- The ends of calls from the closed phase change nothing later. -/
  late : ∀ call events, r.breaker.phase = .closed → (∀ e ∈ events, ¬ e.Concerns call) →
    let later := (r.step (.acquire call)).1.after events
    r.reply = .ok ⟨false⟩ ∧ (later.breaker.phase ≠ .closed → ∀ e, e.Ends call → (later.step e).1.breaker = later.breaker)
  /-- Once no probe is out and the cool-down is over, the next call is let through. -/
  unstuck : r.probes = 0 → (∀ t, r.breaker.openedAt = some t → t + settings.coolDown ≤ r.now) → ∃ p, r.reply = .ok p
  probeEnds : r.probes ≠ 0 → ∃ call, r.permit? call = some ⟨true⟩ ∧ ∀ e, e.Ends call → (r.step e).1.probes = 0

/-- Admission over time, in every state that a run can reach. A closed breaker stays closed or opens now, and one that opened at
an instant cools down from there. The call that is let through then is the probe, whose end decides what follows. The ends of
calls from the closed phase change nothing later. Once no probe is out and the cool-down is over, the next call is let
through, and a probe that is out is out no longer when its call ends. -/
theorem admission_over_time (name : String) (settings : BreakerSettings) (counts : Fault → Bool) (history : List Event) :
    ((fresh (.fresh name settings counts)).after history).Admission name settings counts := by
  have hstart := sound_fresh (consistent_fresh name settings counts 0)
  have h := sound_after hstart history
  have hc := cooled_after hstart (fun hp => by cases hp) history
  have hrules := sameRules_after (fresh (.fresh name settings counts)) history
  generalize (fresh (.fresh name settings counts)).after history = r at h hc hrules ⊢
  have hcoolDown : r.breaker.settings.coolDown = settings.coolDown := by
    rw [hrules.settings]
    rfl
  refine ⟨hrules.name, hcoolDown, hrules.counts, ?_, fun t hp ht => coolsDown_of_opened h hp ht,
    fun call p hp => permit?_of_reply hp call, fun call hcall => probedBy_of_permit? h hc hcall, ?_, ?_, ?_⟩
  · intro hp e
    rcases step_closed h hp e with hclosed | ⟨hopened, hsince⟩
    · exact .inl hclosed
    · exact .inr (opens_of_opened (sound_step h e) hopened hsince)
  · intro call events hp hevents later
    exact ⟨reply_closed hp, fun hlate e he => breaker_step_of_issued_closed hp hevents hlate he⟩
  · intro hp hover
    rw [← hcoolDown] at hover
    exact reply_of_no_probe h hp hover
  · intro hp
    obtain ⟨call, hcall⟩ := exists_probe h hp
    exact ⟨call, hcall, fun e he => probes_step_ends h hcall he⟩

end Run

end Campus.Breaker
