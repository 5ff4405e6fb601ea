import Campus.Proofs.Breaker.Permits

/-! # What an event does in each phase

A closed breaker stays closed or opens at the instant of the event. An open breaker stays as it is until a call is let through
as its probe. While a probe is out nothing but its end changes the breaker, and no other permit that is out is a probe.
-/
namespace Campus.Breaker

/-! ## Permits that are no probes -/

/-- Outside the closed phase the end of a call that was no probe changes nothing. -/
theorem record_late {b : Breaker} (h : b.phase ≠ .closed) (now : Instant) (fault : Option Fault) :
    (b.record now ⟨false⟩ fault).1 = b := by
  cases fault with
  | none => simp [record, settle_late h]
  | some f =>
    by_cases hf : b.counts f = true
    · simp [record, hf, settle_late h]
    · simp [record, hf]

theorem drop_plain (b : Breaker) (now : Instant) : (b.drop now ⟨false⟩).1 = b := by
  simp [drop]

/-- The end of a call that was no probe leaves a closed breaker closed or opens it now. -/
theorem record_closed {b : Breaker} (h : b.phase = .closed) (now : Instant) (fault : Option Fault) :
    (b.record now ⟨false⟩ fault).1.phase = .closed ∨
      (b.record now ⟨false⟩ fault).1.phase = .opened ∧ (b.record now ⟨false⟩ fault).1.openedAt = some now := by
  cases fault with
  | none =>
    left
    simp [record, settle_plain_ok h, h]
  | some f =>
    by_cases hf : b.counts f = true
    · by_cases ht : b.settings.threshold ≤ oneMore b.failures
      · right
        simp [record, hf, settle_plain_trips h ht]
      · left
        simp [record, hf, settle_plain_counts h ht, h]
    · left
      simp [record, hf, h]

/-! ## Events and names -/

namespace Event

def Asks : Event → Prop
  | acquire _ => True
  | _ => False

/-- An event ends the call that holds the permit under a name. -/
def Ends (name : String) : Event → Prop
  | record n _ | drop n => n = name
  | _ => False

def Concerns (name : String) : Event → Prop
  | acquire n | record n _ | drop n => n = name
  | wait _ => False

end Event

namespace Run

theorem permit?_without_of_ne {r : Run} {name other : String} (h : name ≠ other) :
    ((r.without other).find? fun p => p.1 == name).map (·.2) = r.permit? name := by
  have hsame : (fun p : String × Permit => decide ((p.1 != other) = true ∧ (p.1 == name) = true)) = fun p => p.1 == name := by
    funext p
    by_cases hp : p.1 = name <;> simp [hp, h]
  rw [without, List.find?_filter, hsame, permit?]

theorem permit?_cons_without_of_ne {r : Run} {name other : String} (h : name ≠ other) (p : Permit) :
    (((other, p) :: r.without other).find? fun q => q.1 == name).map (·.2) = r.permit? name := by
  have hhead : (other == name) = false := by simpa using Ne.symm h
  rw [List.find?_cons, hhead]
  exact permit?_without_of_ne h

/-- An event about other names leaves the permit under a name where it is. -/
theorem permit?_step {r : Run} {e : Event} {name : String} (h : ¬ e.Concerns name) :
    (r.step e).1.permit? name = r.permit? name := by
  cases e with
  | acquire other =>
    have hne : name ≠ other := fun he => h he.symm
    cases hres : (r.breaker.acquire r.now).1 with
    | none =>
      rw [step_acquire_rejected hres]
      rfl
    | some p =>
      cases hold : r.permit? other with
      | none =>
        rw [step_acquire_new hres hold]
        exact permit?_cons_without_of_ne hne p
      | some old =>
        rw [step_acquire_again hres hold]
        exact permit?_cons_without_of_ne hne p
  | record other fault =>
    have hne : name ≠ other := fun he => h he.symm
    cases hp : r.permit? other with
    | none => rw [step_record_unknown hp]
    | some p =>
      rw [step_record hp]
      exact permit?_without_of_ne hne
  | drop other =>
    have hne : name ≠ other := fun he => h he.symm
    cases hp : r.permit? other with
    | none => rw [step_drop_unknown hp]
    | some p =>
      rw [step_drop hp]
      exact permit?_without_of_ne hne
  | wait span => rfl

theorem permit?_after {r : Run} {events : List Event} {name : String} (h : ∀ e ∈ events, ¬ e.Concerns name) :
    (r.after events).permit? name = r.permit? name := by
  induction events generalizing r with
  | nil => rfl
  | cons e events ih =>
    have hrest := ih (r := (r.step e).1) fun e' he' => h e' (List.mem_cons_of_mem _ he')
    exact hrest.trans (permit?_step (h e List.mem_cons_self))

theorem after_append (r : Run) (events more : List Event) : r.after (events ++ more) = (r.after events).after more :=
  List.foldl_append

theorem permit?_step_ends {r : Run} {e : Event} {name : String} (h : e.Ends name) : (r.step e).1.permit? name = none := by
  have hgone : ((r.without name).find? fun p => p.1 == name) = none := by
    simp [without]
  cases e with
  | acquire other => cases h
  | record other fault =>
    obtain rfl : other = name := h
    cases hp : r.permit? other with
    | none =>
      rw [step_record_unknown hp]
      exact hp
    | some p => simp [step_record hp, permit?, hgone]
  | drop other =>
    obtain rfl : other = name := h
    cases hp : r.permit? other with
    | none =>
      rw [step_drop_unknown hp]
      exact hp
    | some p => simp [step_drop hp, permit?, hgone]
  | wait span => cases h

/-! ## The probe that is out -/

theorem weight_le_countProbes {permits : List (String × Permit)} {name : String} {p : Permit}
    (h : (permits.find? fun q => q.1 == name).map Prod.snd = some p) : weight p ≤ countProbes permits := by
  induction permits with
  | nil => simp at h
  | cons q rest ih =>
    rw [countProbes_cons]
    by_cases hq : q.1 = name
    · have hp : q.2 = p := by simpa [hq] using h
      rw [hp]
      exact Nat.le_add_right _ _
    · have hrest := ih (by simpa [hq] using h)
      omega

theorem exists_probe_of_countProbes {permits : List (String × Permit)} (hn : (permits.map Prod.fst).Nodup)
    (h : countProbes permits ≠ 0) : ∃ name, (permits.find? fun q => q.1 == name).map Prod.snd = some ⟨true⟩ := by
  induction permits with
  | nil => simp at h
  | cons q rest ih =>
    obtain ⟨hq, hrest⟩ := List.nodup_cons.mp hn
    obtain ⟨first, _ | _⟩ := q
    · obtain ⟨name, hname⟩ := ih hrest (by simpa [weight] using h)
      refine ⟨name, ?_⟩
      -- The name is not that of the first permit, which no other has.
      have hne : first ≠ name := by
        intro he
        obtain ⟨found, hfind, -⟩ := Option.map_eq_some_iff.mp hname
        have hfound : found.1 = name := by simpa using List.find?_some hfind
        exact hq (List.mem_map.mpr ⟨found, List.mem_of_find?_eq_some hfind, hfound.trans he.symm⟩)
      simpa [hne] using hname
    · exact ⟨first, by simp⟩

theorem exists_probe {r : Run} (h : r.Sound) (hp : r.probes ≠ 0) : ∃ name, r.permit? name = some ⟨true⟩ :=
  exists_probe_of_countProbes h.names hp

theorem probes_eq_one {r : Run} (h : r.Sound) {name : String} (hp : r.permit? name = some ⟨true⟩) : r.probes = 1 := by
  have hle := h.fields.probes_le_one
  have hge : weight ⟨true⟩ ≤ r.probes := weight_le_countProbes hp
  simp only [weight, if_true] at hge
  omega

theorem halfOpen_of_probe {r : Run} (h : r.Sound) {name : String} (hp : r.permit? name = some ⟨true⟩) :
    r.breaker.phase = .halfOpen :=
  h.fields.halfOpen_iff.mpr (h.fields.probing_iff.mpr (probes_eq_one h hp))

/-- Outside the half-open phase no permit that is out is a probe. -/
theorem plain_of_permit? {r : Run} (h : r.Sound) (hp : r.breaker.phase ≠ .halfOpen) {name : String} {p : Permit}
    (hname : r.permit? name = some p) : p = ⟨false⟩ := by
  obtain ⟨_ | _⟩ := p
  · rfl
  · exact absurd (halfOpen_of_probe h hname) hp

theorem plain_of_other_probe {r : Run} (h : r.Sound) {call name : String} (hcall : r.permit? call = some ⟨true⟩)
    (hne : name ≠ call) {p : Permit} (hname : r.permit? name = some p) : p = ⟨false⟩ := by
  have hrest := probes_without h hcall
  have hone := probes_eq_one h hcall
  have hle : weight p ≤ countProbes (r.without call) := by
    apply weight_le_countProbes
    rw [permit?_without_of_ne hne]
    exact hname
  obtain ⟨_ | _⟩ := p
  · rfl
  · simp only [weight, if_true] at hrest hle
    omega

theorem probes_step_ends {r : Run} (h : r.Sound) {call : String} (hcall : r.permit? call = some ⟨true⟩) {e : Event}
    (he : e.Ends call) : (r.step e).1.probes = 0 := by
  have hrest : countProbes (r.without call) = 0 := by
    have hall := probes_without h hcall
    have hone := probes_eq_one h hcall
    simp only [weight, if_true] at hall
    omega
  cases e with
  | acquire name => cases he
  | record name fault =>
    obtain rfl : name = call := he
    rw [step_record hcall]
    exact hrest
  | drop name =>
    obtain rfl : name = call := he
    rw [step_drop hcall]
    exact hrest
  | wait span => cases he

/-! ## One event, phase by phase -/

theorem step_closed {r : Run} (h : r.Sound) (hp : r.breaker.phase = .closed) (e : Event) :
    (r.step e).1.breaker.phase = .closed ∨
      (r.step e).1.breaker.phase = .opened ∧ (r.step e).1.breaker.openedAt = some r.now := by
  have hidle : r.breaker.phase ≠ .halfOpen := by simp [hp]
  cases e with
  | acquire name =>
    left
    have hacquire : r.breaker.acquire r.now = (some ⟨false⟩, r.breaker, []) := acquire_closed hp
    cases hold : r.permit? name with
    | none =>
      rw [step_acquire_new (p := ⟨false⟩) (by rw [hacquire]) hold, hacquire]
      exact hp
    | some old =>
      obtain rfl := plain_of_permit? h hidle hold
      rw [step_acquire_again (p := ⟨false⟩) (by rw [hacquire]) hold, hacquire, drop_plain]
      exact hp
  | record name fault =>
    cases hname : r.permit? name with
    | none =>
      rw [step_record_unknown hname]
      exact .inl hp
    | some p =>
      obtain rfl := plain_of_permit? h hidle hname
      rw [step_record hname]
      exact record_closed hp r.now fault
  | drop name =>
    left
    cases hname : r.permit? name with
    | none =>
      rw [step_drop_unknown hname]
      exact hp
    | some p =>
      obtain rfl := plain_of_permit? h hidle hname
      rw [step_drop hname, drop_plain]
      exact hp
  | wait span => exact .inl hp

/-- The end of a call whose permit is no probe, outside the closed phase. -/
theorem breaker_step_late {r : Run} (hp : r.breaker.phase ≠ .closed) (name : String)
    (hname : ∀ p, r.permit? name = some p → p = ⟨false⟩) {e : Event} (he : e.Ends name) :
    (r.step e).1.breaker = r.breaker := by
  cases e with
  | acquire name => cases he
  | record other fault =>
    obtain rfl : other = name := he
    cases hperm : r.permit? other with
    | none => rw [step_record_unknown hperm]
    | some p =>
      obtain rfl := hname p hperm
      rw [step_record hperm]
      exact record_late hp r.now fault
  | drop other =>
    obtain rfl : other = name := he
    cases hperm : r.permit? other with
    | none => rw [step_drop_unknown hperm]
    | some p =>
      obtain rfl := hname p hperm
      rw [step_drop hperm]
      exact drop_plain r.breaker r.now
  | wait span => cases he

/-- An open breaker stays as it is, unless a call asks for a permit after its cool-down. -/
theorem breaker_step_opened {r : Run} (h : r.Sound) (hp : r.breaker.phase = .opened) {e : Event}
    (hcool : e.Asks → r.breaker.isCooled r.now = false) : (r.step e).1.breaker = r.breaker := by
  have hidle : r.breaker.phase ≠ .halfOpen := by simp [hp]
  have hopen : r.breaker.phase ≠ .closed := by simp [hp]
  cases e with
  | acquire name =>
    have hacquire := acquire_cooling hp (hcool trivial)
    rw [step_acquire_rejected (by rw [hacquire]), hacquire]
  | record name fault => exact breaker_step_late hopen name (fun p => plain_of_permit? h hidle) rfl
  | drop name => exact breaker_step_late hopen name (fun p => plain_of_permit? h hidle) rfl
  | wait span => rfl

/-- While a probe is out, nothing but its end changes the breaker, and the probe stays out. -/
theorem step_halfOpen {r : Run} (h : r.Sound) {call : String} (hcall : r.permit? call = some ⟨true⟩) {e : Event}
    (he : ¬ e.Ends call) : (r.step e).1.breaker = r.breaker ∧ (r.step e).1.permit? call = some ⟨true⟩ := by
  have hhalf := halfOpen_of_probe h hcall
  have hopen : r.breaker.phase ≠ .closed := by simp [hhalf]
  cases e with
  | acquire name =>
    have hacquire : r.breaker.acquire r.now = (none, r.breaker, [.rejected r.breaker.name]) :=
      acquire_probing hhalf (h.fields.halfOpen_iff.mp hhalf)
    rw [step_acquire_rejected (by rw [hacquire]), hacquire]
    exact ⟨rfl, hcall⟩
  | record name fault =>
    have hother : ¬ (Event.record name fault).Concerns call := he
    constructor
    · exact breaker_step_late hopen name (fun p => plain_of_other_probe h hcall he) rfl
    · rw [permit?_step hother]
      exact hcall
  | drop name =>
    have hother : ¬ (Event.drop name).Concerns call := he
    constructor
    · exact breaker_step_late hopen name (fun p => plain_of_other_probe h hcall he) rfl
    · rw [permit?_step hother]
      exact hcall
  | wait span => exact ⟨rfl, hcall⟩

end Run

end Campus.Breaker
