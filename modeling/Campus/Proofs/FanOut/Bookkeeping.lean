import Campus.FanOut

/-! # The books of a job

What holds of a job whatever its fetches do. Every unit waits, runs or has ended, and none is lost or doubled; units that end
keep the order of the ids as long as they end together; a unit waits only while no permit is free.
-/
namespace Campus.FanOut

/-- The place and the id of a unit, by which it is known from its first to its last state. -/
abbrev Key := Nat × String

def Waiting.key (u : Waiting) : Key := (u.index, u.id)

def Running.key {ρ : Type} (u : Running ρ) : Key := (u.index, u.id)

def Outcome.key {ε : Type} (o : Outcome ε) : Key := (o.index, o.id)

namespace Job

variable {σ ρ ε : Type}

/-- The units of a job that have not ended, in the order of the ids. -/
def left (job : Job ρ ε) : List Key := job.running.map Running.key ++ job.waiting.map Waiting.key

/-! ## Units that are due -/

theorem running_finishDue (w : Worker σ ρ ε) (now : Instant) (running : List (Running ρ)) (s : σ) :
    (finishDue w now running s).1.2 = running.filter fun u => now < u.due := by
  induction running generalizing s with
  | nil => rfl
  | cons u rest ih =>
    unfold finishDue
    by_cases h : u.due ≤ now
    · rw [if_pos h, List.filter_cons_of_neg (by simpa using h)]
      exact ih _
    · rw [if_neg h, List.filter_cons_of_pos (by simpa using h)]
      exact congrArg (u :: ·) (ih s)

theorem key_finishDue (w : Worker σ ρ ε) (now : Instant) (running : List (Running ρ)) (s : σ) :
    (finishDue w now running s).1.1.map Outcome.key = (running.filter fun u => u.due ≤ now).map Running.key := by
  induction running generalizing s with
  | nil => rfl
  | cons u rest ih =>
    unfold finishDue
    by_cases h : u.due ≤ now
    · rw [if_pos h, List.filter_cons_of_pos (by simpa using h)]
      exact congrArg (u.key :: ·) (ih _)
    · rw [if_neg h, List.filter_cons_of_neg (by simpa using h)]
      exact ih s

theorem perm_finishDue (w : Worker σ ρ ε) (now : Instant) (running : List (Running ρ)) (s : σ) :
    ((finishDue w now running s).1.1.map Outcome.key ++ (finishDue w now running s).1.2.map Running.key).Perm
      (running.map Running.key) := by
  have hsplit : (fun u : Running ρ => decide (now < u.due)) = fun u => !decide (u.due ≤ now) := by
    funext u
    rw [← decide_not]
    exact decide_eq_decide.mpr Nat.not_le.symm
  rw [key_finishDue, running_finishDue, ← List.map_append, hsplit]
  exact (List.filter_append_perm (fun u : Running ρ => decide (u.due ≤ now)) running).map Running.key

theorem sublist_finishDue (w : Worker σ ρ ε) (now : Instant) (running : List (Running ρ)) (s : σ) :
    ((finishDue w now running s).1.1.map Outcome.key).Sublist (running.map Running.key) := by
  rw [key_finishDue]
  exact List.filter_sublist.map Running.key

theorem length_finishDue (w : Worker σ ρ ε) (now : Instant) (running : List (Running ρ)) (s : σ) :
    (finishDue w now running s).1.1.length + (finishDue w now running s).1.2.length = running.length := by
  have h := (perm_finishDue w now running s).length_eq
  simpa using h

/-! ## Units that wait -/

/-- Units start in their order: those in front have started, and each of them has ended or goes on. -/
theorem split_startWaiting (w : Worker σ ρ ε) (now : Instant) (waiting : List Waiting) (free : Option Nat) (s : σ) :
    ∃ begun, waiting = begun ++ (startWaiting w now waiting free s).1.waiting ∧
      ((startWaiting w now waiting free s).1.outcomes.map Outcome.key ++
        (startWaiting w now waiting free s).1.running.map Running.key).Perm (begun.map Waiting.key) ∧
      ((startWaiting w now waiting free s).1.outcomes.map Outcome.key).Sublist (begun.map Waiting.key) ∧
      ((startWaiting w now waiting free s).1.running.map Running.key).Sublist (begun.map Waiting.key) := by
  induction waiting generalizing free s with
  | nil => exact ⟨[], by simp [startWaiting]⟩
  | cons u rest ih =>
    by_cases hfree : free = some 0
    · exact ⟨[], by simp [startWaiting, hfree]⟩
    · rcases hstart : w.start now u.context u.id s with ⟨ending | ⟨due, fetch⟩, s'⟩
      · obtain ⟨begun, hwait, hperm, hout, hrun⟩ := ih free s'
        simp only [startWaiting, hfree, if_false, hstart]
        exact ⟨u :: begun, congrArg (u :: ·) hwait, hperm.cons _, hout.cons_cons _, hrun.cons _⟩
      · obtain ⟨begun, hwait, hperm, hout, hrun⟩ := ih (free.map (· - 1)) s'
        simp only [startWaiting, hfree, if_false, hstart]
        exact ⟨u :: begun, congrArg (u :: ·) hwait, List.perm_middle.trans (hperm.cons _), hout.cons _, hrun.cons_cons _⟩

theorem free_of_waiting (w : Worker σ ρ ε) (now : Instant) (waiting : List Waiting) (free : Option Nat) (s : σ)
    (h : (startWaiting w now waiting free s).1.waiting ≠ []) : (startWaiting w now waiting free s).1.free = some 0 := by
  induction waiting generalizing free s with
  | nil => exact absurd rfl h
  | cons u rest ih =>
    by_cases hfree : free = some 0
    · simp [startWaiting, hfree]
    · rcases hstart : w.start now u.context u.id s with ⟨ending | ⟨due, fetch⟩, s'⟩
      · simp only [startWaiting, hfree, if_false, hstart] at h ⊢
        exact ih free s' h
      · simp only [startWaiting, hfree, if_false, hstart] at h ⊢
        exact ih (free.map (· - 1)) s' h

/-! ## One instant of a job -/

section RunUnits

variable (w : Worker σ ρ ε) (now : Instant) (job : Job ρ ε) (s : σ)

theorem perm_runUnits :
    ((runUnits w now job s).1.1.map Outcome.key ++ (runUnits w now job s).1.2.left).Perm job.left := by
  have hended := perm_finishDue w now job.running s
  rcases hf : finishDue w now job.running s with ⟨⟨ended, running⟩, s'⟩
  obtain ⟨begun, hwait, hperm, -, -⟩ := split_startWaiting w now job.waiting (job.free.map (· + ended.length)) s'
  rcases hs : startWaiting w now job.waiting (job.free.map (· + ended.length)) s' with ⟨r, s''⟩
  rw [hf] at hended
  rw [hs] at hwait hperm
  simp only [runUnits, hf, hs, left, List.map_append]
  rw [hwait, List.map_append]
  -- Both sides are put in the order: ended, still running, ended at once, started, still waiting.
  have hstarted := hperm.append_right (r.waiting.map Waiting.key)
  have hall := hended.append hstarted
  refine List.Perm.trans ?_ hall
  simp only [List.append_assoc]
  refine List.Perm.append_left _ ?_
  simp only [← List.append_assoc]
  refine List.Perm.append_right _ (List.Perm.append_right _ List.perm_append_comm)

theorem sublist_runUnits : ((runUnits w now job s).1.1.map Outcome.key).Sublist job.left := by
  have hended := sublist_finishDue w now job.running s
  rcases hf : finishDue w now job.running s with ⟨⟨ended, running⟩, s'⟩
  obtain ⟨begun, hwait, -, hout, -⟩ := split_startWaiting w now job.waiting (job.free.map (· + ended.length)) s'
  rcases hs : startWaiting w now job.waiting (job.free.map (· + ended.length)) s' with ⟨r, s''⟩
  rw [hf] at hended
  rw [hs] at hwait hout
  simp only [runUnits, hf, hs, left, List.map_append]
  rw [hwait, List.map_append]
  exact hended.append (hout.trans (List.sublist_append_left _ _))

theorem left_runUnits : (runUnits w now job s).1.2.left.Sublist job.left := by
  have hrunning := running_finishDue w now job.running s
  rcases hf : finishDue w now job.running s with ⟨⟨ended, running⟩, s'⟩
  obtain ⟨begun, hwait, -, -, hrun⟩ := split_startWaiting w now job.waiting (job.free.map (· + ended.length)) s'
  rcases hs : startWaiting w now job.waiting (job.free.map (· + ended.length)) s' with ⟨r, s''⟩
  have hkept : running = job.running.filter fun u => now < u.due := by simpa [hf] using hrunning
  rw [hs] at hwait hrun
  simp only [runUnits, hf, hs, left, List.map_append]
  rw [hwait, List.map_append, List.append_assoc, hkept]
  exact (List.filter_sublist.map _).append (hrun.append (List.Sublist.refl _))

end RunUnits

/-! ## Places -/

def entity? : Ending ε → Option ε
  | .returned (.ok e) => some e
  | _ => none

theorem entity?_eq_some_iff {ending : Ending ε} {e : ε} : entity? ending = some e ↔ resultOf ending = .ok e := by
  cases ending with
  | returned result => cases result <;> simp [entity?, resultOf]
  | panicked text => simp [entity?, resultOf]
  | dropped => simp [entity?, resultOf]

/-- A list that has the entities of fetches which all gave one. -/
theorem eq_map_range {list : List ε} {count : Nat} {ending : Nat → Ending ε} {entity : Nat → ε}
    (hlength : list.length = count) (hentities : ∀ i < count, list[i]? = entity? (ending i))
    (hall : ∀ i < count, ending i = .returned (.ok (entity i))) : list = (List.range count).map entity := by
  refine List.ext_getElem? fun i => ?_
  obtain hi | hi := Nat.lt_or_ge i count
  · rw [hentities i hi, hall i hi, List.getElem?_map, List.getElem?_range hi]
    rfl
  · simp [hi, hlength]

/-- Outcomes without a fault all find their places, and so many fewer units remain. -/
theorem gather_ok (outcomes : List (Outcome ε)) (remaining : Nat) (slots : List (Option ε))
    (h : ∀ o ∈ outcomes, ∃ e, o.result = .ok e) (hcount : outcomes.length ≤ remaining) :
    ∃ slots', gather (outcomes.map .ok) remaining slots = .ok (remaining - outcomes.length, slots') ∧
      slots'.length = slots.length ∧ (∀ i, i ∉ outcomes.map Outcome.index → slots'[i]? = slots[i]?) ∧
      ∀ o ∈ outcomes, o.index < slots.length → (outcomes.map Outcome.index).Nodup →
        ∃ e, o.result = .ok e ∧ slots'[o.index]? = some (some e) := by
  induction outcomes generalizing remaining slots with
  | nil => exact ⟨slots, rfl, rfl, by simp⟩
  | cons o rest ih =>
    obtain ⟨e, he⟩ := h o List.mem_cons_self
    obtain ⟨i, id, result⟩ := o
    obtain rfl : result = .ok e := he
    obtain ⟨remaining, rfl⟩ := Nat.exists_eq_add_one.mpr (Nat.zero_lt_of_lt hcount)
    obtain ⟨slots', hg, hlen, hout, hin⟩ :=
      ih remaining (slots.set i (some e)) (fun o ho => h o (List.mem_cons_of_mem _ ho)) (Nat.le_of_succ_le_succ hcount)
    rw [List.length_set] at hlen
    refine ⟨slots', ?_, hlen, ?_, ?_⟩
    · rw [List.length_cons, Nat.add_sub_add_right]
      exact hg
    · intro j hj
      obtain ⟨hne, hrest⟩ : j ≠ i ∧ j ∉ rest.map Outcome.index := by simpa using hj
      rw [hout j hrest, List.getElem?_set_ne (Ne.symm hne)]
    · intro o ho hlt hnodup
      obtain ⟨hi, hnd⟩ := List.nodup_cons.mp hnodup
      obtain rfl | ho := List.mem_cons.mp ho
      · exact ⟨e, rfl, by rw [hout i hi, List.getElem?_set_self hlt]⟩
      · exact hin o ho (by rwa [List.length_set]) hnd

/-- The first outcome with a fault decides, whatever stands behind it. -/
theorem gather_error (before after : List (Outcome ε)) (o : Outcome ε) {f : Fault} {remaining : Nat} (slots : List (Option ε))
    (h : ∀ o ∈ before, ∃ e, o.result = .ok e) (hf : o.result = .error f) (hcount : before.length < remaining) :
    gather ((before ++ o :: after).map .ok) remaining slots = .error (.unit o.id f) := by
  obtain ⟨remaining, rfl⟩ := Nat.exists_eq_add_one.mpr (Nat.zero_lt_of_lt hcount)
  induction before generalizing remaining slots with
  | nil =>
    obtain ⟨i, id, result⟩ := o
    obtain rfl : result = .error f := hf
    rfl
  | cons p before ih =>
    obtain ⟨e, he⟩ := h p List.mem_cons_self
    obtain ⟨i, id, result⟩ := p
    obtain rfl : result = .ok e := he
    have hbefore : before.length < remaining := Nat.lt_of_succ_lt_succ hcount
    obtain ⟨remaining, rfl⟩ := Nat.exists_eq_add_one.mpr (Nat.zero_lt_of_lt hbefore)
    exact ih _ (fun o ho => h o (List.mem_cons_of_mem _ ho)) remaining hbefore

theorem all_ok_or_first_error (outcomes : List (Outcome ε)) :
    (∀ o ∈ outcomes, ∃ e, o.result = .ok e) ∨
      ∃ before o after f, outcomes = before ++ o :: after ∧ (∀ o ∈ before, ∃ e, o.result = .ok e) ∧
        o.result = .error f := by
  induction outcomes with
  | nil => exact .inl (by simp)
  | cons o rest ih =>
    cases ho : o.result with
    | error f => exact .inr ⟨[], o, rest, f, rfl, by simp, ho⟩
    | ok e =>
      obtain hall | ⟨before, p, after, f, rfl, hok, hp⟩ := ih
      · exact .inl (by simpa [ho] using hall)
      · exact .inr ⟨o :: before, p, after, f, rfl, by simpa [ho] using hok, hp⟩

theorem collect_of_filled {slots : List (Option ε)} (h : none ∉ slots) :
    ∃ list, collect slots = .ok list ∧ slots = list.map some := by
  induction slots with
  | nil => exact ⟨[], rfl, rfl⟩
  | cons slot slots ih =>
    cases slot with
    | none => exact absurd List.mem_cons_self h
    | some e =>
      obtain ⟨list, hcollect, rfl⟩ := ih fun hnone => h (List.mem_cons_of_mem _ hnone)
      refine ⟨e :: list, ?_, rfl⟩
      rw [collect, hcollect]
      rfl

/-- Nothing but an empty place is found fault with. -/
theorem collect_error {slots : List (Option ε)} {f : Fault} (h : collect slots = .error f) : f = emptySlot := by
  induction slots with
  | nil => cases h
  | cons slot slots ih =>
    cases slot with
    | none =>
      cases h
      rfl
    | some e =>
      rw [collect] at h
      cases hrest : collect slots with
      | ok list =>
        rw [hrest] at h
        cases h
      | error g =>
        rw [hrest] at h
        cases h
        exact ih hrest

theorem isIdle_iff {job : Job ρ ε} : job.isIdle = true ↔ job.left = [] := by
  simp [isIdle, left, List.isEmpty_iff]

/-! ## One instant -/

/-- What a job comes to whose units have run and left the state `s`. -/
inductive Joins (outcomes : List (Outcome ε)) (job : Job ρ ε) (ts : Tokens) (s : σ) : Progress ρ ε × Tokens × σ → Prop where
  | failed {id : String} {fault : Fault} (h : gather (outcomes.map .ok) job.remaining job.slots = .error (.unit id fault)) :
    Joins outcomes job ts s
      (.over (.error (.aggregate job.seed id fault)) [.fanOutFailed job.seed id fault.message] job.running.reverse,
        ts.cancel job.context.token, s)
  | ended {remaining : Nat} {slots : List (Option ε)}
      (h : gather (outcomes.map .ok) job.remaining job.slots = .ok (remaining, slots)) (hover : remaining = 0 ∨ job.left = []) :
    Joins outcomes job ts s (.over (collect slots) [.fanOutComplete job.seed slots.length] job.running.reverse, ts, s)
  | going {remaining : Nat} {slots : List (Option ε)}
      (h : gather (outcomes.map .ok) job.remaining job.slots = .ok (remaining, slots)) (hleft : job.left ≠ []) :
    Joins outcomes job ts s (.going { job with remaining, slots }, ts, s)

/-- The tasks of units do not fail, whatever becomes of the units. -/
theorem gather_ne_task (outcomes : List (Outcome ε)) (remaining : Nat) (slots : List (Option ε)) (reason : String) :
    gather (outcomes.map .ok) remaining slots ≠ .error (.task reason) := by
  induction outcomes generalizing remaining slots with
  | nil => simp [gather]
  | cons o rest ih =>
    obtain ⟨i, id, e | f⟩ := o <;> cases remaining <;> simp [gather, ih]

theorem joins_step (w : Worker σ ρ ε) (now : Instant) (job : Job ρ ε) (ts : Tokens) (s : σ) :
    Joins (runUnits w now job s).1.1 (runUnits w now job s).1.2 ts (runUnits w now job s).2 (step w now job ts s) := by
  unfold step
  rcases runUnits w now job s with ⟨⟨outcomes, job'⟩, s'⟩
  dsimp only
  split
  case h_1 hgather => exact .failed hgather
  case h_2 reason hgather => exact absurd hgather (gather_ne_task _ _ _ reason)
  case h_3 remaining slots hgather =>
    split
    case isTrue hover => exact .ended hgather (by simpa [isIdle_iff] using hover)
    case isFalse hopen => exact .going hgather fun hleft => hopen (by simp [isIdle_iff.mpr hleft])

end Job

end Campus.FanOut
