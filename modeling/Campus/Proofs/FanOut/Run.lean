import Campus.Proofs.FanOut.Bookkeeping

/-! # Whole runs of a job

A rule for jobs whose fetches end in a known way. A worker serves its units under an invariant when each start and each end
keeps it, and so does the time that passes while all permits are in use. Then a job ends at some instant: with the entities of
all units, or with the fault of the unit that failed first.
-/
namespace Campus.FanOut.Job

variable {σ ρ ε : Type}

/-- What the rule asks of a worker. The invariant speaks of the instant, the units that run, how many were started and the
state; `Ends t i` says that unit `i` ends at `t`. -/
structure Serves (w : Worker σ ρ ε) (units : List Waiting) (capacity : Nat) (ending : Nat → Ending ε)
    (Inv : Instant → List (Running ρ) → Nat → σ → Prop) (Ends : Instant → Nat → Prop) : Prop where
  capacity_pos : 0 < capacity
  index : ∀ {k : Nat} {u : Waiting}, units[k]? = some u → u.index = k
  start : ∀ {t running k s} {u : Waiting}, units[k]? = some u → running.length < capacity → Inv t running k s →
    (∃ s', w.start t u.context u.id s = (.ended (ending k), s') ∧ Ends t k ∧ Inv t running (k + 1) s') ∨
      ∃ due fetch s', w.start t u.context u.id s = (.running due fetch, s') ∧ t < due ∧
        Inv t (running ++ [⟨k, u.id, due, fetch⟩]) (k + 1) s'
  finish : ∀ {t before after k s} {u : Running ρ}, u.due ≤ t → Inv t (before ++ u :: after) k s →
    ∃ s', w.finish t u.fetch s = (ending u.index, s') ∧ Ends t u.index ∧ Inv t (before ++ after) k s'
  later : ∀ {t t' running k s}, (k < units.length → running.length = capacity) → t ≤ t' →
    (∀ u ∈ running, t' ≤ u.due) → Inv t running k s → Inv t' running k s

/-- The permits that are free, when so many units run and so many were started. Without a bound there is one for each unit. -/
def Permits (capacity count : Nat) (free : Option Nat) (running started : Nat) : Prop :=
  match free with
  | none => capacity = count ∧ running ≤ started
  | some f => running + f = capacity

/-- How a job stands at an instant, before its units run: the units in front were started, what has ended gave an entity, the
places of the others are empty, and as many remain. -/
structure Stands (units : List Waiting) (capacity : Nat) (ending : Nat → Ending ε)
    (Inv : Instant → List (Running ρ) → Nat → σ → Prop) (t : Instant) (job : Job ρ ε) (k : Nat) (s : σ) : Prop where
  waiting : job.waiting = units.drop k
  le_length : k ≤ units.length
  left : job.left.Sublist (units.map Waiting.key)
  permits : Permits capacity units.length job.free job.running.length k
  inv : Inv t job.running k s
  remaining : job.remaining = job.left.length
  slots_length : job.slots.length = units.length
  empty : ∀ i < units.length, i ∈ job.left.map Prod.fst → job.slots[i]? = some none
  filled : ∀ i < units.length, i ∉ job.left.map Prod.fst → ∃ e, entity? (ending i) = some e ∧ job.slots[i]? = some (some e)

/-- An outcome is what its unit's fetch gave, at the instant at which the unit ends. -/
structure Told (ending : Nat → Ending ε) (Ends : Instant → Nat → Prop) (t : Instant) (o : Outcome ε) : Prop where
  result : o.result = resultOf (ending o.index)
  ends : Ends t o.index

section Permits

variable {capacity count running started f : Nat} {free : Option Nat}

theorem Permits.lt_capacity (h : Permits capacity count free running started) (hs : started < count)
    (hf : free ≠ some 0) : running < capacity := by
  cases free with
  | none => exact h.1 ▸ Nat.lt_of_le_of_lt h.2 hs
  | some f =>
    have hpos : f ≠ 0 := fun h0 => hf (by rw [h0])
    have hsum : running + f = capacity := h
    omega

theorem Permits.ended (h : Permits capacity count free running started) :
    Permits capacity count free running (started + 1) := by
  cases free with
  | none => exact ⟨h.1, Nat.le_succ_of_le h.2⟩
  | some f => exact h

theorem Permits.taken (h : Permits capacity count free running started) (hf : free ≠ some 0) :
    Permits capacity count (free.map (· - 1)) (running + 1) (started + 1) := by
  cases free with
  | none => exact ⟨h.1, Nat.succ_le_succ h.2⟩
  | some f =>
    have hpos : f ≠ 0 := fun h0 => hf (by rw [h0])
    have hsum : running + f = capacity := h
    show running + 1 + (f - 1) = capacity
    omega

theorem Permits.given (h : Permits capacity count free running started) {gone still : Nat}
    (hn : gone + still = running) : Permits capacity count (free.map (· + gone)) still started := by
  cases free with
  | none => exact ⟨h.1, Nat.le_trans (Nat.le.intro (Nat.add_comm gone still ▸ hn)) h.2⟩
  | some f =>
    have hsum : running + f = capacity := h
    show still + (f + gone) = capacity
    omega

end Permits

namespace Serves

variable {w : Worker σ ρ ε} {units : List Waiting} {capacity : Nat} {ending : Nat → Ending ε}
  {Inv : Instant → List (Running ρ) → Nat → σ → Prop} {Ends : Instant → Nat → Prop}

/-! ## Units end and start -/

theorem finishDue (h : Serves w units capacity ending Inv Ends) {t : Instant} {before running : List (Running ρ)} {k : Nat}
    {s : σ} (hinv : Inv t (before ++ running) k s) :
    Inv t (before ++ (Job.finishDue w t running s).1.2) k (Job.finishDue w t running s).2 ∧
      ∀ o ∈ (Job.finishDue w t running s).1.1, Told ending Ends t o := by
  induction running generalizing before s with
  | nil => exact ⟨hinv, by simp [Job.finishDue]⟩
  | cons u rest ih =>
    by_cases hdue : u.due ≤ t
    · obtain ⟨s', hfinish, hends, hnext⟩ := h.finish hdue hinv
      obtain ⟨hrest, htold⟩ := ih hnext
      simp only [Job.finishDue, hdue, if_true, hfinish]
      refine ⟨hrest, ?_⟩
      intro o ho
      obtain rfl | ho := List.mem_cons.mp ho
      · exact ⟨rfl, hends⟩
      · exact htold o ho
    · rw [List.append_cons] at hinv
      obtain ⟨hrest, htold⟩ := ih hinv
      simp only [Job.finishDue, hdue, if_false]
      rw [List.append_cons]
      exact ⟨hrest, htold⟩

theorem startWaiting (h : Serves w units capacity ending Inv Ends) {t : Instant} {running : List (Running ρ)} {k : Nat}
    {s : σ} {free : Option Nat} (hp : Permits capacity units.length free running.length k) (hk : k ≤ units.length)
    (hinv : Inv t running k s) :
    ∃ m, m ≤ units.length ∧ (Job.startWaiting w t (units.drop k) free s).1.waiting = units.drop m ∧
      Permits capacity units.length (Job.startWaiting w t (units.drop k) free s).1.free
        (running ++ (Job.startWaiting w t (units.drop k) free s).1.running).length m ∧
      Inv t (running ++ (Job.startWaiting w t (units.drop k) free s).1.running) m
        (Job.startWaiting w t (units.drop k) free s).2 ∧
      (∀ u ∈ (Job.startWaiting w t (units.drop k) free s).1.running, t < u.due) ∧
      ∀ o ∈ (Job.startWaiting w t (units.drop k) free s).1.outcomes, Told ending Ends t o := by
  induction hw : units.drop k generalizing k running free s with
  | nil =>
    simp only [Job.startWaiting, List.append_nil]
    exact ⟨k, hk, hw.symm, hp, hinv, by simp, by simp⟩
  | cons u rest ih =>
    by_cases hfree : free = some 0
    · simp only [Job.startWaiting, hfree, if_true, List.append_nil]
      exact ⟨k, hk, hw.symm, hfree ▸ hp, hinv, by simp, by simp⟩
    have hu : units[k]? = some u := by rw [← List.head?_drop, hw, List.head?_cons]
    have hlt : k < units.length := (List.getElem?_eq_some_iff.mp hu).1
    have hrest : units.drop (k + 1) = rest := by rw [← List.tail_drop, hw, List.tail_cons]
    obtain ⟨s', hstart, hends, hnext⟩ | ⟨due, fetch, s', hstart, hlater, hnext⟩ :=
      h.start hu (hp.lt_capacity hlt hfree) hinv
    · obtain ⟨m, hm, hwait, hperm, hinv', hdue, htold⟩ := ih hp.ended hlt hnext hrest
      simp only [Job.startWaiting, hfree, if_false, hstart]
      refine ⟨m, hm, hwait, hperm, hinv', hdue, ?_⟩
      intro o ho
      obtain rfl | ho := List.mem_cons.mp ho
      · exact ⟨by rw [h.index hu], by rwa [h.index hu]⟩
      · exact htold o ho
    · have hp' : Permits capacity units.length (free.map (· - 1)) (running ++ [(⟨k, u.id, due, fetch⟩ : Running ρ)]).length (k + 1) := by
        rw [List.length_append]
        exact hp.taken hfree
      obtain ⟨m, hm, hwait, hperm, hinv', hdue, htold⟩ := ih hp' hlt hnext hrest
      simp only [Job.startWaiting, hfree, if_false, hstart, h.index hu]
      rw [List.append_cons]
      refine ⟨m, hm, hwait, hperm, hinv', ?_, htold⟩
      intro v hv
      obtain rfl | hv := List.mem_cons.mp hv
      · exact hlater
      · exact hdue v hv

/-- What is known of a job once its units have run. -/
structure Ran (units : List Waiting) (capacity : Nat) (ending : Nat → Ending ε)
    (Inv : Instant → List (Running ρ) → Nat → σ → Prop) (Ends : Instant → Nat → Prop) (t : Instant) (job : Job ρ ε)
    (outcomes : List (Outcome ε)) (job' : Job ρ ε) (k : Nat) (s : σ) : Prop where
  waiting : job'.waiting = units.drop k
  le_length : k ≤ units.length
  permits : Permits capacity units.length job'.free job'.running.length k
  busy : k < units.length → job'.running.length = capacity
  inv : Inv t job'.running k s
  due : ∀ u ∈ job'.running, t < u.due
  told : ∀ o ∈ outcomes, Told ending Ends t o
  perm : (outcomes.map Outcome.key ++ job'.left).Perm job.left
  ended : (outcomes.map Outcome.key).Sublist job.left
  left : job'.left.Sublist job.left
  progress : (∃ u ∈ job.running, u.due ≤ t) → outcomes ≠ []
  seed : job'.seed = job.seed
  context : job'.context = job.context
  slots : job'.slots = job.slots
  remaining : job'.remaining = job.remaining

theorem runUnits (h : Serves w units capacity ending Inv Ends) {t : Instant} {job : Job ρ ε} {k : Nat} {s : σ}
    (hs : Stands units capacity ending Inv t job k s) :
    ∃ m, Ran units capacity ending Inv Ends t job (Job.runUnits w t job s).1.1 (Job.runUnits w t job s).1.2 m
      (Job.runUnits w t job s).2 := by
  have hperm := perm_runUnits w t job s
  have hended := sublist_runUnits w t job s
  have hleft := left_runUnits w t job s
  have hkept := running_finishDue w t job.running s
  have hlen := length_finishDue w t job.running s
  have hdone := key_finishDue w t job.running s
  obtain ⟨hinv, htold⟩ := h.finishDue (show Inv t ([] ++ job.running) k s from hs.inv)
  rcases hf : Job.finishDue w t job.running s with ⟨⟨ended, running⟩, s'⟩
  simp only [hf, List.nil_append] at hkept hlen hdone hinv htold
  obtain ⟨m, hm, hwait, hp, hinv', hdue, htold'⟩ := h.startWaiting (hs.permits.given hlen) hs.le_length hinv
  have hfull := free_of_waiting w t (units.drop k) (job.free.map (· + ended.length)) s'
  rcases hst : Job.startWaiting w t (units.drop k) (job.free.map (· + ended.length)) s' with ⟨r, s''⟩
  simp only [hst] at hwait hp hinv' hdue htold' hfull
  have hrun : Job.runUnits w t job s = ((ended ++ r.outcomes,
      { job with free := r.free, waiting := r.waiting, running := running ++ r.running }), s'') := by
    simp only [Job.runUnits, hf, hs.waiting, hst]
  rw [hrun] at hperm hended hleft ⊢
  refine ⟨m, hwait, hm, hp, ?_, hinv', ?_, ?_, hperm, hended, hleft, ?_, rfl, rfl, rfl, rfl⟩
  · intro hlt
    have hnone : r.free = some 0 := hfull (by
      rw [hwait, ne_eq, List.drop_eq_nil_iff]
      omega)
    rw [hnone] at hp
    exact hp
  · intro u hu
    obtain hu | hu := List.mem_append.mp hu
    · rw [hkept] at hu
      simpa using (List.mem_filter.mp hu).2
    · exact hdue u hu
  · intro o ho
    obtain ho | ho := List.mem_append.mp ho
    · exact htold o ho
    · exact htold' o ho
  · rintro ⟨u, hu, hdue⟩ hnil
    have hkey : u.key ∈ ended.map Outcome.key := by
      rw [hdone]
      exact List.mem_map_of_mem (List.mem_filter.mpr ⟨hu, decide_eq_true hdue⟩)
    rw [(List.append_eq_nil_iff.mp hnil).1] at hkey
    simp at hkey

/-! ## One instant of a job -/

theorem map_index_units (h : Serves w units capacity ending Inv Ends) :
    (units.map Waiting.key).map Prod.fst = List.range units.length := by
  rw [List.map_map]
  refine List.ext_getElem (by simp) fun i hi _ => ?_
  rw [List.length_map] at hi
  simpa [Waiting.key] using h.index (List.getElem?_eq_getElem hi)

theorem nodup_left (h : Serves w units capacity ending Inv Ends) {left : List Key}
    (hl : left.Sublist (units.map Waiting.key)) : (left.map Prod.fst).Nodup := by
  refine List.Nodup.sublist (hl.map Prod.fst) ?_
  rw [h.map_index_units]
  exact List.nodup_range

theorem exists_unit (h : Serves w units capacity ending Inv Ends) {t : Instant} {job job' : Job ρ ε}
    {outcomes : List (Outcome ε)} {k m : Nat} {s s' : σ} (hs : Stands units capacity ending Inv t job k s)
    (hr : Ran units capacity ending Inv Ends t job outcomes job' m s') {o : Outcome ε} (ho : o ∈ outcomes) :
    ∃ u, units[o.index]? = some u ∧ u.id = o.id := by
  have hkey : o.key ∈ units.map Waiting.key := (hr.ended.trans hs.left).subset (List.mem_map_of_mem ho)
  obtain ⟨u, hu, hukey⟩ := List.mem_map.mp hkey
  obtain ⟨hindex, hid⟩ : u.index = o.index ∧ u.id = o.id := by simpa [Waiting.key, Outcome.key] using hukey
  obtain ⟨i, hi⟩ := List.getElem?_of_mem hu
  obtain rfl : i = o.index := (h.index hi).symm.trans hindex
  exact ⟨u, hi, hid⟩

theorem Ran.inv_of_nothing {t : Instant} {job job' : Job ρ ε} {outcomes : List (Outcome ε)} {m : Nat} {s : σ}
    (hr : Ran units capacity ending Inv Ends t job outcomes job' m s) (hnothing : job'.left = []) : Inv t [] m s := by
  have hrunning : job'.running = [] := by simpa using (List.append_eq_nil_iff.mp hnothing).1
  have hinv := hr.inv
  rwa [hrunning] at hinv

theorem Ran.count {t : Instant} {job job' : Job ρ ε} {outcomes : List (Outcome ε)} {m : Nat} {s : σ}
    (hr : Ran units capacity ending Inv Ends t job outcomes job' m s) : outcomes.length + job'.left.length = job.left.length := by
  have hkeys := hr.perm.length_eq
  rwa [List.length_append, List.length_map] at hkeys

/-- The places stay right when the outcomes of an instant are put into them, and so does the number of units that remain. -/
theorem stands_of_gather (h : Serves w units capacity ending Inv Ends) {t : Instant} {job job' : Job ρ ε}
    {outcomes : List (Outcome ε)} {k m : Nat} {s s' : σ} (hs : Stands units capacity ending Inv t job k s)
    (hr : Ran units capacity ending Inv Ends t job outcomes job' m s') (hok : ∀ o ∈ outcomes, ∃ e, o.result = .ok e) :
    ∃ slots, gather (outcomes.map .ok) job.remaining job.slots = .ok (job'.left.length, slots) ∧
      Stands units capacity ending Inv t { job' with remaining := job'.left.length, slots } m s' := by
  have hcount := hr.count
  rw [← hs.remaining] at hcount
  obtain ⟨slots, hgather, hlen, hother, hplace⟩ := gather_ok outcomes job.remaining job.slots hok (Nat.le.intro hcount)
  rw [← hcount, Nat.add_sub_cancel_left] at hgather
  have hnodup : ((outcomes.map Outcome.key ++ job'.left).map Prod.fst).Nodup :=
    (hr.perm.map Prod.fst).nodup_iff.mpr (h.nodup_left hs.left)
  have hindex : (outcomes.map Outcome.key).map Prod.fst = outcomes.map Outcome.index := by
    rw [List.map_map]
    rfl
  rw [List.map_append, hindex, List.nodup_append] at hnodup
  obtain ⟨hout, -, hdisjoint⟩ := hnodup
  have hmem : ∀ i, i ∈ job.left.map Prod.fst ↔ i ∈ outcomes.map Outcome.index ∨ i ∈ job'.left.map Prod.fst := by
    intro i
    rw [← (hr.perm.map Prod.fst).mem_iff, List.map_append, hindex, List.mem_append]
  refine ⟨slots, hcount ▸ hgather, hr.waiting, hr.le_length, hr.left.trans hs.left, hr.permits, hr.inv, rfl,
    hlen.trans hs.slots_length, ?_, ?_⟩
  · intro i hi hleft
    have hnot : i ∉ outcomes.map Outcome.index := fun hin => hdisjoint i hin i hleft rfl
    exact (hother i hnot).trans (hs.empty i hi ((hmem i).mpr (.inr hleft)))
  · intro i hi hleft
    by_cases hin : i ∈ outcomes.map Outcome.index
    · obtain ⟨o, ho, rfl⟩ := List.mem_map.mp hin
      obtain ⟨e, he, hslot⟩ := hplace o ho (by rwa [hs.slots_length]) hout
      have htold := (hr.told o ho).result
      exact ⟨e, entity?_eq_some_iff.mpr (by rw [← htold, he]), hslot⟩
    · have hold : i ∉ job.left.map Prod.fst := fun hin' => ((hmem i).mp hin').elim hin hleft
      obtain ⟨e, he, hslot⟩ := hs.filled i hi hold
      exact ⟨e, he, (hother i hin).trans hslot⟩

/-- What an instant of a job comes to: it fails with the first fault, it is complete, or it goes on. -/
inductive Stepped (units : List Waiting) (capacity : Nat) (ending : Nat → Ending ε)
    (Inv : Instant → List (Running ρ) → Nat → σ → Prop) (Ends : Instant → Nat → Prop) (t : Instant) (job : Job ρ ε)
    (ts : Tokens) : Progress ρ ε × Tokens × σ → Prop where
  | failed {before after : List (Outcome ε)} {o : Outcome ε} {f : Fault} {job' : Job ρ ε} {m : Nat} {s' : σ}
      (ran : Ran units capacity ending Inv Ends t job (before ++ o :: after) job' m s')
      (first : ∀ p ∈ before, ∃ e, p.result = .ok e) (fault : o.result = .error f) :
      Stepped units capacity ending Inv Ends t job ts
        (.over (.error (.aggregate job.seed o.id f)) [.fanOutFailed job.seed o.id f.message] job'.running.reverse,
          ts.cancel job.context.token, s')
  | complete {outcomes : List (Outcome ε)} {job' : Job ρ ε} {list : List ε} {s' : σ}
      (ran : Ran units capacity ending Inv Ends t job outcomes job' units.length s') (nothing : job'.left = [])
      (length : list.length = units.length) (entities : ∀ i < units.length, list[i]? = entity? (ending i)) :
      Stepped units capacity ending Inv Ends t job ts
        (.over (.ok list) [.fanOutComplete job.seed units.length] [], ts, s')
  | going {outcomes : List (Outcome ε)} {job' : Job ρ ε} {remaining : Nat} {slots : List (Option ε)} {m : Nat} {s' : σ}
      (ran : Ran units capacity ending Inv Ends t job outcomes job' m s') (something : job'.left ≠ [])
      (stands : Stands units capacity ending Inv t { job' with remaining, slots } m s') :
      Stepped units capacity ending Inv Ends t job ts (.going { job' with remaining, slots }, ts, s')

/-- A job without units left has the entities of all. -/
theorem collect_of_stands {t : Instant} {job : Job ρ ε} {k : Nat} {s : σ} (hs : Stands units capacity ending Inv t job k s)
    (hleft : job.left = []) :
    ∃ list, collect job.slots = .ok list ∧ list.length = units.length ∧ ∀ i < units.length, list[i]? = entity? (ending i) := by
  have hfilled : ∀ i < units.length, ∃ e, entity? (ending i) = some e ∧ job.slots[i]? = some (some e) :=
    fun i hi => hs.filled i hi (by simp [hleft])
  have hnone : none ∉ job.slots := by
    intro hmem
    obtain ⟨i, hi, hempty⟩ := List.getElem_of_mem hmem
    obtain ⟨e, -, hslot⟩ := hfilled i (hs.slots_length ▸ hi)
    rw [List.getElem?_eq_getElem hi, hempty] at hslot
    cases hslot
  obtain ⟨list, hcollect, hslots⟩ := collect_of_filled hnone
  refine ⟨list, hcollect, by rw [← hs.slots_length, hslots, List.length_map], fun i hi => ?_⟩
  obtain ⟨e, he, hslot⟩ := hfilled i hi
  rw [hslots, List.getElem?_map] at hslot
  rw [he]
  simpa using hslot

theorem step (h : Serves w units capacity ending Inv Ends) {t : Instant} {job : Job ρ ε} {k : Nat} {s : σ}
    (hs : Stands units capacity ending Inv t job k s) (ts : Tokens) :
    Stepped units capacity ending Inv Ends t job ts (Job.step w t job ts s) := by
  obtain ⟨m, hr⟩ := h.runUnits hs
  unfold Job.step
  rcases hrun : Job.runUnits w t job s with ⟨⟨outcomes, job'⟩, s'⟩
  simp only [hrun] at hr
  obtain hok | ⟨before, o, after, f, rfl, hfirst, hfault⟩ := all_ok_or_first_error outcomes
  · obtain ⟨slots, hgather, hstands⟩ := h.stands_of_gather hs hr hok
    dsimp only
    rw [hr.slots, hr.remaining, hgather]
    dsimp only
    by_cases hleft : job'.left = []
    · obtain ⟨list, hcollect, hlen, hentities⟩ := collect_of_stands hstands hleft
      have hrunning : job'.running = [] := by simpa using (List.append_eq_nil_iff.mp hleft).1
      have hm : m = units.length := by
        have hwait : job'.waiting = [] := by simpa using (List.append_eq_nil_iff.mp hleft).2
        rw [hr.waiting, List.drop_eq_nil_iff] at hwait
        exact Nat.le_antisymm hr.le_length hwait
      subst hm
      have hslots := hstands.slots_length
      dsimp only at hslots hcollect
      rw [if_pos (by simp [isIdle_iff.mpr hleft]), hcollect, hslots, hrunning, hr.seed]
      exact .complete hr hleft hlen hentities
    · rw [if_neg (by simp [isIdle_iff, hleft])]
      exact .going hr hleft hstands
  · have hcount : before.length < job'.remaining := by
      have hall := hr.count
      rw [hr.remaining, hs.remaining, ← hall, List.length_append, List.length_cons]
      omega
    dsimp only
    rw [gather_error before after o job'.slots hfirst hfault hcount, hr.seed, hr.context]
    exact .failed hr hfirst hfault

/-! ## From one instant to the next -/

/-- How a whole job ended: with the first fault, or with all entities. -/
inductive Driven (w : Worker σ ρ ε) (units : List Waiting) (capacity : Nat) (ending : Nat → Ending ε)
    (Inv : Instant → List (Running ρ) → Nat → σ → Prop) (Ends : Instant → Nat → Prop) (seed : String) (own : Token)
    (ts : Tokens) : Report σ ε → Prop where
  | failed {t : Instant} {i m : Nat} {u : Waiting} {f : Fault} {job : Job ρ ε} {s : σ} (unit : units[i]? = some u)
      (fault : resultOf (ending i) = .error f) (ends : Ends t i)
      (first : ∀ j < units.length, entity? (ending j) = none → j ∈ job.left.map Prod.fst ∨ Ends t j ∧ i ≤ j)
      (waiting : job.waiting = units.drop m) (busy : m < units.length → job.running.length = capacity)
      (due : ∀ v ∈ job.running, t < v.due) (inv : Inv t job.running m s) :
      Driven w units capacity ending Inv Ends seed own ts
        ⟨.returned (.error (.aggregate seed u.id f)), t, ts.cancel own, [.fanOutFailed seed u.id f.message],
          tearDown w t job.running.reverse s⟩
  | complete {t : Instant} {list : List ε} {s : σ} (length : list.length = units.length)
      (entities : ∀ i < units.length, list[i]? = entity? (ending i)) (inv : Inv t [] units.length s) :
      Driven w units capacity ending Inv Ends seed own ts
        ⟨.returned (.ok list), t, ts, [.fanOutComplete seed units.length], s⟩

/-- The unit whose fault decides ended first, of those that ended at its instant. -/
theorem first_of_ran (h : Serves w units capacity ending Inv Ends) {t : Instant} {job job' : Job ρ ε} {k m : Nat}
    {s s' : σ} {before after : List (Outcome ε)} {o : Outcome ε} (hs : Stands units capacity ending Inv t job k s)
    (hr : Ran units capacity ending Inv Ends t job (before ++ o :: after) job' m s')
    (hfirst : ∀ p ∈ before, ∃ e, p.result = .ok e) {j : Nat} (hj : j < units.length) (hfail : entity? (ending j) = none) :
    j ∈ job'.left.map Prod.fst ∨ Ends t j ∧ o.index ≤ j := by
  have hleft : j ∈ job.left.map Prod.fst := by
    refine Classical.byContradiction fun hnot => ?_
    obtain ⟨e, he, -⟩ := hs.filled j hj hnot
    simp [hfail] at he
  rw [← (hr.perm.map Prod.fst).mem_iff, List.map_append, List.mem_append] at hleft
  obtain hout | hleft := hleft
  case inr => exact .inl hleft
  right
  rw [List.map_map] at hout
  obtain ⟨p, hp, hpj⟩ := List.mem_map.mp hout
  obtain rfl : p.index = j := hpj
  refine ⟨(hr.told p hp).ends, ?_⟩
  -- Outcomes of one instant stand in the order of the ids.
  have hsorted : ((before ++ o :: after).map Outcome.index).Pairwise (· < ·) := by
    have hsub := ((hr.ended.trans hs.left).map Prod.fst)
    rw [h.map_index_units, List.map_map] at hsub
    exact List.pairwise_lt_range.sublist hsub
  rw [List.map_append, List.map_cons, List.pairwise_append, List.pairwise_cons] at hsorted
  obtain hbefore | hrest := List.mem_append.mp hp
  · obtain ⟨e, he⟩ := hfirst p hbefore
    rw [(hr.told p hp).result, ← entity?_eq_some_iff, hfail] at he
    cases he
  · obtain rfl | hafter := List.mem_cons.mp hrest
    · exact Nat.le_refl _
    · exact Nat.le_of_lt (hsorted.2.1.1 p.index (List.mem_map_of_mem hafter))

/-- While units are left there is an instant at which the next of them ends. -/
theorem exists_nextDue (h : Serves w units capacity ending Inv Ends) {t : Instant} {job job' : Job ρ ε} {m : Nat} {s' : σ}
    {outcomes : List (Outcome ε)} (hr : Ran units capacity ending Inv Ends t job outcomes job' m s')
    (hleft : job'.left ≠ []) :
    ∃ due, nextDue? job' = some due ∧ t < due ∧ (∀ u ∈ job'.running, due ≤ u.due) ∧ ∃ u ∈ job'.running, u.due = due := by
  have hrunning : job'.running ≠ [] := by
    intro hnil
    obtain hlt | hge := Nat.lt_or_ge m units.length
    · have hbusy := hr.busy hlt
      rw [hnil, List.length_nil] at hbusy
      have hpos := h.capacity_pos
      omega
    · exact hleft (by rw [left, hnil, hr.waiting, List.drop_eq_nil_of_le hge]; rfl)
  cases hmin : nextDue? job' with
  | none =>
    have hnil : job'.running.map Running.due = [] := List.min?_eq_none_iff.mp hmin
    exact absurd (List.map_eq_nil_iff.mp hnil) hrunning
  | some due =>
    obtain ⟨hmem, hle⟩ := List.min?_eq_some_iff.mp hmin
    obtain ⟨u, hu, rfl⟩ := List.mem_map.mp hmem
    exact ⟨u.due, rfl, hr.due u hu, fun v hv => hle v.due (List.mem_map_of_mem hv), u, hu, rfl⟩

/-- A job that goes on stands at the next due instant, with fewer units left if some were due. -/
theorem stands_next (h : Serves w units capacity ending Inv Ends) {t : Instant} {job job' : Job ρ ε} {m : Nat} {s' : σ}
    {outcomes : List (Outcome ε)} {remaining : Nat} {slots : List (Option ε)}
    (hr : Ran units capacity ending Inv Ends t job outcomes job' m s') (hleft : job'.left ≠ [])
    (hs : Stands units capacity ending Inv t { job' with remaining, slots } m s') :
    ∃ due, nextDue? { job' with remaining, slots } = some due ∧
      Stands units capacity ending Inv due { job' with remaining, slots } m s' ∧
      (∃ u ∈ job'.running, u.due ≤ due) ∧ job'.left.length ≤ job.left.length ∧
      ((∃ u ∈ job.running, u.due ≤ t) → job'.left.length < job.left.length) := by
  obtain ⟨due, hdue, hlater, hall, u, hu, hud⟩ := h.exists_nextDue hr hleft
  have hcount : outcomes.length + job'.left.length = job.left.length := by
    simpa using hr.perm.length_eq
  refine ⟨due, hdue, { hs with inv := h.later hr.busy (Nat.le_of_lt hlater) hall hr.inv }, ⟨u, hu, Nat.le_of_eq hud⟩,
    by omega, ?_⟩
  intro hprogress
  have hpos := List.length_pos_iff.mpr (hr.progress hprogress)
  omega

/-- One round: a job is over after an instant, or goes on at the next one with nothing lost. -/
theorem drive_succ (h : Serves w units capacity ending Inv Ends) {caller : Context} {ts : Tokens}
    (halive : ts.isCancelled caller.token = false) {t : Instant} {job : Job ρ ε} {k fuel : Nat} {s : σ}
    (hs : Stands units capacity ending Inv t job k s)
    (hnext : ∀ (t' : Instant) (job' : Job ρ ε) (k' : Nat) (s' : σ), Stands units capacity ending Inv t' job' k' s' →
      (∃ u ∈ job'.running, u.due ≤ t') → job'.left.length ≤ job.left.length →
      ((∃ u ∈ job.running, u.due ≤ t) → job'.left.length < job.left.length) →
      Driven w units capacity ending Inv Ends job'.seed job'.context.token ts (drive w caller none fuel t' job' ts s')) :
    Driven w units capacity ending Inv Ends job.seed job.context.token ts (drive w caller none (fuel + 1) t job ts s) := by
  have hstep := h.step hs ts
  simp only [drive, halive, Bool.false_eq_true, if_false]
  generalize Job.step w t job ts s = p at hstep
  cases hstep with
  | @failed before after o f job' m s' hr hfirst hfault =>
    have ho : o ∈ before ++ o :: after := List.mem_append_right _ List.mem_cons_self
    obtain ⟨u, hu, hid⟩ := h.exists_unit hs hr ho
    have htold := hr.told o ho
    rw [← hid]
    exact .failed hu (by rw [← htold.result, hfault]) htold.ends
      (fun j hj hfail => h.first_of_ran hs hr hfirst hj hfail) hr.waiting hr.busy hr.due hr.inv
  | @complete outcomes job' list s' hr hnothing hlen hentities => exact .complete hlen hentities (hr.inv_of_nothing hnothing)
  | @going outcomes job' remaining slots m s' hr hsomething hstands =>
    obtain ⟨due, hdue, hnextstands, hsome, hle, hless⟩ := h.stands_next hr hsomething hstands
    dsimp only
    rw [hdue]
    dsimp only
    rw [← hr.seed, ← hr.context]
    exact hnext due { job' with remaining, slots } m s' hnextstands hsome hle hless

theorem drive_due (h : Serves w units capacity ending Inv Ends) {caller : Context} {ts : Tokens}
    (halive : ts.isCancelled caller.token = false) {t : Instant} {job : Job ρ ε} {k fuel : Nat} {s : σ}
    (hs : Stands units capacity ending Inv t job k s) (hdue : ∃ u ∈ job.running, u.due ≤ t)
    (hfuel : job.left.length < fuel) :
    Driven w units capacity ending Inv Ends job.seed job.context.token ts (drive w caller none fuel t job ts s) := by
  induction fuel generalizing t job k s with
  | zero => omega
  | succ fuel ih =>
    refine h.drive_succ halive hs fun t' job' k' s' hs' hdue' _ hless => ih hs' hdue' ?_
    have hlt := hless hdue
    omega

/-- A job that has just been made needs one round more than it has units. -/
theorem drive (h : Serves w units capacity ending Inv Ends) {caller : Context} {ts : Tokens}
    (halive : ts.isCancelled caller.token = false) {t : Instant} {job : Job ρ ε} {k fuel : Nat} {s : σ}
    (hs : Stands units capacity ending Inv t job k s) (hfuel : job.left.length + 1 < fuel) :
    Driven w units capacity ending Inv Ends job.seed job.context.token ts (Job.drive w caller none fuel t job ts s) := by
  cases fuel with
  | zero => omega
  | succ fuel =>
    refine h.drive_succ halive hs fun t' job' k' s' hs' hdue' hle _ => h.drive_due halive hs' hdue' ?_
    omega

end Serves

end Campus.FanOut.Job
