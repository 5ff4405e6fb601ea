import Campus.FanOut.Script
import Campus.Proofs.FanOut.Run
import Mathlib.Data.List.Sort

/-! # Planned fetches

Fetches that each take a set time and end in a set way. When they start and end is worked out here without a job: every unit
takes the permit that is free first, in the order of the ids. A worker that follows the plan keeps to this timetable.
-/
namespace Campus.FanOut

/-- Units that take a set time each, and the permits for which they wait from `now` on. -/
structure Timetable where
  delay : Nat → Span
  capacity : Nat
  now : Instant

namespace Timetable

variable (T : Timetable)

/-- The instants from which on each permit is free, in order, once so many units have taken theirs. -/
def free : Nat → List Instant
  | 0 => List.replicate T.capacity T.now
  | i + 1 => (free i).tail.orderedInsert (· ≤ ·) ((free i).headD T.now + T.delay i)

def start (i : Nat) : Instant := (T.free i).headD T.now

def finish (i : Nat) : Instant := T.start i + T.delay i

theorem free_succ (i : Nat) : T.free (i + 1) = (T.free i).tail.orderedInsert (· ≤ ·) (T.finish i) := rfl

theorem start_le_finish (i : Nat) : T.start i ≤ T.finish i := Nat.le_add_right _ _

theorem pairwise_free (i : Nat) : (T.free i).Pairwise (· ≤ ·) := by
  induction i with
  | zero => exact List.pairwise_replicate.mpr (.inr (Nat.le_refl _))
  | succ i ih => exact (ih.sublist (List.tail_sublist _)).orderedInsert _ _

variable {T}

theorem length_free (hc : 0 < T.capacity) (i : Nat) : (T.free i).length = T.capacity := by
  induction i with
  | zero => exact List.length_replicate
  | succ i ih =>
    rw [free_succ, List.orderedInsert_length, List.length_tail, ih]
    exact Nat.sub_add_cancel hc

theorem free_eq_cons (hc : 0 < T.capacity) (i : Nat) : T.free i = T.start i :: (T.free i).tail := by
  have hlen := length_free hc i
  unfold start
  cases h : T.free i with
  | nil =>
    rw [h] at hlen
    exact absurd hlen.symm (Nat.ne_of_gt hc)
  | cons t rest => rfl

/-- A unit starts at the first of the instants at which permits are free. -/
theorem start_le (hc : 0 < T.capacity) {i : Nat} {t : Instant} (ht : t ∈ T.free i) : T.start i ≤ t := by
  have hsorted := T.pairwise_free i
  rw [free_eq_cons hc i] at ht hsorted
  obtain rfl | htail := List.mem_cons.mp ht
  · exact Nat.le_refl _
  · exact (List.pairwise_cons.mp hsorted).1 t htail

theorem start_mem (hc : 0 < T.capacity) (i : Nat) : T.start i ∈ T.free i := by
  rw [free_eq_cons hc i]
  exact List.mem_cons_self

theorem start_le_start (hc : 0 < T.capacity) {i j : Nat} (hij : i ≤ j) : T.start i ≤ T.start j := by
  induction hij with
  | refl => exact Nat.le_refl _
  | @step j _ ih =>
    refine Nat.le_trans ih ?_
    have hmem := start_mem hc (j + 1)
    rw [free_succ, List.mem_orderedInsert] at hmem
    obtain heq | htail := hmem
    · rw [heq]
      exact T.start_le_finish j
    · exact start_le hc (List.mem_of_mem_tail htail)

theorem start_eq_of_perm (hc : 0 < T.capacity) {i : Nat} {t : Instant} {others : List Instant}
    (hp : (T.free i).Perm (t :: others)) (ht : ∀ s ∈ others, t ≤ s) : T.start i = t := by
  refine Nat.le_antisymm (start_le hc (hp.mem_iff.mpr List.mem_cons_self)) ?_
  obtain heq | hmem := List.mem_cons.mp (hp.mem_iff.mp (start_mem hc i))
  · exact Nat.le_of_eq heq.symm
  · exact ht _ hmem

/-- The permit that a unit took is free again when the unit ends; nothing else has changed. -/
theorem free_succ_perm (hc : 0 < T.capacity) {i : Nat} {t : Instant} {others : List Instant}
    (hp : (T.free i).Perm (t :: others)) (ht : ∀ s ∈ others, t ≤ s) :
    (T.free (i + 1)).Perm (T.finish i :: others) := by
  have hstart := start_eq_of_perm hc hp ht
  rw [free_eq_cons hc i, hstart] at hp
  rw [free_succ]
  exact (List.perm_orderedInsert _ _ _).trans (hp.cons_inv.cons _)

end Timetable

/-- What fetches did, in order: when each started and under which context, when each finished, and when each was given up. -/
structure Log where
  starts : List (Instant × Context × String)
  finishes : List (Instant × Nat)
  abandons : List (Instant × Nat)
  deriving DecidableEq

def Log.empty : Log := ⟨[], [], []⟩

/-- A worker whose fetches follow a plan, each the next part of it. -/
def planned {ε : Type} (plan : Nat → Script ε) : Worker Log Nat ε where
  start now context id log :=
    let i := log.starts.length
    let log := { log with starts := log.starts ++ [(now, context, id)] }
    if (plan i).delay = 0 then (.ended (plan i).ending, { log with finishes := log.finishes ++ [(now, i)] })
    else (.running (now + (plan i).delay) i, log)
  finish now i log := ((plan i).ending, { log with finishes := log.finishes ++ [(now, i)] })
  abandon now i log := { log with abandons := log.abandons ++ [(now, i)] }

/-- How a planned worker stands at an instant: it has kept to the timetable so far. While units wait every permit is either
taken by a unit that runs, or free at this very instant. -/
structure Follows (T : Timetable) (units : List Waiting) (t : Instant) (running : List (Running Nat)) (k : Nat) (log : Log) :
    Prop where
  le_length : k ≤ units.length
  starts : log.starts = (units.take k).map fun u => (T.start u.index, u.context, u.id)
  begun : ∀ i < k, T.start i ≤ t
  due : ∀ u ∈ running, u.fetch = u.index ∧ u.due = T.finish u.index ∧ t ≤ u.due
  free : k < units.length →
    (T.free k).Perm (List.replicate (T.capacity - running.length) t ++ running.map Running.due)
  finished : ∀ p ∈ log.finishes, p.1 = T.finish p.2 ∧ p.1 ≤ t
  once : (log.finishes.map Prod.snd ++ running.map Running.index).Perm (List.range k)
  abandons : log.abandons = []

namespace Follows

variable {T : Timetable} {units : List Waiting} {t : Instant} {running : List (Running Nat)} {k : Nat} {log : Log}

theorem length_starts (h : Follows T units t running k log) : log.starts.length = k := by
  rw [h.starts, List.length_map, List.length_take, Nat.min_eq_left h.le_length]

theorem lt_of_running (h : Follows T units t running k log) {i : Nat} (hi : i ∈ running.map Running.index) : i < k :=
  List.mem_range.mp (h.once.mem_iff.mp (List.mem_append_right _ hi))

theorem first (units : List Waiting) : Follows T units T.now [] 0 Log.empty := by
  refine ⟨Nat.zero_le _, rfl, ?_, ?_, ?_, ?_, List.Perm.refl _, rfl⟩
  · intro i hi
    exact absurd hi (Nat.not_lt_zero i)
  · intro u hu
    exact absurd hu List.not_mem_nil
  · intro _
    rw [List.map_nil, List.append_nil]
    exact List.Perm.refl _
  · intro p hp
    exact absurd hp List.not_mem_nil

/-- The permits with which unit `k` starts: one that is free now, and others that are not free before. -/
theorem free_now (h : Follows T units t running k log) (hk : k < units.length) (hfree : running.length < T.capacity) :
    ∃ others, (T.free k).Perm (t :: others) ∧ (∀ s ∈ others, t ≤ s) ∧
      others = List.replicate (T.capacity - (running.length + 1)) t ++ running.map Running.due := by
  have hperm := h.free hk
  have hsucc : T.capacity - running.length = (T.capacity - (running.length + 1)) + 1 := by omega
  rw [hsucc, List.replicate_succ, List.cons_append] at hperm
  refine ⟨_, hperm, ?_, rfl⟩
  intro s hs
  obtain hs | hs := List.mem_append.mp hs
  · exact Nat.le_of_eq (List.eq_of_mem_replicate hs).symm
  · obtain ⟨u, hu, rfl⟩ := List.mem_map.mp hs
    exact (h.due u hu).2.2

theorem start_eq (h : Follows T units t running k log) (hk : k < units.length) (hfree : running.length < T.capacity) :
    T.start k = t := by
  obtain ⟨others, hperm, hlater, -⟩ := h.free_now hk hfree
  exact Timetable.start_eq_of_perm (Nat.zero_lt_of_lt hfree) hperm hlater

theorem starts_succ (h : Follows T units t running k log) {u : Waiting} (hu : units[k]? = some u) (hindex : u.index = k)
    (hstart : T.start k = t) :
    log.starts ++ [(t, u.context, u.id)] = (units.take (k + 1)).map fun u => (T.start u.index, u.context, u.id) := by
  rw [List.take_add_one, hu, List.map_append, ← h.starts]
  simp [hindex, hstart]

theorem begun_succ (h : Follows T units t running k log) (hstart : T.start k = t) : ∀ i < k + 1, T.start i ≤ t := by
  intro i hi
  obtain hlt | rfl := Nat.lt_succ_iff_lt_or_eq.mp hi
  · exact h.begun i hlt
  · exact Nat.le_of_eq hstart

/-- A unit that takes no time has started and ended at once. -/
theorem ended (h : Follows T units t running k log) {u : Waiting} (hu : units[k]? = some u) (hindex : u.index = k)
    (hfree : running.length < T.capacity) (hdelay : T.delay k = 0) :
    T.finish k = t ∧ Follows T units t running (k + 1)
      ⟨log.starts ++ [(t, u.context, u.id)], log.finishes ++ [(t, k)], log.abandons⟩ := by
  have hk : k < units.length := (List.getElem?_eq_some_iff.mp hu).1
  have hstart := h.start_eq hk hfree
  have hfinish : T.finish k = t := by rw [Timetable.finish, hstart, hdelay, Nat.add_zero]
  refine ⟨hfinish, hk, h.starts_succ hu hindex hstart, h.begun_succ hstart, h.due, ?_, ?_, ?_, h.abandons⟩
  · intro _
    obtain ⟨others, hperm, hlater, rfl⟩ := h.free_now hk hfree
    have hsucc := Timetable.free_succ_perm (Nat.zero_lt_of_lt hfree) hperm hlater
    rw [hfinish] at hsucc
    exact (hsucc.trans hperm.symm).trans (h.free hk)
  · intro p hp
    obtain hp | hp := List.mem_append.mp hp
    · exact h.finished p hp
    · obtain rfl := List.mem_singleton.mp hp
      exact ⟨hfinish.symm, Nat.le_refl t⟩
  · rw [List.map_append, List.range_succ, List.append_assoc]
    exact (List.perm_append_comm.append_left _).trans ((List.append_assoc _ _ _ ▸ h.once.append_right [k]))

/-- A unit that takes some time runs until its end in the timetable. -/
theorem begins (h : Follows T units t running k log) {u : Waiting} (hu : units[k]? = some u) (hindex : u.index = k)
    (hfree : running.length < T.capacity) :
    Follows T units t (running ++ [⟨k, u.id, t + T.delay k, k⟩]) (k + 1)
      ⟨log.starts ++ [(t, u.context, u.id)], log.finishes, log.abandons⟩ := by
  have hk : k < units.length := (List.getElem?_eq_some_iff.mp hu).1
  have hstart := h.start_eq hk hfree
  have hfinish : T.finish k = t + T.delay k := by rw [Timetable.finish, hstart]
  refine ⟨hk, h.starts_succ hu hindex hstart, h.begun_succ hstart, ?_, ?_, h.finished, ?_, h.abandons⟩
  · intro v hv
    obtain hv | hv := List.mem_append.mp hv
    · exact h.due v hv
    · obtain rfl := List.mem_singleton.mp hv
      exact ⟨rfl, hfinish.symm, Nat.le_add_right t _⟩
  · intro _
    obtain ⟨others, hperm, hlater, rfl⟩ := h.free_now hk hfree
    have hsucc := Timetable.free_succ_perm (Nat.zero_lt_of_lt hfree) hperm hlater
    rw [List.map_append, List.length_append, ← List.append_assoc]
    rw [hfinish] at hsucc
    exact hsucc.trans (List.perm_append_singleton _ _).symm
  · rw [List.map_append, List.range_succ, ← List.append_assoc]
    exact h.once.append_right [k]

/-- A unit that is due ends as the timetable has it, and its permit is free. -/
theorem finishes {before after : List (Running Nat)} {u : Running Nat} (h : Follows T units t (before ++ u :: after) k log)
    (hc : 0 < T.capacity) (hdue : u.due ≤ t) :
    u.fetch = u.index ∧ T.finish u.index = t ∧
      Follows T units t (before ++ after) k ⟨log.starts, log.finishes ++ [(t, u.index)], log.abandons⟩ := by
  obtain ⟨hfetch, hfinish, hle⟩ := h.due u (List.mem_append_right _ List.mem_cons_self)
  have ht : u.due = t := Nat.le_antisymm hdue hle
  rw [ht] at hfinish
  refine ⟨hfetch, hfinish.symm, h.le_length, h.starts, h.begun, ?_, ?_, ?_, ?_, h.abandons⟩
  · intro v hv
    refine h.due v ?_
    obtain hv | hv := List.mem_append.mp hv
    · exact List.mem_append_left _ hv
    · exact List.mem_append_right _ (List.mem_cons_of_mem _ hv)
  · intro hk
    have hperm := h.free hk
    have hlen : (before ++ u :: after).length ≤ T.capacity := by
      have hsum := hperm.length_eq
      rw [Timetable.length_free hc, List.length_append, List.length_replicate, List.length_map] at hsum
      omega
    have hsucc : T.capacity - (before ++ after).length = (T.capacity - (before ++ u :: after).length) + 1 := by
      simp only [List.length_append, List.length_cons] at hlen ⊢
      omega
    rw [hsucc, List.replicate_succ, List.cons_append]
    refine hperm.trans ?_
    rw [List.map_append, List.map_cons, ht, List.map_append, ← List.append_assoc, ← List.append_assoc]
    exact List.perm_middle
  · intro p hp
    obtain hp | hp := List.mem_append.mp hp
    · exact h.finished p hp
    · obtain rfl := List.mem_singleton.mp hp
      exact ⟨hfinish, Nat.le_refl t⟩
  · refine List.Perm.trans ?_ h.once
    simp only [List.map_append, List.map_cons, List.map_nil, List.append_assoc, List.singleton_append]
    exact List.Perm.append_left _ List.perm_middle.symm

/-- Time passes without a start only while every permit is taken, or once no unit waits. -/
theorem later (h : Follows T units t running k log) {t' : Instant} (hbusy : k < units.length → running.length = T.capacity)
    (ht : t ≤ t') (hdue : ∀ u ∈ running, t' ≤ u.due) : Follows T units t' running k log := by
  refine ⟨h.le_length, h.starts, ?_, ?_, ?_, ?_, h.once, h.abandons⟩
  · intro i hi
    exact Nat.le_trans (h.begun i hi) ht
  · intro u hu
    obtain ⟨hfetch, hfinish, -⟩ := h.due u hu
    exact ⟨hfetch, hfinish, hdue u hu⟩
  · intro hk
    have hperm := h.free hk
    rw [hbusy hk, Nat.sub_self] at hperm ⊢
    exact hperm
  · intro p hp
    obtain ⟨hfinish, hle⟩ := h.finished p hp
    exact ⟨hfinish, Nat.le_trans hle ht⟩

end Follows

def Timetable.ofPlan {ε : Type} (plan : Nat → Script ε) (capacity : Nat) (now : Instant) : Timetable :=
  ⟨fun i => (plan i).delay, capacity, now⟩

theorem serves_planned {ε : Type} (plan : Nat → Script ε) {units : List Waiting} {capacity : Nat} (now : Instant)
    (hc : 0 < capacity) (hindex : ∀ {k : Nat} {u : Waiting}, units[k]? = some u → u.index = k) :
    Job.Serves (planned plan) units capacity (fun i => (plan i).ending)
      (Follows (.ofPlan plan capacity now) units) (fun t i => (Timetable.ofPlan plan capacity now).finish i = t) where
  capacity_pos := hc
  index := hindex
  start := by
    intro t running k log u hu hfree h
    have hlen := h.length_starts
    by_cases hdelay : (plan k).delay = 0
    · obtain ⟨hfinish, hnext⟩ := h.ended hu (hindex hu) hfree hdelay
      left
      refine ⟨_, ?_, hfinish, hnext⟩
      simp [planned, hlen, hdelay]
    · right
      refine ⟨t + (plan k).delay, k, _, ?_, ?_, h.begins hu (hindex hu) hfree⟩
      · simp [planned, hlen, hdelay]
      · exact Nat.lt_add_of_pos_right (Nat.pos_of_ne_zero hdelay)
  finish := by
    intro t before after k log u hdue h
    obtain ⟨hfetch, hfinish, hnext⟩ := h.finishes hc hdue
    refine ⟨_, ?_, hfinish, hnext⟩
    simp [planned, hfetch]
  later := by
    intro t t' running k log hbusy ht hdue h
    exact h.later hbusy ht hdue

end Campus.FanOut
