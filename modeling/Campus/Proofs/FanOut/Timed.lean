import Campus.Proofs.FanOut.Plan

/-! # Workers that keep to a timetable

How long a fetch takes may depend on the instant at which it is started. The timetable is then worked out along with the delays. A
worker whose fetches keep to a timetable serves its units, whatever they do to its state.
-/
namespace Campus.FanOut

namespace Timetable

/-! ## Delays that depend on the start -/

/-- The instants from which on each permit is free, in order, when the delay of a unit depends on when it starts. -/
def freeAfter (delay : Instant → Nat → Span) (capacity : Nat) (now : Instant) : Nat → List Instant
  | 0 => List.replicate capacity now
  | i + 1 =>
    let start := (freeAfter delay capacity now i).headD now
    (freeAfter delay capacity now i).tail.orderedInsert (· ≤ ·) (start + delay start i)

def ofDelays (delay : Instant → Nat → Span) (capacity : Nat) (now : Instant) : Timetable :=
  ⟨fun i =>
    let start := (freeAfter delay capacity now i).headD now
    delay start i, capacity, now⟩

section Delays

variable (delay : Instant → Nat → Span) (capacity : Nat) (now : Instant)

theorem free_ofDelays (i : Nat) : (ofDelays delay capacity now).free i = freeAfter delay capacity now i := by
  induction i with
  | zero => rfl
  | succ i ih =>
    rw [free_succ, finish, start, ih]
    rfl

theorem delay_ofDelays (i : Nat) :
    (ofDelays delay capacity now).delay i = delay ((ofDelays delay capacity now).start i) i := by
  rw [start, free_ofDelays]
  rfl

end Delays

variable {T : Timetable}

theorem start_zero (hc : 0 < T.capacity) : T.start 0 = T.now :=
  List.eq_of_mem_replicate (start_mem hc 0)

/-- With two permits the second unit does not wait for the first. -/
theorem start_one (hc : 1 < T.capacity) : T.start 1 = T.now := by
  have hpos : 0 < T.capacity := Nat.zero_lt_of_lt hc
  refine Nat.le_antisymm (start_le hpos ?_) ?_
  · rw [free_succ, List.mem_orderedInsert]
    right
    rw [free, List.tail_replicate, List.mem_replicate]
    exact ⟨Nat.sub_ne_zero_of_lt hc, rfl⟩
  · rw [← start_zero hpos]
    exact start_le_start hpos (Nat.zero_le 1)

end Timetable

/-! ## The rule -/

variable {σ ρ ε : Type}

/-- What a worker must do to keep to a timetable. `P` tells its state from the places of the units that run and from how many were
started. -/
structure Keeps (w : Worker σ ρ ε) (T : Timetable) (units : List Waiting) (ending : Nat → Ending ε) (flight : Nat → ρ)
    (P : List Nat → Nat → σ → Prop) : Prop where
  ends : ∀ {running : List Nat} {k : Nat} {s : σ} {u : Waiting}, units[k]? = some u → running.length < T.capacity →
    (∀ i ∈ running, 0 < T.delay i) → T.delay k = 0 → P running k s →
      ∃ s', w.start (T.start k) u.context u.id s = (.ended (ending k), s') ∧ P running (k + 1) s'
  begins : ∀ {running : List Nat} {k : Nat} {s : σ} {u : Waiting}, units[k]? = some u → running.length < T.capacity →
    (∀ i ∈ running, 0 < T.delay i) → 0 < T.delay k → P running k s →
      ∃ s', w.start (T.start k) u.context u.id s = (.running (T.finish k) (flight k), s') ∧ P (running ++ [k]) (k + 1) s'
  finishes : ∀ {before after : List Nat} {i k : Nat} {s : σ}, i < k → P (before ++ i :: after) k s →
    ∃ s', w.finish (T.finish i) (flight i) s = (ending i, s') ∧ P (before ++ after) k s'

def Running.fly (flight : Nat → ρ) (u : Running Nat) : Running ρ := ⟨u.index, u.id, u.due, flight u.index⟩

/-- How a worker that keeps to a timetable stands at an instant: as a planned one does, but for the fetches. -/
inductive Timed (T : Timetable) (units : List Waiting) (flight : Nat → ρ) (P : List Nat → Nat → σ → Prop) (t : Instant)
    (running : List (Running ρ)) (k : Nat) (s : σ) : Prop where
  | intro {planned : List (Running Nat)} {log : Log} (follows : Follows T units t planned k log)
      (flying : running = planned.map (Running.fly flight)) (delays : ∀ i ∈ planned.map Running.index, 0 < T.delay i)
      (state : P (planned.map Running.index) k s)

variable {w : Worker σ ρ ε} {T : Timetable} {units : List Waiting} {ending : Nat → Ending ε} {flight : Nat → ρ}
  {P : List Nat → Nat → σ → Prop}

theorem Timed.first {s : σ} (h : P [] 0 s) : Timed T units flight P T.now [] 0 s :=
  .intro (Follows.first units) rfl (fun _ hi => absurd hi List.not_mem_nil) h

theorem Keeps.start_timed (h : Keeps w T units ending flight P)
    (hindex : ∀ {k : Nat} {u : Waiting}, units[k]? = some u → u.index = k) {t : Instant} {running : List (Running ρ)} {k : Nat}
    {s : σ} {u : Waiting} (hu : units[k]? = some u) (hfree : running.length < T.capacity)
    (hinv : Timed T units flight P t running k s) :
    (∃ s', w.start t u.context u.id s = (.ended (ending k), s') ∧ T.finish k = t ∧ Timed T units flight P t running (k + 1) s') ∨
      ∃ due fetch s', w.start t u.context u.id s = (.running due fetch, s') ∧ t < due ∧
        Timed T units flight P t (running ++ [⟨k, u.id, due, fetch⟩]) (k + 1) s' := by
  obtain @⟨planned, log, follows, rfl, delays, state⟩ := hinv
  rw [List.length_map] at hfree
  have hk : k < units.length := (List.getElem?_eq_some_iff.mp hu).1
  have hstart : T.start k = t := follows.start_eq hk hfree
  have hfree' : (planned.map Running.index).length < T.capacity := by rwa [List.length_map]
  by_cases hdelay : T.delay k = 0
  · obtain ⟨s', hended, hstate⟩ := h.ends hu hfree' delays hdelay state
    obtain ⟨hfinish, hfollows⟩ := follows.ended hu (hindex hu) hfree hdelay
    rw [hstart] at hended
    exact .inl ⟨s', hended, hfinish, .intro hfollows rfl delays hstate⟩
  · have hpos : 0 < T.delay k := Nat.pos_of_ne_zero hdelay
    obtain ⟨s', hbegun, hstate⟩ := h.begins hu hfree' delays hpos state
    have hfollows := follows.begins hu (hindex hu) hfree
    have hfinish : T.finish k = t + T.delay k := by rw [Timetable.finish, hstart]
    rw [hstart, hfinish] at hbegun
    refine .inr ⟨_, _, s', hbegun, Nat.lt_add_of_pos_right hpos, .intro hfollows ?_ ?_ ?_⟩
    · rw [List.map_append]
      rfl
    · intro i hi
      rw [List.map_append] at hi
      obtain hi | hi := List.mem_append.mp hi
      · exact delays i hi
      · obtain rfl := List.mem_singleton.mp hi
        exact hpos
    · rwa [List.map_append]

theorem Keeps.finish_timed (h : Keeps w T units ending flight P) (hc : 0 < T.capacity) {t : Instant}
    {before after : List (Running ρ)} {k : Nat} {s : σ} {u : Running ρ} (hdue : u.due ≤ t)
    (hinv : Timed T units flight P t (before ++ u :: after) k s) :
    ∃ s', w.finish t u.fetch s = (ending u.index, s') ∧ T.finish u.index = t ∧
      Timed T units flight P t (before ++ after) k s' := by
  obtain ⟨follows, flying, delays, state⟩ := hinv
  obtain ⟨front, rest, rfl, rfl, hrest⟩ := List.map_eq_append_iff.mp flying.symm
  obtain ⟨v, back, rfl, rfl, rfl⟩ := List.map_eq_cons_iff.mp hrest
  have hlt : v.index < k := follows.lt_of_running (by simp)
  obtain ⟨-, hfinish, hfollows⟩ := follows.finishes hc hdue
  rw [List.map_append, List.map_cons] at state delays
  obtain ⟨s', hended, hstate⟩ := h.finishes hlt state
  rw [hfinish] at hended
  refine ⟨s', hended, hfinish, .intro hfollows List.map_append.symm ?_ ?_⟩
  · intro i hi
    rw [List.map_append] at hi
    exact delays i (List.mem_append.mpr ((List.mem_append.mp hi).imp_right (List.mem_cons_of_mem _)))
  · rwa [List.map_append]

theorem Keeps.serves (h : Keeps w T units ending flight P) (hc : 0 < T.capacity)
    (hindex : ∀ {k : Nat} {u : Waiting}, units[k]? = some u → u.index = k) :
    Job.Serves w units T.capacity ending (Timed T units flight P) (fun t i => T.finish i = t) where
  capacity_pos := hc
  index := hindex
  start := h.start_timed hindex
  finish := h.finish_timed hc
  later := by
    intro t t' running k s hbusy ht hdue hinv
    obtain ⟨follows, rfl, delays, state⟩ := hinv
    rw [List.length_map] at hbusy
    exact .intro (follows.later hbusy ht fun u hu => hdue _ (List.mem_map_of_mem hu)) rfl delays state

end Campus.FanOut
