import Campus.Drain

/-! # No wake-up is lost

The wait for the calls in flight, beside the calls themselves, in steps as small as they can come between each other. A call that
ends is first taken off the count; if it was the last, it wakes the waiter some time later. Meanwhile others may begin or end, and the
waiter may ask to be woken, look at the count or fall asleep. A waiter that looked too early was listening already, so whoever
brings the count to zero after that look will still wake it.
-/
namespace Campus.Drain

inductive Scene.Steps : Scene → Scene → Prop where
  | asks (l : Lifecycle) : Steps ⟨l, .begun⟩ ⟨l, .listening false⟩
  | sees (l : Lifecycle) (woken : Bool) (hnone : l.inFlight = 0) : Steps ⟨l, .listening woken⟩ ⟨l.stop, .over true⟩
  | sleeps (l : Lifecycle) (woken : Bool) (hsome : l.inFlight ≠ 0) : Steps ⟨l, .listening woken⟩ ⟨l, .asleep woken⟩
  | wakes (l : Lifecycle) : Steps ⟨l, .asleep true⟩ ⟨l, .begun⟩
  | rests (l : Lifecycle) : Steps ⟨l, .asleep false⟩ ⟨l, .asleep false⟩
  | done (l : Lifecycle) (drained : Bool) : Steps ⟨l, .over drained⟩ ⟨l, .over drained⟩

theorem Scene.steps (s : Scene) : Steps s s.step := by
  obtain ⟨l, w⟩ := s
  cases w with
  | begun => exact .asks l
  | listening woken =>
    by_cases hnone : l.inFlight = 0
    · simpa [Scene.step, hnone] using Steps.sees l woken hnone
    · simpa [Scene.step, hnone] using Steps.sleeps l woken hnone
  | asleep woken =>
    cases woken with
    | true => exact .wakes l
    | false => exact .rests l
  | _ => exact .done l _

structure Vigil where
  scene : Scene
  /-- The calls in flight. -/
  calls : List Nat
  /-- How many calls have begun; the next one is known by this number. -/
  begun : Nat
  /-- How many calls were the last to end and have not woken the waiter yet. -/
  waking : Nat
  now : Instant
  /-- When the time is up. -/
  limit : Instant
  /-- When the latest call ended, or else when the wait began. -/
  lastLeft : Instant
  /-- When the wait was over, if it is. -/
  overAt : Option Instant
  deriving DecidableEq, Repr

namespace Vigil

/-- What happens in the course of a wait. -/
inductive Move where
  /-- A call begins. -/
  | enter
  /-- A call ends, and is no longer counted. -/
  | leave (call : Nat)
  /-- A call that was the last to end wakes the waiter. -/
  | wake
  /-- The waiter takes its next step, if it can. -/
  | step
  /-- The waiter gives up, if the time is up and it is asleep. It may overlook that it was woken since it fell asleep. -/
  | timeUp
  | pass (span : Span)
  deriving DecidableEq, Repr

def start (l : Lifecycle) (now : Instant) (timeout : Span) : Vigil :=
  ⟨.start l, List.range l.inFlight, l.inFlight, 0, now, now + timeout, now, none⟩

/-- Takes the waiter to another scene, and notes the instant if the wait is over with that. -/
def act (v : Vigil) (scene : Scene) : Vigil :=
  { v with scene, overAt := if scene.result? = v.scene.result? then v.overAt else some v.now }

def unwoken (s : Scene) : Scene :=
  match s.waiter with
  | .asleep _ => { s with waiter := .asleep false }
  | _ => s

def apply (v : Vigil) : Move → Vigil
  | .enter => { v with scene := v.scene.apply .enter, calls := v.begun :: v.calls, begun := v.begun + 1 }
  | .leave call =>
    if call ∈ v.calls then
      { v with
        scene := { v.scene with lifecycle := v.scene.lifecycle.leave }
        calls := v.calls.erase call
        waking := if v.scene.lifecycle.inFlight = 1 then v.waking + 1 else v.waking
        lastLeft := v.now }
    else v
  | .wake =>
    if v.waking = 0 then v
    else { v with scene := { v.scene with waiter := v.scene.waiter.wake }, waking := v.waking - 1 }
  | .step => v.act v.scene.step
  | .timeUp => if v.limit ≤ v.now then v.act ((unwoken v.scene).apply .timeUp) else v
  | .pass span => { v with now := v.now + span }

def after (v : Vigil) (moves : List Move) : Vigil := moves.foldl apply v

/-- A call that ends and wakes the waiter with that is what the waiter knows as the end of a call. -/
theorem scene_leave_wake {v : Vigil} {call : Nat} (hcall : call ∈ v.calls) (hwaking : v.waking = 0) :
    (v.after [.leave call, .wake]).scene = v.scene.apply .leave := by
  by_cases hone : v.scene.lifecycle.inFlight = 1 <;> simp [after, apply, Scene.apply, hcall, hwaking, hone]

/-- Whether nobody has anything to do at once: all wake-ups have come, and the waiter sleeps, or is done. -/
def idle (v : Vigil) : Bool := v.waking = 0 && (v.scene.waiter = .asleep false || v.scene.result?.isSome)

/-! ## Results -/

@[simp] theorem result?_wake (l : Lifecycle) (w : Waiter) : (Scene.mk l w.wake).result? = (Scene.mk l w).result? := by
  cases w <;> rfl

@[simp] theorem result?_over (l : Lifecycle) (drained : Bool) : (Scene.mk l (.over drained)).result? = some drained := rfl

theorem timeUp_unwoken (s : Scene) :
    (∃ woken, s.waiter = .asleep woken ∧ (unwoken s).apply .timeUp = { s with waiter := .over false }) ∨
      ((∀ woken, s.waiter ≠ .asleep woken) ∧ (unwoken s).apply .timeUp = s) := by
  obtain ⟨l, w⟩ := s
  cases w with
  | asleep woken => exact .inl ⟨woken, rfl, rfl⟩
  | _ => exact .inr ⟨by simp, rfl⟩

/-! ## What holds of every wait -/

/-- What holds in the course of a wait, whatever happens. -/
structure Kept (l : Lifecycle) (v : Vigil) : Prop where
  /-- The count is that of the calls. -/
  counted : v.scene.lifecycle.inFlight = v.calls.length
  distinct : v.calls.Nodup
  numbered : ∀ c ∈ v.calls, c < v.begun
  begun : l.inFlight ≤ v.begun
  /-- The waiter does not sleep for good when no call is left. -/
  heard : v.scene.waiter = .asleep false → v.calls = [] → 0 < v.waking
  /-- Only a wait that saw no call left changes the state of health. -/
  health : v.scene.lifecycle.health = if v.scene.result? = some true then .stopped else l.health
  /-- A wait that saw no call left has seen all those gone that were there at first. -/
  gone : v.scene.result? = some true → ∀ c ∈ v.calls, l.inFlight ≤ c

variable {l : Lifecycle} {v : Vigil}

namespace Kept

theorem start (now : Instant) (timeout : Span) : Kept l (Vigil.start l now timeout) where
  counted := by simp [Vigil.start, Scene.start]
  distinct := List.nodup_range
  numbered c hc := List.mem_range.mp hc
  begun := Nat.le_refl _
  heard := by simp [Vigil.start, Scene.start]
  health := rfl
  gone := by simp [Vigil.start, Scene.start, Scene.result?]

theorem enter (h : Kept l v) : Kept l (v.apply .enter) where
  counted := by simp [apply, Scene.apply, Lifecycle.enter, h.counted]
  distinct := List.nodup_cons.mpr ⟨fun hmem => Nat.lt_irrefl _ (h.numbered _ hmem), h.distinct⟩
  numbered c hc := by
    rcases List.mem_cons.mp hc with rfl | hold
    · exact Nat.lt_succ_self _
    · exact Nat.lt_succ_of_lt (h.numbered c hold)
  begun := Nat.le_succ_of_le h.begun
  heard _ hnone := absurd hnone (List.cons_ne_nil _ _)
  health := h.health
  gone hdrained c hc := by
    rcases List.mem_cons.mp hc with rfl | hold
    · exact h.begun
    · exact h.gone hdrained c hold

theorem leave (h : Kept l v) (call : Nat) : Kept l (v.apply (.leave call)) := by
  simp only [apply]
  split
  case isFalse => exact h
  case isTrue hcall =>
    have hlength := List.length_erase_of_mem hcall
    constructor
    · simp [Lifecycle.leave, h.counted, hlength]
    · exact h.distinct.erase call
    · exact fun c hc => h.numbered c (List.mem_of_mem_erase hc)
    · exact h.begun
    · -- A call that leaves none behind was the last one, so a wake-up is on its way.
      intro _ (hnone : v.calls.erase call = [])
      have hone : v.scene.lifecycle.inFlight = 1 := by
        have hpos := List.length_pos_of_mem hcall
        rw [hnone, List.length_nil] at hlength
        rw [h.counted]
        omega
      simp [hone]
    · exact h.health
    · exact fun hdrained c hc => h.gone hdrained c (List.mem_of_mem_erase hc)

theorem wake (h : Kept l v) : Kept l (v.apply .wake) := by
  simp only [apply]
  split
  case isTrue => exact h
  case isFalse =>
    refine ⟨h.counted, h.distinct, h.numbered, h.begun, ?_, ?_, ?_⟩
    · intro hasleep
      cases hwaiter : v.scene.waiter <;> simp [Waiter.wake, hwaiter] at hasleep
    · simpa using h.health
    · simpa using h.gone

theorem calls_eq_nil (h : Kept l v) (hnone : v.scene.lifecycle.inFlight = 0) : v.calls = [] :=
  List.length_eq_zero_iff.mp (h.counted.symm.trans hnone)

/-- What the waiter does keeps to this if it leaves the count alone, does not fall asleep when no call is left, and changes the state
of health only with the result. -/
theorem act (h : Kept l v) {scene : Scene} (hcount : scene.lifecycle.inFlight = v.scene.lifecycle.inFlight)
    (hheard : scene.waiter = .asleep false → v.calls = [] → 0 < v.waking)
    (hhealth : scene.lifecycle.health = if scene.result? = some true then .stopped else l.health)
    (hgone : scene.result? = some true → v.scene.result? = some true ∨ v.calls = []) : Kept l (v.act scene) where
  counted := hcount.trans h.counted
  distinct := h.distinct
  numbered := h.numbered
  begun := h.begun
  heard := hheard
  health := hhealth
  gone hdrained := by
    rcases hgone hdrained with hbefore | hnone
    · exact h.gone hbefore
    · intro c hc
      have hmem : c ∈ v.calls := hc
      rw [hnone] at hmem
      cases hmem

theorem step (h : Kept l v) : Kept l (v.apply .step) := by
  have hsteps := v.scene.steps
  obtain ⟨s, calls, begun, waking, now, limit, lastLeft, overAt⟩ := v
  simp only [Vigil.apply]
  generalize s.step = scene at hsteps ⊢
  cases hsteps with
  | asks => exact h.act rfl (by simp) h.health (by simp [Scene.result?])
  | sees life woken hnone => exact h.act rfl (by simp) rfl fun _ => .inr (h.calls_eq_nil hnone)
  | sleeps life woken hsome =>
    refine h.act rfl (fun _ hnone => absurd ?_ hsome) h.health (by simp [Scene.result?])
    exact h.counted.trans (List.length_eq_zero_iff.mpr hnone)
  | wakes => exact h.act rfl (by simp) h.health (by simp [Scene.result?])
  | rests => exact h.act rfl h.heard h.health .inl
  | done => exact h.act rfl h.heard h.health .inl

theorem timeUp (h : Kept l v) : Kept l (v.apply .timeUp) := by
  simp only [apply]
  split
  case isFalse => exact h
  case isTrue =>
    rcases timeUp_unwoken v.scene with ⟨woken, hwaiter, hover⟩ | ⟨-, hsame⟩
    · have hnone : v.scene.result? = none := by simp [Scene.result?, hwaiter]
      rw [hover]
      refine h.act rfl (by simp) ?_ (by simp)
      simpa [hnone] using h.health
    · rw [hsame]
      exact h.act rfl h.heard h.health .inl

theorem apply (h : Kept l v) (m : Move) : Kept l (v.apply m) := by
  cases m with
  | enter => exact h.enter
  | leave call => exact h.leave call
  | wake => exact h.wake
  | step => exact h.step
  | timeUp => exact h.timeUp
  | pass span => exact ⟨h.counted, h.distinct, h.numbered, h.begun, h.heard, h.health, h.gone⟩

theorem after (h : Kept l v) (moves : List Move) : Kept l (v.after moves) := by
  induction moves generalizing v with
  | nil => exact h
  | cons m moves ih => exact ih (h.apply m)

theorem over_of_idle (h : Kept l v) (hidle : v.idle = true) (hnone : v.calls = []) : v.scene.result? ≠ none := by
  intro hresult
  simp only [idle, hresult, Option.isSome_none, Bool.or_false, Bool.and_eq_true, decide_eq_true_eq] at hidle
  have hpos := h.heard hidle.2 hnone
  rw [hidle.1] at hpos
  exact Nat.lt_irrefl 0 hpos

end Kept

/-! ## How a wait ends -/

/-- The moves that end a wait: the waiter sees that no call is left, or it is asleep when its time is up. -/
inductive Ends (v : Vigil) : Move → Scene → Prop where
  | drained (woken : Bool) (hwaiter : v.scene.waiter = .listening woken) (hnone : v.scene.lifecycle.inFlight = 0) :
    Ends v .step ⟨v.scene.lifecycle.stop, .over true⟩
  | undrained (woken : Bool) (hwaiter : v.scene.waiter = .asleep woken) (hlimit : v.limit ≤ v.now) :
    Ends v .timeUp ⟨v.scene.lifecycle, .over false⟩

theorem Ends.result?_before {m : Move} {scene : Scene} (h : Ends v m scene) : v.scene.result? = none := by
  cases h with
  | drained woken hwaiter => simp [Scene.result?, hwaiter]
  | undrained woken hwaiter => simp [Scene.result?, hwaiter]

theorem ends_or_stays (v : Vigil) (m : Move) :
    (∃ scene, Ends v m scene ∧ v.apply m = v.act scene) ∨
      ((v.apply m).scene.result? = v.scene.result? ∧ (v.apply m).overAt = v.overAt) := by
  cases m with
  | enter => exact .inr ⟨rfl, rfl⟩
  | leave call =>
    right
    by_cases hcall : call ∈ v.calls
    · simp [apply, hcall, Scene.result?]
    · simp [apply, hcall]
  | wake =>
    right
    by_cases hwaking : v.waking = 0 <;> simp [apply, hwaking]
  | step =>
    have hsteps := v.scene.steps
    obtain ⟨s, calls, begun, waking, now, limit, lastLeft, overAt⟩ := v
    simp only [apply]
    generalize s.step = scene at hsteps ⊢
    cases hsteps with
    | sees life woken hnone => exact .inl ⟨_, .drained woken rfl hnone, rfl⟩
    | _ =>
      right
      simp [act, Scene.result?]
  | timeUp =>
    by_cases hlimit : v.limit ≤ v.now
    · rcases timeUp_unwoken v.scene with ⟨woken, hwaiter, hover⟩ | ⟨-, hsame⟩
      · exact .inl ⟨_, .undrained woken hwaiter hlimit, by rw [apply, if_pos hlimit, hover]⟩
      · right
        simp [apply, hlimit, hsame, act]
    · right
      simp [apply, hlimit]
  | pass span => exact .inr ⟨rfl, rfl⟩

/-! ## Progress -/

@[simp] theorem limit_apply (v : Vigil) (m : Move) : (v.apply m).limit = v.limit := by
  cases m <;> simp only [apply] <;> (try split) <;> rfl

@[simp] theorem limit_after (v : Vigil) (moves : List Move) : (v.after moves).limit = v.limit := by
  induction moves generalizing v with
  | nil => rfl
  | cons m moves ih => exact (ih _).trans (limit_apply v m)

theorem begun_after {moves : List Move} (hnew : .enter ∉ moves) : (v.after moves).begun = v.begun := by
  induction moves generalizing v with
  | nil => rfl
  | cons m moves ih =>
    obtain ⟨hm, hrest⟩ := not_or.mp (mt List.mem_cons.mpr hnew)
    refine (ih hrest).trans ?_
    cases m with
    | enter => exact absurd rfl hm
    | _ =>
      simp only [apply]
      try split
      all_goals rfl

/-- A waiter that is let run until it has nothing to do sleeps, or is done. -/
theorem settle_rests (s : Scene) : s.settle.waiter = .asleep false ∨ s.settle.result?.isSome = true := by
  obtain ⟨l, w⟩ := s
  by_cases hnone : l.inFlight = 0
  · cases w with
    | asleep woken => cases woken <;> simp [Scene.settle, Scene.step, Scene.result?, hnone]
    | _ => simp [Scene.settle, Scene.step, Scene.result?, hnone]
  · cases w with
    | listening woken => cases woken <;> simp [Scene.settle, Scene.step, Scene.result?, hnone]
    | asleep woken => cases woken <;> simp [Scene.settle, Scene.step, Scene.result?, hnone]
    | _ => simp [Scene.settle, Scene.step, Scene.result?, hnone]

theorem waking_after_wakes (v : Vigil) {n : Nat} (hn : v.waking = n) : (v.after (List.replicate n .wake)).waking = 0 := by
  induction n generalizing v with
  | zero => exact hn
  | succ n ih =>
    apply ih (v.apply .wake)
    simp [apply, hn]

/-- Once all wake-ups have come, four steps of the waiter are enough. -/
theorem idle_after_rush (v : Vigil) : (v.after (List.replicate v.waking .wake ++ List.replicate 4 .step)).idle = true := by
  have hwaking := v.waking_after_wakes rfl
  rw [after, List.foldl_append]
  change (after (v.after _) _).idle = true
  generalize v.after (List.replicate v.waking .wake) = u at hwaking ⊢
  have hscene : (u.after (List.replicate 4 .step)).scene = u.scene.settle := rfl
  have hnone : (u.after (List.replicate 4 .step)).waking = 0 := hwaking
  rw [idle, hscene, hnone]
  rcases settle_rests u.scene with hasleep | hover
  · simp [hasleep]
  · simp [hover]

end Vigil

end Campus.Drain
