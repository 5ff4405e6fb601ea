import Campus.Proofs.Drain.Vigil

/-! # When a wait is over

Waits in which nobody dawdles: time passes only while nobody has anything to do. Such a wait is over at the instant at which the last
call ends, and at its limit if a call is held for longer. The same comes out for calls that end at instants which are given.
-/
namespace Campus.Drain

namespace Vigil

variable {l : Lifecycle} {v : Vigil}

/-! ## Waits without delays -/

/-- Whether a move comes when it should: time passes only when nobody has anything to do, and not past the limit of a wait. -/
def isDue (v : Vigil) : Move → Bool
  | .pass span => v.idle && (v.scene.result?.isSome || v.now + span ≤ v.limit)
  | _ => true

/-- Whether all moves come when they should. -/
def isPrompt (v : Vigil) : List Move → Bool
  | [] => true
  | m :: moves => v.isDue m && (v.apply m).isPrompt moves

/-- What holds in the course of a wait in which every move comes when it should. -/
structure Punctual (l : Lifecycle) (v : Vigil) : Prop where
  timely : v.scene.result? = none → v.now ≤ v.limit
  /-- When no call is left, no time has passed since the latest one ended. -/
  fresh : v.scene.result? = none → v.calls = [] → v.lastLeft = v.now
  drained : v.scene.result? = some true → v.begun = l.inFlight → v.overAt = some v.lastLeft
  undrained : v.scene.result? = some false →
    v.overAt = some v.limit ∧ v.limit ≤ v.now ∧ (v.calls = [] → v.limit ≤ v.lastLeft)

namespace Punctual

theorem start (l : Lifecycle) (now : Instant) (timeout : Span) : Punctual l (Vigil.start l now timeout) where
  timely _ := Nat.le_add_right now timeout
  fresh _ _ := rfl
  drained := by simp [Vigil.start, Scene.start, Scene.result?]
  undrained := by simp [Vigil.start, Scene.start, Scene.result?]

/-- Whatever happens to the waiter that does not end the wait. -/
theorem goes_on (h : Punctual l v) {scene : Scene} (hsame : scene.result? = v.scene.result?) (waking : Nat) :
    Punctual l { v with scene, waking } where
  timely := hsame ▸ h.timely
  fresh := hsame ▸ h.fresh
  drained := hsame ▸ h.drained
  undrained := hsame ▸ h.undrained

theorem act (h : Punctual l v) {scene : Scene} (hsame : scene.result? = v.scene.result?) : Punctual l (v.act scene) := by
  simp only [Vigil.act, hsame, if_true]
  exact h.goes_on hsame v.waking

/-- A wait that ends well does so when the latest call has just ended, and one that does not ends at its limit. -/
theorem ends (h : Punctual l v) (hkept : Kept l v) {m : Move} {scene : Scene} (hends : Ends v m scene) :
    Punctual l (v.act scene) := by
  have hbefore := hends.result?_before
  cases hends with
  | drained woken hwaiter hnone =>
    have hleft := h.fresh hbefore (hkept.calls_eq_nil hnone)
    constructor <;> simp [Vigil.act, hbefore, hleft]
  | undrained woken hwaiter hlimit =>
    have hnow : v.now = v.limit := Nat.le_antisymm (h.timely hbefore) hlimit
    constructor <;> simp [Vigil.act, hbefore, hnow]
    exact fun hnone => Nat.le_of_eq ((h.fresh hbefore hnone).trans hnow).symm

theorem pass (h : Punctual l v) (hkept : Kept l v) {span : Span} (hdue : v.isDue (.pass span) = true) :
    Punctual l (v.apply (.pass span)) := by
  obtain ⟨hidle, hlimit⟩ := Bool.and_eq_true_iff.mp hdue
  constructor
  · intro (hresult : v.scene.result? = none)
    simpa [hresult, Vigil.apply] using hlimit
  · intro hresult hnone
    exact absurd hresult (hkept.over_of_idle hidle hnone)
  · exact h.drained
  · intro hresult
    obtain ⟨hover, hnow, hleft⟩ := h.undrained hresult
    exact ⟨hover, Nat.le_trans hnow (Nat.le_add_right _ _), hleft⟩

theorem leave (h : Punctual l v) (hkept : Kept l v) (call : Nat) : Punctual l (v.apply (.leave call)) := by
  simp only [Vigil.apply]
  split
  case isFalse => exact h
  case isTrue hcall =>
    constructor
    · exact h.timely
    · exact fun _ _ => rfl
    · -- All calls that were there at first are gone by then, so only a later one can end.
      intro hresult hbegun
      have hlater := hkept.gone hresult call hcall
      have hfirst := hkept.numbered call hcall
      simp only at hbegun
      omega
    · intro hresult
      obtain ⟨hover, hnow, -⟩ := h.undrained hresult
      exact ⟨hover, hnow, fun _ => hnow⟩

theorem apply (h : Punctual l v) (hkept : Kept l v) {m : Move} (hdue : v.isDue m = true) : Punctual l (v.apply m) := by
  rcases ends_or_stays v m with ⟨scene, hends, happly⟩ | ⟨hsame, -⟩
  · rw [happly]
    exact h.ends hkept hends
  cases m with
  | enter =>
    have hbegun := hkept.begun
    refine ⟨h.timely, fun _ hnone => absurd hnone (List.cons_ne_nil _ _), ?_, ?_⟩
    · intro _ (hfirst : v.begun + 1 = l.inFlight)
      omega
    · intro hresult
      obtain ⟨hover, hnow, -⟩ := h.undrained hresult
      exact ⟨hover, hnow, fun hnone => absurd hnone (List.cons_ne_nil _ _)⟩
  | leave call => exact h.leave hkept call
  | wake =>
    simp only [Vigil.apply] at hsame ⊢
    split
    case isTrue => exact h
    case isFalse hwaking =>
      rw [if_neg hwaking] at hsame
      exact h.goes_on hsame _
  | step => exact h.act hsame
  | timeUp =>
    simp only [Vigil.apply] at hsame ⊢
    split
    case isTrue hlimit =>
      rw [if_pos hlimit] at hsame
      exact h.act hsame
    case isFalse => exact h
  | pass span => exact h.pass hkept hdue

theorem after (h : Punctual l v) (hkept : Kept l v) {moves : List Move} (hprompt : v.isPrompt moves = true) :
    Punctual l (v.after moves) := by
  induction moves generalizing v with
  | nil => exact h
  | cons m moves ih =>
    obtain ⟨hdue, hrest⟩ := Bool.and_eq_true_iff.mp hprompt
    exact ih (h.apply hkept hdue) (hkept.apply m) hrest

end Punctual

end Vigil

/-! ## Waits for calls that end at given instants -/

theorem release_of_last {l : Lifecycle} (hone : l.inFlight = 1) :
    Scene.release ⟨l, .asleep false⟩ = ⟨{ l with health := .stopped, inFlight := 0 }, .over true⟩ := by
  simp [Scene.release, Scene.apply, Scene.settle, Scene.step, Waiter.wake, Lifecycle.leave, Lifecycle.stop, hone]

theorem release_of_more {l : Lifecycle} {n : Nat} (hmore : l.inFlight = n + 2) :
    Scene.release ⟨l, .asleep false⟩ = ⟨{ l with inFlight := n + 1 }, .asleep false⟩ := by
  simp [Scene.release, Scene.apply, Scene.settle, Scene.step, Lifecycle.leave, hmore]

theorem drive_over (limit now : Instant) (ends : List Instant) (l : Lifecycle) (drained : Bool) :
    drive limit now ends ⟨l, .over drained⟩ = ⟨drained, now, l, ends⟩ := by
  cases ends <;> rfl

/-- A waiter that sleeps while some calls are in flight is done when as many have ended, or at the limit. -/
theorem drive_asleep {limit now : Instant} (hlimit : now ≤ limit) (n : Nat) {l : Lifecycle} (hcount : l.inFlight = n + 1)
    {ends : List Instant} (hsorted : (now :: ends).Pairwise (· ≤ ·)) :
    (∀ t, ends[n]? = some t → t < limit →
      drive limit now ends ⟨l, .asleep false⟩ = ⟨true, t, { l with health := .stopped, inFlight := 0 }, ends.drop (n + 1)⟩) ∧
    ((∀ t, ends[n]? = some t → limit ≤ t) →
      drive limit now ends ⟨l, .asleep false⟩ =
        ⟨false, limit, { l with inFlight := n + 1 - (ends.takeWhile (· < limit)).length }, ends.dropWhile (· < limit)⟩) := by
  induction ends generalizing now n l with
  | nil =>
    refine ⟨by simp, fun _ => ?_⟩
    simp [drive, Scene.result?, Scene.apply, ← hcount, hlimit]
  | cons t rest ih =>
    have hnow : now ≤ t := List.rel_of_pairwise_cons hsorted List.mem_cons_self
    by_cases ht : t < limit
    · have hdrive : drive limit now (t :: rest) ⟨l, .asleep false⟩ =
          drive limit t rest (Scene.release ⟨l, .asleep false⟩) := by
        simp [drive, Scene.result?, ht, Nat.max_eq_right hnow]
      rw [hdrive]
      cases n with
      | zero =>
        rw [release_of_last hcount, drive_over]
        refine ⟨?_, fun hlate => absurd (hlate t rfl) (Nat.not_le_of_lt ht)⟩
        rintro _ ⟨⟩ -
        rfl
      | succ k =>
        obtain ⟨hends, hlasts⟩ := ih (Nat.le_of_lt ht) k (l := { l with inFlight := k + 1 }) rfl hsorted.of_cons
        rw [release_of_more hcount]
        refine ⟨fun t' hget hbefore => hends t' hget hbefore, fun hlate => ?_⟩
        rw [hlasts fun t' hget => hlate t' hget]
        simp [ht]
    · have hdrive : drive limit now (t :: rest) ⟨l, .asleep false⟩ = ⟨false, limit, l, t :: rest⟩ := by
        simp [drive, Scene.result?, Scene.apply, ht, Nat.max_eq_right hlimit]
      rw [hdrive]
      constructor
      · -- The calls end in order, so those behind one that is late are late as well.
        intro t' hget hbefore
        rcases List.mem_cons.mp (List.mem_of_getElem? hget) with rfl | hlater
        · exact absurd hbefore ht
        · exact absurd (Nat.lt_of_le_of_lt (List.rel_of_pairwise_cons hsorted.of_cons hlater) hbefore) ht
      · intro _
        simp [ht, ← hcount]

/-- A wait from an instant on for calls that end in order: it is over with the last of them, or at its limit. -/
structure Awaits (l : Lifecycle) (now : Instant) (timeout : Span) (ends : List Instant) : Prop where
  drained : ∀ t, (now :: ends)[l.inFlight]? = some t → l.inFlight = 0 ∨ t < now + timeout →
    await l now timeout ends = ⟨true, t, { l with health := .stopped, inFlight := 0 }, ends.drop l.inFlight⟩
  expired : 0 < l.inFlight → (∀ t, (now :: ends)[l.inFlight]? = some t → now + timeout ≤ t) →
    await l now timeout ends = ⟨false, now + timeout,
      { l with inFlight := l.inFlight - (ends.takeWhile (· < now + timeout)).length },
      ends.dropWhile (· < now + timeout)⟩

theorem awaits (l : Lifecycle) (now : Instant) (timeout : Span) {ends : List Instant} (hsorted : (now :: ends).Pairwise (· ≤ ·)) :
    Awaits l now timeout ends := by
  cases hcount : l.inFlight with
  | zero =>
    have hsettle : (Scene.start l).settle = ⟨l.stop, .over true⟩ := by
      simp [Scene.start, Scene.settle, Scene.step, hcount]
    constructor
    · rw [hcount]
      rintro _ ⟨⟩ -
      rw [await, hsettle, drive_over, Lifecycle.stop, List.drop_zero, ← hcount]
    · exact fun hpos => absurd hcount (Nat.ne_of_gt hpos)
  | succ n =>
    have hsettle : (Scene.start l).settle = ⟨l, .asleep false⟩ := by
      simp [Scene.start, Scene.settle, Scene.step, hcount]
    obtain ⟨hdrained, hlate⟩ := drive_asleep (Nat.le_add_right now timeout) n hcount hsorted
    constructor
    · rw [await, hsettle, hcount]
      exact fun t hget hbefore => hdrained t hget (hbefore.resolve_left (Nat.succ_ne_zero n))
    · rw [await, hsettle, hcount]
      exact fun _ hall => hlate hall

/-! ## The wait as a whole -/

namespace Vigil

/-- What holds of a wait until a limit, however the calls and the waiter come between each other. -/
structure Exact (l : Lifecycle) (limit : Instant) (v : Vigil) : Prop where
  counted : v.scene.lifecycle.inFlight = v.calls.length
  distinct : v.calls.Nodup
  /-- A call that wakes the waiter as soon as it ends does both at once for it. -/
  leaves : ∀ call ∈ v.calls, v.waking = 0 → (v.after [.leave call, .wake]).scene = v.scene.apply .leave
  /-- The waiter never sleeps without a call or a wake-up to come. -/
  heard : v.scene.waiter = .asleep false → v.calls = [] → 0 < v.waking
  /-- The result is what the waiter saw last: that no call was left, or that the time was up. -/
  drains : ∀ m, v.scene.result? = none → (v.apply m).scene.result? = some true →
    m = .step ∧ (∃ woken, v.scene.waiter = .listening woken) ∧ v.calls = []
  expires : ∀ m, v.scene.result? = none → (v.apply m).scene.result? = some false → m = .timeUp ∧ limit ≤ v.now
  lasts : ∀ m drained, v.scene.result? = some drained → (v.apply m).scene.result? = some drained
  health : v.scene.lifecycle.health = if v.scene.result? = some true then .stopped else l.health
  rests : (v.after (List.replicate v.waking .wake ++ List.replicate 4 .step)).idle = true

theorem Kept.exact (h : Kept l v) : Exact l v.limit v where
  counted := h.counted
  distinct := h.distinct
  leaves _ hcall hwaking := scene_leave_wake hcall hwaking
  heard := h.heard
  drains m hnone hover := by
    rcases ends_or_stays v m with ⟨scene, hends, happly⟩ | ⟨hsame, -⟩
    · rw [happly] at hover
      cases hends with
      | drained woken hwaiter hzero => exact ⟨rfl, ⟨woken, hwaiter⟩, h.calls_eq_nil hzero⟩
      | undrained woken hwaiter htime => cases hover
    · rw [hsame, hnone] at hover
      cases hover
  expires m hnone hover := by
    rcases ends_or_stays v m with ⟨scene, hends, happly⟩ | ⟨hsame, -⟩
    · rw [happly] at hover
      cases hends with
      | drained woken hwaiter hzero => cases hover
      | undrained woken hwaiter htime => exact ⟨rfl, htime⟩
    · rw [hsame, hnone] at hover
      cases hover
  lasts m drained hresult := by
    rcases ends_or_stays v m with ⟨scene, hends, -⟩ | ⟨hsame, -⟩
    · rw [hends.result?_before] at hresult
      cases hresult
    · rw [hsame, hresult]
  health := h.health
  rests := v.idle_after_rush

/-- When a wait until a limit is over that some moves have led to: with the last call, if no call began meanwhile, or at the limit, if a
call is held for longer. -/
structure OnTime (l : Lifecycle) (limit : Instant) (moves : List Move) (v : Vigil) : Prop where
  drained : .enter ∉ moves → v.calls = [] → v.lastLeft < limit → v.idle = true →
    v.scene.result? = some true ∧ v.overAt = some v.lastLeft
  expired : ∀ c < l.inFlight, c ∈ v.calls → limit < v.now → v.scene.result? = some false ∧ v.overAt = some limit

theorem Punctual.onTime (h : Punctual l v) (hkept : Kept l v) {moves : List Move} (hbegun : .enter ∉ moves → v.begun = l.inFlight) :
    OnTime l v.limit moves v where
  drained hnew hleft hintime hidle := by
    cases hresult : v.scene.result? with
    | none => exact absurd hresult (hkept.over_of_idle hidle hleft)
    | some drained =>
      cases drained with
      | true => exact ⟨rfl, h.drained hresult (hbegun hnew)⟩
      | false => exact absurd hintime (Nat.not_lt_of_le ((h.undrained hresult).2.2 hleft))
  expired c hfirst hheld hpast := by
    cases hresult : v.scene.result? with
    | none => exact absurd hpast (Nat.not_lt_of_le (h.timely hresult))
    | some drained =>
      cases drained with
      | true => exact absurd hfirst (Nat.not_lt_of_le (hkept.gone hresult c hheld))
      | false => exact ⟨rfl, (h.undrained hresult).1⟩

/-- However the calls and the waiter come between each other, the count is that of the calls, the waiter never sleeps without a call
or a wake-up to come, and its result is what it saw last: that no call was left, or that the time was up. When nobody dawdles and no
call begins meanwhile, the wait is over with the last call, or at its limit if a call is held for longer. -/
theorem wait_exact (l : Lifecycle) (now : Instant) (timeout : Span) (moves : List Move) :
    let v := (start l now timeout).after moves
    Exact l (now + timeout) v ∧ ((start l now timeout).isPrompt moves = true → OnTime l (now + timeout) moves v) ∧
      ∀ ends, (now :: ends).Pairwise (· ≤ ·) → Awaits l now timeout ends := by
  intro v
  have hkept : Kept l v := (Kept.start now timeout).after moves
  have hlimit : v.limit = now + timeout := limit_after _ moves
  rw [← hlimit]
  refine ⟨hkept.exact, fun hprompt => ?_, fun ends hsorted => awaits l now timeout hsorted⟩
  exact ((Punctual.start l now timeout).after (Kept.start now timeout) hprompt).onTime hkept begun_after

/-- Two calls: one ends before the waiter looks, the other while it sleeps. The waiter is awake again by the time the wake-up has
come, and the wait is over at the instant of that. If the second call is held, the wait is over at its limit. -/
theorem wait_exact_two_calls :
    let l : Lifecycle := ⟨.draining, 1, 2⟩
    let early : List Move := [.step, .leave 0, .step, .pass 3, .leave 1, .step, .wake, .step, .step, .step]
    let held : List Move := [.step, .leave 0, .step, .pass 10, .timeUp, .pass 1]
    (((start l 0 10).after early).scene.result? = some true ∧ ((start l 0 10).after early).overAt = some 3) ∧
      (((start l 0 10).after held).scene.result? = some false ∧ ((start l 0 10).after held).overAt = some 10) ∧
      await l 0 10 [3, 5, 12] = ⟨true, 5, ⟨.stopped, 1, 0⟩, [12]⟩ ∧ await l 0 10 [3, 12] = ⟨false, 10, ⟨.draining, 1, 1⟩, [12]⟩ := by
  intro l early held
  obtain ⟨-, hearly, hawait⟩ := wait_exact l 0 10 early
  obtain ⟨-, hheld, -⟩ := wait_exact l 0 10 held
  have hdrained := (hearly (by decide)).drained (by decide) (by decide) (by decide) (by decide)
  refine ⟨hdrained, (hheld (by decide)).expired 1 (by decide) (by decide) (by decide), ?_, ?_⟩
  · exact (hawait [3, 5, 12] (by decide)).drained 5 rfl (.inr (by decide))
  · exact (hawait [3, 12] (by decide)).expired (by decide) (by rintro _ ⟨⟩; decide)

end Vigil

end Campus.Drain
