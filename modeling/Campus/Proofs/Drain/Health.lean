import Campus.Drain
import Campus.Node
import Mathlib.Data.List.Induction

/-! # Health over a life

The health of a process is written from three sides: by the server that is ready, by whoever announces the end, and by each wait
that sees the last call gone. Nothing orders them, and the last one to write has it. Health goes forward with every step but two: a
process that is set ready after its end was announced or reached, and an announcement after all calls were gone. That the end was
announced is never taken back.
-/
namespace Campus

def Health.rank : Health → Nat
  | starting => 0
  | ready => 1
  | draining => 2
  | stopped => 3

namespace Drain

structure Process where
  lifecycle : Lifecycle
  waiters : List Waiter
  deriving DecidableEq, Repr

namespace Process

inductive Event where
  | setReady
  | beginShutdown
  /-- A call begins. -/
  | enter
  /-- A call ends. -/
  | leave
  /-- One more wait begins. -/
  | await
  /-- The waiter at a place takes its next step, if it can. -/
  | step (place : Nat)
  /-- The time of the waiter at a place is up. -/
  | timeUp (place : Nat)
  deriving DecidableEq, Repr

def fresh : Process := ⟨.fresh, []⟩

/-- Takes the waiter at a place through an event of its wait. -/
def wait (p : Process) (place : Nat) (event : Drain.Event) : Process :=
  match p.waiters[place]? with
  | none => p
  | some w =>
    let scene := Scene.apply ⟨p.lifecycle, w⟩ event
    ⟨scene.lifecycle, p.waiters.set place scene.waiter⟩

/-- What an event makes of a process. The last call that ends wakes everyone who waits. -/
def apply (p : Process) : Event → Process
  | .setReady => { p with lifecycle := p.lifecycle.setReady }
  | .beginShutdown => { p with lifecycle := p.lifecycle.beginShutdown }
  | .enter => { p with lifecycle := p.lifecycle.enter }
  | .leave =>
    { lifecycle := p.lifecycle.leave
      waiters := if p.lifecycle.inFlight = 1 then p.waiters.map Waiter.wake else p.waiters }
  | .await => { p with waiters := p.waiters ++ [.begun] }
  | .step place => p.wait place .step
  | .timeUp place => p.wait place .timeUp

def after (events : List Event) : Process := events.foldl apply fresh

theorem after_concat (events : List Event) (e : Event) : after (events ++ [e]) = (after events).apply e := List.foldl_append

/-- Whether the waiter at a place is about to see that no call is left. -/
def seesNone (p : Process) (place : Nat) : Bool :=
  match p.waiters[place]? with
  | some (.listening _) => p.lifecycle.inFlight = 0
  | _ => false

def writes (p : Process) : Event → Option Health
  | .setReady => some .ready
  | .beginShutdown => some .draining
  | .step place => if p.seesNone place then some .stopped else none
  | _ => none

variable {p : Process}

/-! ## One step -/

/-- The lifecycle of a process is touched by a waiter only when it sees that no call is left. -/
theorem lifecycle_wait (place : Nat) :
    (p.wait place .step).lifecycle = if p.seesNone place then p.lifecycle.stop else p.lifecycle := by
  unfold wait seesNone
  split
  case h_1 hnone => simp [hnone]
  case h_2 w hsome =>
    cases w with
    | begun => simp [hsome, Scene.apply, Scene.step]
    | listening woken => by_cases hzero : p.lifecycle.inFlight = 0 <;> simp [hsome, Scene.apply, Scene.step, hzero]
    | asleep woken => cases woken <;> simp [hsome, Scene.apply, Scene.step]
    | _ => simp [hsome, Scene.apply, Scene.step]

theorem lifecycle_timeUp (place : Nat) : (p.wait place .timeUp).lifecycle = p.lifecycle := by
  unfold wait
  split
  case h_1 => rfl
  case h_2 w _ => by_cases hasleep : w = .asleep false <;> simp [Scene.apply, hasleep]

theorem health_apply (p : Process) (e : Event) : (p.apply e).lifecycle.health = (p.writes e).getD p.lifecycle.health := by
  cases e with
  | step place =>
    rw [apply, lifecycle_wait, writes]
    split <;> rfl
  | timeUp place =>
    rw [apply, lifecycle_timeUp]
    rfl
  | _ => rfl

/-- Only an announcement changes how often the end was announced. -/
theorem announced_apply (p : Process) (e : Event) :
    (p.apply e).lifecycle.announced = p.lifecycle.announced + if e = .beginShutdown then 1 else 0 := by
  cases e with
  | step place =>
    rw [apply, lifecycle_wait]
    split <;> rfl
  | timeUp place =>
    rw [apply, lifecycle_timeUp]
    rfl
  | _ => rfl

/-- An event that comes too late: the process is set ready when its end was announced or reached, or the end is announced when all
calls were gone. -/
def Late (p : Process) : Event → Prop
  | .setReady => p.lifecycle.health = .draining ∨ p.lifecycle.health = .stopped
  | .beginShutdown => p.lifecycle.health = .stopped
  | _ => False

theorem rank_le_three (h : Health) : h.rank ≤ 3 := by cases h <;> decide

/-- Health goes forward with every event that does not come too late, and back with each one that does. -/
theorem late_iff_rank_lt (p : Process) (e : Event) :
    p.Late e ↔ (p.apply e).lifecycle.health.rank < p.lifecycle.health.rank := by
  rw [health_apply]
  cases e with
  | setReady => cases hhealth : p.lifecycle.health <;> simp [Late, writes, hhealth, Health.rank]
  | beginShutdown => cases hhealth : p.lifecycle.health <;> simp [Late, writes, hhealth, Health.rank]
  | step place =>
    have hle := rank_le_three p.lifecycle.health
    have hstopped : Health.stopped.rank = 3 := rfl
    by_cases hnone : p.seesNone place = true
    · simp only [Late, writes, hnone, if_true, Option.getD_some, false_iff]
      omega
    · simp [Late, writes, hnone]
  | _ => simp [Late, writes]

/-! ## A whole life -/

/-- Between two moments of a life in which nothing comes too late, health goes forward. -/
theorem rank_le_after {past : List Event} (events : List Event)
    (h : ∀ front e back, events = front ++ e :: back → ¬(after (past ++ front)).Late e) :
    (after past).lifecycle.health.rank ≤ (after (past ++ events)).lifecycle.health.rank := by
  induction events using List.reverseRecOn with
  | nil => exact Nat.le_of_eq (by rw [List.append_nil])
  | append_singleton events e ih =>
    have hbefore := ih fun front e' back hsplit => h front e' (back ++ [e]) (by rw [hsplit]; simp)
    have hintime := h events e [] rfl
    rw [late_iff_rank_lt, Nat.not_lt] at hintime
    rw [← List.append_assoc, after_concat]
    exact Nat.le_trans hbefore hintime

theorem announced_after (events : List Event) : (after events).lifecycle.announced = events.count .beginShutdown := by
  induction events using List.reverseRecOn with
  | nil => rfl
  | append_singleton events e ih =>
    rw [after_concat, announced_apply, ih, List.count_append, List.count_singleton]
    simp

/-- Once the end was announced, it reads as announced to everyone, for good. -/
theorem isShutDown_after {events : List Event} (h : .beginShutdown ∈ events) : (after events).lifecycle.isShutDown = true := by
  rw [Lifecycle.isShutDown, announced_after]
  exact decide_eq_true (List.count_pos_iff.mpr h)

theorem set_ready_since {events : List Event} (hannounced : .beginShutdown ∈ events)
    (hready : (after events).lifecycle.health = .ready) :
    ∃ front back, events = front ++ .setReady :: back ∧ .beginShutdown ∈ front ∧ .beginShutdown ∉ back := by
  induction events using List.reverseRecOn with
  | nil => cases hannounced
  | append_singleton events e ih =>
    rw [after_concat, health_apply] at hready
    by_cases hset : e = .setReady
    · subst hset
      have hearlier : .beginShutdown ∈ events := by simpa using hannounced
      exact ⟨events, [], rfl, hearlier, by simp⟩
    · -- An event that writes another state is not the last one, and one that writes none leaves the state as it was.
      have hsilent : (after events).writes e = none ∧ e ≠ .beginShutdown := by
        cases e with
        | setReady => exact absurd rfl hset
        | beginShutdown => cases hready
        | step place =>
          by_cases hnone : (after events).seesNone place = true
          · simp [writes, hnone] at hready
          · simp [writes, hnone]
        | _ => simp [writes]
      rw [hsilent.1, Option.getD_none] at hready
      have hearlier : .beginShutdown ∈ events := by
        rcases List.mem_append.mp hannounced with hmem | hlast
        · exact hmem
        · exact absurd (List.mem_singleton.mp hlast).symm hsilent.2
      obtain ⟨front, back, rfl, hfront, hback⟩ := ih hearlier hready
      refine ⟨front, back ++ [e], by simp, hfront, ?_⟩
      simp [hback, hsilent.2.symm]

/-! ## Readiness -/

/-- Who asks whether a node is ready is told so in no other state of health. -/
theorem receive_ready {n : Node} {request : Http.Request} (h : request.understand n.config.service = .ok .ready)
    (network : Peer.Network) (now : Instant) (wall : Moment) (madeUp : String) :
    n.receive network now wall madeUp request =
      (.answered (Node.shape (request.method = "HEAD") (.bare (if n.lifecycle.health = .ready then 200 else 503))), n) := by
  simp only [Node.receive, h]

theorem status_shape (headOnly : Bool) (status : Nat) : (Node.shape headOnly (.bare status)).status = status := by
  cases headOnly <;> rfl

/-- Health goes back with exactly those events that come too late, and forward along any part of a life without them. Once the end
was announced it stays announced, and nobody is told that the process is ready unless it was set ready since. -/
theorem health_over_life (past events : List Event) (e : Event) :
    ((after past).Late e ↔ (after (past ++ [e])).lifecycle.health.rank < (after past).lifecycle.health.rank) ∧
    ((∀ front e back, events = front ++ e :: back → ¬(after (past ++ front)).Late e) →
      (after past).lifecycle.health.rank ≤ (after (past ++ events)).lifecycle.health.rank) ∧
    (.beginShutdown ∈ past →
      (after (past ++ events)).lifecycle.isShutDown = true ∧
      ∀ (n : Node) (network : Peer.Network) (now : Instant) (wall : Moment) (madeUp : String) (request : Http.Request),
        n.lifecycle = (after (past ++ events)).lifecycle → request.understand n.config.service = .ok .ready →
          ∃ answer, n.receive network now wall madeUp request = (.answered answer, n) ∧
            (answer.status = 200 ∨ answer.status = 503) ∧
            (answer.status = 200 → ∃ front back, past ++ events = front ++ .setReady :: back ∧ .beginShutdown ∈ front ∧
              .beginShutdown ∉ back)) := by
  refine ⟨?_, rank_le_after events, fun hannounced => ?_⟩
  · rw [after_concat]
    exact late_iff_rank_lt _ e
  · have hstill : .beginShutdown ∈ past ++ events := List.mem_append_left events hannounced
    refine ⟨isShutDown_after hstill, fun n network now wall madeUp request hsame hasked => ?_⟩
    refine ⟨_, receive_ready hasked network now wall madeUp, ?_, fun hstatus => ?_⟩
    · rw [status_shape]
      split
      case isTrue => exact .inl rfl
      case isFalse => exact .inr rfl
    · rw [status_shape, hsame] at hstatus
      by_cases hready : (after (past ++ events)).lifecycle.health = .ready
      · exact set_ready_since hstill hready
      · rw [if_neg hready] at hstatus
        cases hstatus

/-- A process that is set ready after its end was announced goes back from draining to ready. -/
theorem health_over_life_set_ready_late :
    let draining := after [.setReady, .enter, .beginShutdown]
    draining.lifecycle.health = .draining ∧ draining.Late .setReady ∧
      (after [.setReady, .enter, .beginShutdown, .setReady]).lifecycle.health = .ready ∧
      (after [.setReady, .enter, .beginShutdown, .setReady]).lifecycle.health.rank < draining.lifecycle.health.rank ∧
      (after [.setReady, .enter, .beginShutdown, .setReady]).lifecycle.isShutDown = true := by
  intro draining
  obtain ⟨hlate, -, hannounced⟩ := health_over_life [.setReady, .enter, .beginShutdown] [.setReady] .setReady
  have hafter : draining.Late .setReady := .inl rfl
  exact ⟨rfl, hafter, rfl, hlate.mp hafter, (hannounced (by decide)).1⟩

end Process

end Drain

end Campus
