import Campus.Clock
import Campus.Health

/-! # Drain

The wait for the calls in flight. The waiter asks to be woken, then looks at the count, and sleeps unless it is zero; the last
call that ends wakes it. Asking comes before looking, so that a call which ends between the two is not missed. The wait is over
when the count was seen at zero, or when the time is up.
-/
namespace Campus.Drain

/-- Where the waiter stands. A waiter that listens, or sleeps, may have been woken meanwhile. -/
inductive Waiter where
  /-- It is about to ask to be woken. -/
  | begun
  /-- It has asked, and has not looked yet. -/
  | listening (woken : Bool)
  | asleep (woken : Bool)
  | over (drained : Bool)
  deriving DecidableEq, Repr

/-- What happens around a wait. -/
inductive Event where
  /-- A call begins. -/
  | enter
  /-- A call ends. -/
  | leave
  /-- The waiter takes its next step, if it can. -/
  | step
  /-- The time is up. -/
  | timeUp
  deriving DecidableEq, Repr

/-- A waiter beside the process it waits for. -/
structure Scene where
  lifecycle : Lifecycle
  waiter : Waiter
  deriving DecidableEq, Repr

def Waiter.wake : Waiter → Waiter
  | listening _ => listening true
  | asleep _ => asleep true
  | w => w

namespace Scene

def start (l : Lifecycle) : Scene := ⟨l, .begun⟩

/-- The next step of the waiter. One that sleeps and was not woken has none. -/
def step (s : Scene) : Scene :=
  match s.waiter with
  | .begun => { s with waiter := .listening false }
  | .listening woken =>
    if s.lifecycle.inFlight = 0 then ⟨s.lifecycle.stop, .over true⟩ else { s with waiter := .asleep woken }
  | .asleep true => { s with waiter := .begun }
  | .asleep false => s
  | .over _ => s

/-- What an event makes of a scene. The waiter gives up only while it sleeps without having been woken. -/
def apply (s : Scene) : Event → Scene
  | .enter => { s with lifecycle := s.lifecycle.enter }
  | .leave =>
    { lifecycle := s.lifecycle.leave
      waiter := if s.lifecycle.inFlight = 1 then s.waiter.wake else s.waiter }
  | .step => s.step
  | .timeUp => if s.waiter = .asleep false then { s with waiter := .over false } else s

def run (s : Scene) (events : List Event) : Scene := events.foldl apply s

/-- Lets the waiter run until it sleeps or is done; from anywhere that takes at most four steps. -/
def settle (s : Scene) : Scene := s.step.step.step.step

/-- Lets a call end and the waiter go on. -/
def release (s : Scene) : Scene := (s.apply .leave).settle

def result? (s : Scene) : Option Bool :=
  match s.waiter with
  | .over drained => some drained
  | _ => none

end Scene

/-- How a whole wait went: whether the calls ended in time, when it was over, what became of the process, and the ends that were
still to come. -/
structure Report where
  drained : Bool
  now : Instant
  lifecycle : Lifecycle
  left : List Instant
  deriving DecidableEq, Repr

/-- Takes a wait through the instants at which calls end, in order, up to a limit. An end at the limit itself is too late. -/
def drive (limit : Instant) : Instant → List Instant → Scene → Report
  | now, [], s =>
    match s.result? with
    | some drained => ⟨drained, now, s.lifecycle, []⟩
    | none => ⟨false, max now limit, (s.apply .timeUp).lifecycle, []⟩
  | now, t :: rest, s =>
    match s.result? with
    | some drained => ⟨drained, now, s.lifecycle, t :: rest⟩
    | none =>
      if t < limit then drive limit (max now t) rest s.release
      else ⟨false, max now limit, (s.apply .timeUp).lifecycle, t :: rest⟩

/-- Waits from `now` on, for at most a span, while calls end at the given instants. -/
def await (l : Lifecycle) (now : Instant) (timeout : Span) (ends : List Instant) : Report :=
  drive (now + timeout) now ends (Scene.start l).settle

end Campus.Drain
