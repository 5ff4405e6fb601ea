/-! # Health

How far a process is in its life, and how many calls are in flight. Whoever listens for the end of the process hears each time it
is announced.
-/
namespace Campus

inductive Health where
  | starting
  | ready
  | draining
  | stopped
  deriving DecidableEq, Repr

def Health.label : Health → String
  | starting => "starting"
  | ready => "ready"
  | draining => "draining"
  | stopped => "stopped"

/-- The state of a process that its calls and its probes share. -/
structure Lifecycle where
  health : Health
  /-- How often the end was announced. -/
  announced : Nat
  /-- The calls in flight. -/
  inFlight : Nat
  deriving DecidableEq, Repr

/-- One who listens for the end, and the announcements that were heard. -/
structure Listener where
  heard : Nat
  deriving DecidableEq, Repr

namespace Lifecycle

def fresh : Lifecycle := ⟨.starting, 0, 0⟩

def setReady (l : Lifecycle) : Lifecycle := { l with health := .ready }

def beginShutdown (l : Lifecycle) : Lifecycle := { l with health := .draining, announced := l.announced + 1 }

def stop (l : Lifecycle) : Lifecycle := { l with health := .stopped }

def enter (l : Lifecycle) : Lifecycle := { l with inFlight := l.inFlight + 1 }

def leave (l : Lifecycle) : Lifecycle := { l with inFlight := l.inFlight - 1 }

def isShutDown (l : Lifecycle) : Bool := 0 < l.announced

def listen (l : Lifecycle) : Listener := ⟨l.announced⟩

end Lifecycle

def Listener.isBehind (r : Listener) (l : Lifecycle) : Bool := r.heard ≠ l.announced

end Campus
