import Campus.Drain
import Campus.Node

/-! # Servers

A node with a place to listen at. It is bound first, then it serves until the end is announced, and then it waits for the calls in
flight, for as long as it may.
-/
namespace Campus

inductive ServerFault where
  /-- Somebody else listens there. -/
  | addressInUse
  /-- It was to serve before it was bound. -/
  | notStarted
  deriving DecidableEq, Repr

def ServerFault.message : ServerFault → String
  | addressInUse => "Address already in use (os error 98)"
  | notStarted => "start() must be called before serve()"

inductive Serving where
  | idle
  | running
  /-- It waits for the calls in flight, until a limit. -/
  | draining (waiter : Drain.Waiter) (limit : Instant)
  | over (result : Except ServerFault Unit)

structure Server where
  node : Node
  network : NetworkConfig
  isBound : Bool
  serving : Serving
  now : Instant

namespace Server

def create (node : Node) (network : NetworkConfig) : Server := ⟨node, network, false, .idle, 0⟩

def lifecycle (s : Server) : Lifecycle := s.node.lifecycle

def withLifecycle (s : Server) (l : Lifecycle) : Server := { s with node := { s.node with lifecycle := l } }

def note (s : Server) (n : Notice) : Server :=
  { s with node := { s.node with desk := { s.node.desk with stage := s.node.desk.stage.note [n] } } }

def start (s : Server) (isTaken : Bool) : Except ServerFault Server :=
  if isTaken then .error .addressInUse
  else
    .ok { s.note (.listening s.node.config.service.name s.network.host s.network.port.toNat) with isBound := true }

def serve (s : Server) : Server :=
  if s.isBound then { s.withLifecycle s.lifecycle.setReady with isBound := false, serving := .running }
  else { s with serving := .over (.error .notStarted) }

def observe (s : Server) (limit : Instant) (scene : Drain.Scene) : Server :=
  let s := s.withLifecycle scene.lifecycle
  match scene.waiter with
  | .over true => { s.note .drained with serving := .over (.ok ()) }
  | .over false => { s.note (.drainExpired scene.lifecycle.inFlight) with serving := .over (.ok ()) }
  | waiter => { s with serving := .draining waiter limit }

def shutDown (s : Server) : Server :=
  match s.serving with
  | .running => s.observe (s.now + s.network.drainTimeout) (Drain.Scene.start s.lifecycle.beginShutdown).settle
  | _ => s

def enter (s : Server) : Server := s.withLifecycle s.lifecycle.enter

/-- A call ends. The last one wakes the wait, which goes on when time passes. -/
def leave (s : Server) : Server :=
  match s.serving with
  | .draining waiter limit =>
    let scene := Drain.Scene.apply ⟨s.lifecycle, waiter⟩ .leave
    { s.withLifecycle scene.lifecycle with serving := .draining scene.waiter limit }
  | _ => s.withLifecycle s.lifecycle.leave

/-- Lets time pass. The wait for the calls in flight goes on, and is over when its limit is reached. -/
def pass (s : Server) (span : Span) : Server :=
  let s := { s with now := s.now + span }
  match s.serving with
  | .draining waiter limit =>
    let scene := Drain.Scene.settle ⟨s.lifecycle, waiter⟩
    s.observe limit (if limit ≤ s.now then scene.apply .timeUp else scene)
  | _ => s

/-- Lets a wait go on to its end; time jumps to the limit if it has to. -/
def join (s : Server) : Server :=
  let s := s.pass 0
  match s.serving with
  | .draining _ limit => s.pass (limit - s.now)
  | _ => s

end Server

end Campus
