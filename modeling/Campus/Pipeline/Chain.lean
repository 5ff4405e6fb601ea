import Campus.Breaker
import Campus.Bucket
import Campus.Config
import Campus.Operation

/-! # Chains of decorators

A chain wraps an operation in decorators, outermost first. A call enters from the outside: each decorator lets it through,
perhaps leaving a frame that waits for the end of the call, or turns it away. When the call ends, or is dropped, the frames
are left from the inside out. Limiters and breakers stand in a shared guard room, so one of them may serve several places.
-/
namespace Campus

inductive Ending (α : Type) where
  | returned (result : Except Fault α)
  /-- It broke down, with a text where there is one. -/
  | panicked (text : Option String)
  /-- Its caller gave it up. -/
  | dropped

/-- What a decorator learns of the end of a call: a summary or a fault, or nothing. -/
inductive Verdict where
  | succeeded (summary : String)
  | failed (fault : Fault)
  | unfinished
  deriving DecidableEq

def Ending.verdict {α : Type} [Summarize α] : Ending α → Verdict
  | returned (.ok a) => .succeeded (summary a)
  | returned (.error f) => .failed f
  | panicked _ | dropped => .unfinished

namespace Pipeline

/-- One concern around an operation. Limiters and breakers are named by their place in the guard room. -/
inductive Decorator where
  | logging
  | metrics
  | rateLimit (endpoint : String) (bucket : Nat)
  | breaker (index : Nat)
  | mark (name : String)
  deriving DecidableEq, Repr

def Decorator.name : Decorator → String
  | logging => "logging"
  | metrics => "metrics"
  | rateLimit _ _ => "rate_limit"
  | breaker _ => "circuit_breaker"
  | mark name => name

/-- What a decorator that let a call through keeps until the call ends. -/
inductive Frame where
  | log (method fields : String) (since : Instant)
  | timer (method : String) (since : Instant)
  | permit (breaker : Nat) (permit : Permit)
  deriving DecidableEq, Repr

/-- The limiters and breakers of a chain, and the journal that its calls write. -/
structure Stage where
  buckets : List (Bucket Float)
  breakers : List Breaker
  journal : Journal
  /-- The frames of calls that were torn down, and that nobody has left yet. -/
  leaving : List (List Frame)

namespace Stage

def write (s : Stage) (e : Entry) : Stage := { s with journal := s.journal ++ [e] }

def note (s : Stage) (ns : List Notice) : Stage := { s with journal := s.journal ++ ns.map .notice }

def tearDown (s : Stage) (frames : List Frame) : Stage := { s with leaving := s.leaving ++ [frames] }

end Stage

structure CallInfo where
  method : String
  fields : String
  deriving DecidableEq, Repr

/-- Takes a call through the decorators, outermost first. Gives the frames, innermost first, and the fault of the decorator
that turned the call away. -/
def enter (now : Instant) (call : CallInfo) : List Decorator → List Frame → Stage → (List Frame × Option Fault) × Stage
  | [], frames, s => ((frames, none), s)
  | .logging :: inner, frames, s => enter now call inner (.log call.method call.fields now :: frames) s
  | .metrics :: inner, frames, s => enter now call inner (.timer call.method now :: frames) s
  | .mark name :: inner, frames, s => enter now call inner frames (s.write (.passed name))
  | .rateLimit endpoint i :: inner, frames, s =>
    match s.buckets[i]? with
    | none => enter now call inner frames s
    | some b =>
      let (ok, b) := b.take now
      let s := { s with buckets := s.buckets.set i b }
      if ok then enter now call inner frames s
      else ((frames, some (.throttled endpoint)), s.note [.rateLimited endpoint])
  | .breaker i :: inner, frames, s =>
    match s.breakers[i]? with
    | none => enter now call inner frames s
    | some b =>
      let (permit, b, ns) := b.acquire now
      let s := { s with breakers := s.breakers.set i b }.note ns
      match permit with
      | some p => enter now call inner (.permit i p :: frames) s
      | none => ((frames, some b.rejection), s)

def Frame.leave (now : Instant) (verdict : Verdict) (s : Stage) : Frame → Stage
  | .log method fields since =>
    s.note [match verdict with
      | .succeeded summary => .callComplete method fields summary (now - since)
      | .failed fault => .callFailed method fields fault.message fault.kind.label (now - since)
      | .unfinished => .callAborted method fields (now - since)]
  | .timer method since =>
    let outcome := match verdict with
      | .succeeded _ => CallOutcome.ok
      | .failed fault => .failed fault.kind
      | .unfinished => .aborted
    (s.write (.counted method outcome)).write (.observed method (now - since))
  | .permit i p =>
    match s.breakers[i]? with
    | none => s
    | some b =>
      let (b, ns) := match verdict with
        | .succeeded _ => b.record now p none
        | .failed fault => b.record now p (some fault)
        | .unfinished => b.drop now p
      { s with breakers := s.breakers.set i b }.note ns

/-- Leaves the frames of a call, innermost first. -/
def leave (now : Instant) (verdict : Verdict) (frames : List Frame) (s : Stage) : Stage :=
  frames.foldl (Frame.leave now verdict) s

/-- Leaves the frames of the calls that were torn down, in that order. -/
def Stage.sweep (now : Instant) (s : Stage) : Stage :=
  s.leaving.foldl (fun s frames => leave now .unfinished frames s) { s with leaving := [] }

/-- Takes a call through a chain. A call that is turned away ends at once with the fault it was given; of one that is let
through the frames remain. -/
def startCall (now : Instant) (call : CallInfo) (decorators : List Decorator) (s : Stage) :
    Except Fault (List Frame) × Stage :=
  match enter now call decorators [] s with
  | ((frames, some fault), s) => (.error fault, leave now (.failed fault) frames s)
  | ((frames, none), s) => (.ok frames, s)

/-- Puts decorators, innermost first, around an operation. There must be one. -/
def build {β : Type} (base : Option β) (decorators : List Decorator) : Except Fault (β × List Decorator) :=
  match base with
  | some base => .ok (base, decorators.reverse)
  | none => .error (.configuration "pipeline has no base operation")

/-- The chain of one endpoint, outermost first: rate limit, circuit breaker, metrics, logging. -/
def endpointChain (method : String) (bucket breaker : Nat) : List Decorator :=
  [.rateLimit method bucket, .breaker breaker, .metrics, .logging]

namespace Stage

def empty : Stage := ⟨[], [], [], []⟩

/-- A guard room with one more bucket and one more breaker. -/
def add (s : Stage) (bucket : Bucket Float) (breaker : Breaker) : Stage :=
  { s with buckets := s.buckets ++ [bucket], breakers := s.breakers ++ [breaker] }

/-- A guard room with a bucket and a breaker for one endpoint more. The breaker counts the faults that say something about
what was called. -/
def addEndpoint (s : Stage) (method : String) (limiter : LimiterSettings) (breaker : BreakerSettings) (now : Instant) :
    Stage :=
  s.add (.full limiter.rate limiter.burst now) (.fresh method breaker Fault.isDependencyFailure)

end Stage

end Pipeline

end Campus
