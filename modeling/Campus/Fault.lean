/-! # Faults

Why an operation failed. A fault carries its cause; its kind is the stable classification that decides the status of an
answer, the label of a metric and whether a breaker counts it.
-/
namespace Campus

/-- The stable classification of a failed operation. -/
inductive FaultKind where
  | validation
  | throttled
  | circuitOpen
  | remoteTimeout
  | remoteUnavailable
  | notFound
  | cancelled
  | configuration
  | internal
  deriving DecidableEq, Repr, Inhabited

namespace FaultKind

def all : List FaultKind :=
  [validation, throttled, circuitOpen, remoteTimeout, remoteUnavailable, notFound, cancelled, configuration, internal]

/-- The short name used in metrics, log lines and on the wire. -/
def label : FaultKind → String
  | validation => "validation"
  | throttled => "throttled"
  | circuitOpen => "circuit_open"
  | remoteTimeout => "remote_timeout"
  | remoteUnavailable => "remote_unavailable"
  | notFound => "not_found"
  | cancelled => "cancelled"
  | configuration => "configuration"
  | internal => "internal"

def ofLabel? (s : String) : Option FaultKind := all.find? fun k => k.label == s

/-- The status of an answer that reports a fault of this kind. -/
def status : FaultKind → Nat
  | validation => 400
  | notFound => 404
  | throttled => 429
  | remoteUnavailable => 502
  | circuitOpen | cancelled => 503
  | remoteTimeout => 504
  | configuration | internal => 500

/-- Whether a fault of this kind says something about the health of what was called. Bad input, missing rows, local
throttling and cancellation by the caller do not. -/
def isDependencyFailure : FaultKind → Bool
  | validation | notFound | throttled | cancelled => false
  | _ => true

end FaultKind

/-- The cause of a failed operation. -/
inductive Fault where
  | validation (reason : String)
  | notFound (entity id : String)
  | throttled (endpoint : String)
  | circuitOpen (dependency : String)
  | remoteTimeout (dependency : String) (millis : Nat)
  | remoteUnavailable (dependency reason : String)
  | aggregate (seed related : String) (source : Fault)
  | cancelled
  | configuration (reason : String)
  | unknownMethod (method : String)
  | internal (message : String)
  deriving DecidableEq, Repr, Inhabited

namespace Fault

/-- The classification of a fault; an aggregate has that of the branch which failed. -/
def kind : Fault → FaultKind
  | validation _ => .validation
  | notFound _ _ => .notFound
  | throttled _ => .throttled
  | circuitOpen _ => .circuitOpen
  | remoteTimeout _ _ => .remoteTimeout
  | remoteUnavailable _ _ => .remoteUnavailable
  | aggregate _ _ source => source.kind
  | cancelled => .cancelled
  | configuration _ | unknownMethod _ => .configuration
  | internal _ => .internal

def message : Fault → String
  | validation reason => s!"invalid request: {reason}"
  | notFound entity id => s!"{entity} {id} not found"
  | throttled endpoint => s!"rate limit exceeded for {endpoint}"
  | circuitOpen dependency => s!"circuit open for {dependency}"
  | remoteTimeout dependency millis => s!"{dependency} did not answer within {millis}ms"
  | remoteUnavailable dependency reason => s!"{dependency} unavailable: {reason}"
  | aggregate seed related source => s!"resolving {related} for {seed} failed: {source.message}"
  | cancelled => "operation cancelled"
  | configuration reason => s!"invalid pipeline configuration: {reason}"
  | unknownMethod method => s!"no endpoint registered for method {method}"
  | internal message => s!"internal error: {message}"

/-- The name of the cause itself, which for an aggregate is not that of its kind. -/
def variant : Fault → String
  | validation _ => "validation"
  | notFound _ _ => "not_found"
  | throttled _ => "throttled"
  | circuitOpen _ => "circuit_open"
  | remoteTimeout _ _ => "remote_timeout"
  | remoteUnavailable _ _ => "remote_unavailable"
  | aggregate _ _ _ => "aggregate"
  | cancelled => "cancelled"
  | configuration _ => "configuration"
  | unknownMethod _ => "unknown_method"
  | internal _ => "internal"

def isAggregate : Fault → Bool
  | aggregate _ _ _ => true
  | _ => false

def sourceMessage? : Fault → Option String
  | aggregate _ _ source => some source.message
  | internal message => some message
  | _ => none

/-- Whether a breaker that watches a dependency counts this fault. -/
def isDependencyFailure (f : Fault) : Bool := f.kind.isDependencyFailure

end Fault

end Campus
