import Campus.Clock
import Campus.Fault

/-! # The journal

What a run leaves for people and monitors to read, in the order in which it happened: log lines, counts and latencies of
calls, and marks of what was reached.
-/
namespace Campus

inductive Level where
  | debug
  | info
  | warn
  deriving DecidableEq, Repr

def Level.label : Level → String
  | debug => "DEBUG"
  | info => "INFO"
  | warn => "WARN"

inductive FieldValue where
  | text (s : String)
  | number (n : Nat)
  deriving DecidableEq, Repr

inductive Notice where
  | rateLimited (endpoint : String)
  | probing (breaker : String)
  | rejected (breaker : String)
  | opened (breaker : String) (failures : Nat)
  | reopened (breaker : String)
  | closed (breaker : String)
  | probeReleased (breaker : String)
  | callComplete (method fields result : String) (elapsed : Span)
  | callFailed (method fields error kind : String) (elapsed : Span)
  | callAborted (method fields : String) (elapsed : Span)
  | fanOutFailed (seed related error : String)
  | fanOutComplete (seed : String) (resolved : Nat)
  | exporterListening (address : String)
  | routerReady (service peer : String) (endpoints : Nat)
  | listening (service host : String) (port : Nat)
  | shutdownSignal
  | drained
  | drainExpired (inFlight : Nat)
  deriving DecidableEq, Repr

namespace Notice

def level : Notice → Level
  | rejected _ | probeReleased _ | fanOutComplete _ _ => .debug
  | rateLimited _ | opened _ _ | reopened _ | callFailed _ _ _ _ _ | callAborted _ _ _ | fanOutFailed _ _ _
  | drainExpired _ => .warn
  | _ => .info

def message : Notice → String
  | rateLimited _ => "rate limit exceeded"
  | probing _ => "circuit half-open, probing"
  | rejected _ => "call rejected, circuit open"
  | opened _ _ => "circuit opened"
  | reopened _ => "probe failed, circuit re-opened"
  | closed _ => "probe succeeded, circuit closed"
  | probeReleased _ => "probe released without an outcome"
  | callComplete _ _ _ _ => "call complete"
  | callFailed _ _ _ _ _ => "call failed"
  | callAborted _ _ _ => "call aborted"
  | fanOutFailed _ _ _ => "fan-out failed"
  | fanOutComplete _ _ => "fan-out complete"
  | exporterListening _ => "prometheus exporter listening"
  | routerReady _ _ _ => "operation router ready"
  | listening _ host port => s!"listening on {host}:{port}"
  | shutdownSignal => "shutdown signal received"
  | drained => "all requests drained"
  | drainExpired _ => "drain timeout expired with requests in flight"

def fields : Notice → List (String × FieldValue)
  | rateLimited endpoint => [("endpoint", .text endpoint)]
  | probing breaker | rejected breaker | reopened breaker | closed breaker | probeReleased breaker =>
    [("breaker", .text breaker)]
  | opened breaker failures => [("breaker", .text breaker), ("failures", .number failures)]
  | callComplete method fields result elapsed =>
    [("method", .text method), ("fields", .text fields), ("result", .text result), ("elapsed_ms", .number elapsed.toMillis)]
  | callFailed method fields error kind elapsed =>
    [("method", .text method), ("fields", .text fields), ("error", .text error), ("kind", .text kind),
      ("elapsed_ms", .number elapsed.toMillis)]
  | callAborted method fields elapsed =>
    [("method", .text method), ("fields", .text fields), ("elapsed_ms", .number elapsed.toMillis)]
  | fanOutFailed seed related error => [("seed_id", .text seed), ("related_id", .text related), ("error", .text error)]
  | fanOutComplete seed resolved => [("seed_id", .text seed), ("resolved", .number resolved)]
  | exporterListening address => [("addr", .text address)]
  | routerReady service peer endpoints =>
    [("service", .text service), ("peer", .text peer), ("endpoints", .number endpoints)]
  | listening service _ _ => [("service", .text service)]
  | shutdownSignal | drained => []
  | drainExpired inFlight => [("in_flight", .number inFlight)]

end Notice

inductive CallOutcome where
  | ok
  | failed (kind : FaultKind)
  | aborted
  deriving DecidableEq, Repr

def CallOutcome.label : CallOutcome → String
  | ok => "ok"
  | failed kind => kind.label
  | aborted => "aborted"

inductive Entry where
  | notice (n : Notice)
  /-- A call of a method was counted with its outcome. -/
  | counted (method : String) (outcome : CallOutcome)
  /-- The latency of a call of a method was observed. -/
  | observed (method : String) (elapsed : Span)
  /-- A call passed a mark in its chain. -/
  | passed (mark : String)
  /-- The operation at the bottom of a chain was called. -/
  | invoked
  /-- A request was handed to the transport of a peer. -/
  | asked (method id : String) (requestId : Option String)
  deriving DecidableEq, Repr

abbrev Journal := List Entry

namespace Journal

def notices (j : Journal) : List Notice := j.filterMap fun
  | .notice n => some n
  | _ => none

end Journal

def requestsTotal : String := "lms_requests_total"

def requestDuration : String := "lms_request_duration_seconds"

end Campus
