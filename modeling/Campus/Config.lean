import Campus.Breaker
import Campus.Clock
import Campus.Decimal

/-! # Configuration

Which service a process runs and the limits it keeps, with the values that hold unless others are given.
-/
namespace Campus

inductive ServiceKind where
  | students
  | courses
  | accounts
  deriving DecidableEq, Repr

namespace ServiceKind

/-- The name of a service on the command line, in contexts and in metrics. -/
def name : ServiceKind → String
  | students => "students"
  | courses => "courses"
  | accounts => "accounts"

def title : ServiceKind → String
  | students => "Students"
  | courses => "Courses"
  | accounts => "Accounts"

def ofName? (s : String) : Option ServiceKind := [students, courses, accounts].find? fun k => k.name == s

def needsPeer : ServiceKind → Bool
  | students | courses => true
  | accounts => false

end ServiceKind

/-- The rate and size of one token bucket. -/
structure LimiterSettings where
  rate : Float
  burst : UInt32

/-- The limits of calls that go out to a sibling service. -/
structure ClientSettings where
  limiter : LimiterSettings
  breaker : BreakerSettings
  connectTimeout : Span

structure ServerConfig where
  service : ServiceKind
  /-- The time that an operation may take, in milliseconds. -/
  operationTimeoutMs : UInt64
  /-- The bucket of each endpoint. -/
  endpointLimiter : LimiterSettings
  /-- The breaker of each endpoint. -/
  endpointBreaker : BreakerSettings
  client : ClientSettings
  /-- How many related records are resolved at once; zero for any number. -/
  fanOut : Nat
  peerUrl : Option String

def BreakerSettings.standard : BreakerSettings := ⟨5, Span.ofSeconds 60⟩

def ClientSettings.standard : ClientSettings := ⟨⟨1.0, 100⟩, .standard, Span.ofSeconds 2⟩

/-- How many related records are resolved at once unless told otherwise. -/
def standardFanOut : Nat := 16

inductive ConfigFault where
  | invalidRefill (limiter : String) (rate : Float)
  | missingPeer (service : ServiceKind)
  | zeroTimeout

namespace ConfigFault

def label : ConfigFault → String
  | invalidRefill _ _ => "invalid_refill"
  | missingPeer _ => "missing_peer"
  | zeroTimeout => "zero_timeout"

def message : ConfigFault → String
  | invalidRefill limiter rate =>
    s!"refill rate for {limiter} must be finite and non-negative, got {Decimal.shortest rate}"
  | missingPeer service => s!"the {service.title} service needs a peer URL"
  | zeroTimeout => "operation timeout must be positive"

end ConfigFault

namespace ServerConfig

def standard : ServerConfig :=
  { service := .students
    operationTimeoutMs := 30000
    endpointLimiter := ⟨1.0, 1⟩
    endpointBreaker := .standard
    client := .standard
    fanOut := standardFanOut
    peerUrl := none }

def operationTimeout (c : ServerConfig) : Span := Span.ofMillis c.operationTimeoutMs.toNat

def isRefill (rate : Float) : Bool := rate.isFinite && !(rate < 0.0)

/-- Checks the limiters, then the timeout, then the peer, and reports the first that is wrong. -/
def validate (c : ServerConfig) : Except ConfigFault Unit :=
  if !isRefill c.endpointLimiter.rate then .error (.invalidRefill "endpoints" c.endpointLimiter.rate)
  else if !isRefill c.client.limiter.rate then .error (.invalidRefill "remote client" c.client.limiter.rate)
  else if c.operationTimeoutMs = 0 then .error .zeroTimeout
  else if c.service.needsPeer ∧ c.peerUrl.isNone then .error (.missingPeer c.service)
  else .ok ()

end ServerConfig

/-- Where a process listens, and how long it waits. -/
structure NetworkConfig where
  host : String
  port : UInt16
  /-- The time that an answer may take. -/
  requestTimeout : Span
  /-- How long calls in flight are waited for after a shutdown. -/
  drainTimeout : Span
  /-- Where metrics are served, if anywhere. -/
  metricsAddress : Option String

def NetworkConfig.standard : NetworkConfig :=
  ⟨"0.0.0.0", 0, Span.ofSeconds 60, Span.ofSeconds 30, none⟩

end Campus
