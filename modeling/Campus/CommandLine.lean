import Campus.Config
import Campus.SocketAddress

/-! # The command line

The options of the program. Each takes a value, may be given once, and has a variable of the environment that stands in for it.
Arguments are taken one by one, and the first that asks for help, or is wrong, decides.
-/
namespace Campus

inductive LogFormat where
  | pretty
  | json
  deriving DecidableEq, Repr

structure Settings where
  config : ServerConfig
  network : NetworkConfig
  /-- Where metrics are served, if anywhere. -/
  metrics : Option SocketAddress
  logFormat : LogFormat

inductive Stop where
  | help
  | version
  /-- The arguments or the environment are wrong, in the way the text says. -/
  | usage (text : String)
  deriving DecidableEq, Repr

namespace CommandLine

/-! ## Values -/

def ranged? (limit : Nat) (s : String) : Option Nat :=
  match s.toList with
  | '-' :: ds => if ds ≠ [] ∧ ds.all Char.isDigit ∧ Text.digitsValue ds = 0 then some 0 else none
  | '+' :: ds => read ds
  | ds => read ds
where
  read (ds : List Char) : Option Nat :=
    if ds ≠ [] ∧ ds.all Char.isDigit ∧ Text.digitsValue ds < limit then some (Text.digitsValue ds) else none

/-- A whole number of 64 bits; it may have a plus sign. -/
def word? (s : String) : Option Nat := if s.toList.head? = some '-' then none else ranged? UInt64.size s

def logFormat? : String → Option LogFormat
  | "pretty" => some .pretty
  | "json" => some .json
  | _ => none

/-- An option: its name, the variable that stands in for it, what it is for, and whether it takes a value. -/
structure Choice where
  name : String
  envName : String
  about : String
  fits : String → Bool

def choices : List Choice := [
  ⟨"service", "LMS_SERVICE", "Which service to run: students, courses or accounts", fun s => (ServiceKind.ofName? s).isSome⟩,
  ⟨"host", "LMS_HOST", "Where to listen [default: 0.0.0.0]", fun _ => true⟩,
  ⟨"port", "LMS_PORT", "The port to listen on [default: 8080]", fun s => (ranged? UInt16.size s).isSome⟩,
  ⟨"peer-url", "LMS_PEER_URL", "Address of the sibling service", fun _ => true⟩,
  ⟨"metrics-addr", "LMS_METRICS_ADDR", "Where metrics are served, such as 0.0.0.0:9090",
    fun s => (SocketAddress.parse? s).isSome⟩,
  ⟨"operation-timeout-ms", "LMS_OPERATION_TIMEOUT_MS", "The time of an operation [default: 30000]", fun s => (word? s).isSome⟩,
  ⟨"endpoint-rps", "LMS_ENDPOINT_RPS", "Calls of an endpoint per second [default: 1]", fun s => (Decimal.parse? s).isSome⟩,
  ⟨"endpoint-burst", "LMS_ENDPOINT_BURST", "Calls of an endpoint at once [default: 1]", fun s => (ranged? UInt32.size s).isSome⟩,
  ⟨"remote-rps", "LMS_REMOTE_RPS", "Requests to the sibling per second [default: 1]", fun s => (Decimal.parse? s).isSome⟩,
  ⟨"remote-burst", "LMS_REMOTE_BURST", "Requests to the sibling at once [default: 100]", fun s => (ranged? UInt32.size s).isSome⟩,
  ⟨"breaker-threshold", "LMS_BREAKER_THRESHOLD", "Consecutive failures that open a breaker [default: 5]",
    fun s => (ranged? UInt32.size s).isSome⟩,
  ⟨"breaker-cool-down-secs", "LMS_BREAKER_COOL_DOWN_SECS", "How long a breaker stays open [default: 60]",
    fun s => (word? s).isSome⟩,
  ⟨"fan-out-concurrency", "LMS_FAN_OUT_CONCURRENCY", "Related records resolved at once; 0 is unbounded [default: 16]",
    fun s => (word? s).isSome⟩,
  ⟨"log-format", "LMS_LOG_FORMAT", "How log lines are written: pretty or json [default: pretty]",
    fun s => (logFormat? s).isSome⟩]

/-! ## Arguments -/

abbrev Values := List (String × String)

def accept (found : Values) (name value : String) : Except Stop Values :=
  match choices.find? fun c => c.name = name with
  | none => .error (.usage s!"unexpected argument '--{name}' found")
  | some c =>
    if (found.lookup name).isSome then .error (.usage s!"the argument '--{name}' cannot be used multiple times")
    else if c.fits value then .ok (found ++ [(name, value)])
    else .error (.usage s!"invalid value '{value}' for '--{name}'")

inductive Argument where
  /-- An option, with the value that is attached to it. -/
  | long (name : String) (value : Option String)
  /-- Letters behind one dash. -/
  | short (letters : List Char)
  /-- Two dashes alone. -/
  | divider
  | plain

def Argument.of (arg : String) : Argument :=
  match arg.toList with
  | ['-', '-'] => divider
  | '-' :: '-' :: cs =>
    let (name, rest) := cs.span (· ≠ '=')
    long (String.ofList name) (rest.tail?.map String.ofList)
  | '-' :: c :: cs => short (c :: cs)
  | _ => plain

def scan (found : Values) : List String → Except Stop Values
  | [] => .ok found
  | arg :: rest =>
    match Argument.of arg with
    | .plain => .error (.usage s!"unexpected argument '{arg}' found")
    | .divider => if rest = [] then .ok found else .error (.usage "unexpected arguments found")
    | .short ('h' :: _) => .error .help
    | .short ('V' :: _) => .error .version
    | .short _ => .error (.usage s!"unexpected argument '{arg}' found")
    | .long "help" none => .error .help
    | .long "version" none => .error .version
    | .long name (some value) => do scan (← accept found name value) rest
    | .long name none =>
      if (choices.find? fun c => c.name = name).isNone then .error (.usage s!"unexpected argument '--{name}' found")
      else match rest with
        | [] => .error (.usage s!"a value is required for '--{name}' but none was supplied")
        | value :: rest =>
          match Argument.of value with
          | .plain => do scan (← accept found name value) rest
          | _ => .error (.usage s!"a value is required for '--{name}' but none was supplied")

/-- Adds the values that stand in the environment for options that were not given. -/
def complete (environment : String → Option String) (found : Values) : Except Stop Values :=
  choices.foldlM (fun found c =>
    if (found.lookup c.name).isSome then .ok found
    else match environment c.envName with
      | some value => accept found c.name value
      | none => .ok found) found

def settings (values : Values) : Except Stop Settings :=
  match (values.lookup "service").bind ServiceKind.ofName? with
  | none => .error (.usage "the following required arguments were not provided: --service <SERVICE>")
  | some service =>
    let number (read : String → Option Nat) (name : String) (default : Nat) : Nat :=
      ((values.lookup name).bind read).getD default
    let narrow (name : String) (default : UInt32) : UInt32 :=
      UInt32.ofNat (number (ranged? UInt32.size) name default.toNat)
    let rate (name : String) (default : Float) : Float := ((values.lookup name).bind Decimal.parse?).getD default
    let d := ServerConfig.standard
    let breaker : BreakerSettings :=
      { threshold := narrow "breaker-threshold" BreakerSettings.standard.threshold
        coolDown := ((values.lookup "breaker-cool-down-secs").bind word?).elim BreakerSettings.standard.coolDown Span.ofSeconds }
    .ok {
      config := {
        service
        operationTimeoutMs := UInt64.ofNat (number word? "operation-timeout-ms" d.operationTimeoutMs.toNat)
        endpointLimiter := ⟨rate "endpoint-rps" d.endpointLimiter.rate, narrow "endpoint-burst" d.endpointLimiter.burst⟩
        endpointBreaker := breaker
        client := { d.client with
          limiter := ⟨rate "remote-rps" d.client.limiter.rate, narrow "remote-burst" d.client.limiter.burst⟩
          breaker }
        fanOut := number word? "fan-out-concurrency" d.fanOut
        peerUrl := values.lookup "peer-url" }
      network := { NetworkConfig.standard with
        host := (values.lookup "host").getD NetworkConfig.standard.host
        port := UInt16.ofNat (number (ranged? UInt16.size) "port" 8080)
        metricsAddress := values.lookup "metrics-addr" }
      metrics := (values.lookup "metrics-addr").bind SocketAddress.parse?
      logFormat := ((values.lookup "log-format").bind logFormat?).getD .pretty }

def read (environment : String → Option String) (arguments : List String) : Except Stop Settings := do
  settings (← complete environment (← scan [] arguments))

end CommandLine

end Campus
