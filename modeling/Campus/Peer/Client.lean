import Campus.FanOut

/-! # Calls to a peer

A service reaches its sibling through one chain: logging, then a rate limit, then a breaker, then the transport. Every part of
the service that calls the sibling shares the bucket and the breaker of that chain.
-/
namespace Campus.Peer

open Pipeline

/-- One kind of request to a sibling service. -/
structure Endpoint where
  /-- The sibling, whose name the breaker has. -/
  dependency : String
  /-- The method under which calls are logged. -/
  method : String
  /-- What is missing when the sibling does not find it. -/
  entity : String
  /-- The template of the path. -/
  path : String
  deriving DecidableEq, Repr

def courseEndpoint : Endpoint := ⟨"courses", "remote.get_course", "course", "/courses/\x7bid\x7d"⟩

def rosterEndpoint : Endpoint := ⟨"students", "remote.get_course_students", "course", "/courses/\x7bid\x7d/students"⟩

/-- What a request comes to: whether it was sent at all, how long it takes and how it ends. -/
structure Attempt (α : Type) where
  sent : Bool
  delay : Span
  ending : Ending α

/-- How requests go: from the instant of a request, the instant at which its caller is cancelled, if any, the context and the id
to what the request comes to. -/
abbrev Transport (α : Type) := Instant → Option Instant → Tokens → Context → String → Attempt α

/-- A chain to a sibling: its kind of request, and the places of its bucket and its breaker in the guard room. -/
structure Link where
  endpoint : Endpoint
  bucket : Nat
  breaker : Nat
  deriving DecidableEq, Repr

/-- The chain of a link, outermost first. A throttled call does not come to the breaker. -/
def Link.chain (l : Link) : List Decorator := [.logging, .rateLimit l.endpoint.method l.bucket, .breaker l.breaker]

/-- A request on its way: the frames of its chain, and how it will end. -/
structure Flight (α : Type) where
  frames : List Frame
  ending : Ending α

variable {α : Type} [Summarize α]

/-- Starts a request. Without an id nothing is sent, nor does the chain hear of it. -/
def start (l : Link) (transport : Transport α) (stop : Option Instant) (ts : Tokens) (now : Instant) (context : Context)
    (id : String) (s : Stage) : FanOut.Start (Flight α) α × Stage :=
  if id = "" then (.ended (.returned (.error (.validation s!"empty identifier for {l.endpoint.method}"))), s)
  else
    let context := context.forMethod l.endpoint.method
    match startCall now ⟨l.endpoint.method, s!"id={id}"⟩ l.chain s with
    | (.error fault, s) => (.ended (.returned (.error fault)), s)
    | (.ok frames, s) =>
      let attempt := transport now stop ts context id
      let s := if attempt.sent then s.write (.asked l.endpoint.method id context.requestId) else s
      if attempt.delay = 0 then (.ended attempt.ending, leave now attempt.ending.verdict frames s)
      else (.running (now + attempt.delay) ⟨frames, attempt.ending⟩, s)

def finish (now : Instant) (f : Flight α) (s : Stage) : Ending α × Stage :=
  (f.ending, leave now f.ending.verdict f.frames s)

/-- Tears down a request that nobody waits for. -/
def abandon (now : Instant) (f : Flight α) (s : Stage) : Stage := leave now .unfinished f.frames s

/-- Makes a request and waits for its end. Gives the instant of the end as well. -/
def call (l : Link) (transport : Transport α) (stop : Option Instant) (ts : Tokens) (now : Instant) (context : Context)
    (id : String) (s : Stage) : Ending α × Instant × Stage :=
  match start l transport stop ts now context id s with
  | (.ended ending, s) => (ending, now, s)
  | (.running due flight, s) =>
    let (ending, s) := finish due flight s
    (ending, due, s)

def worker (l : Link) (transport : Transport α) (stop : Option Instant) (ts : Tokens) : FanOut.Worker Stage (Flight α) α where
  start now context id s := start l transport stop ts now context id s
  finish := finish
  abandon := abandon

end Campus.Peer
