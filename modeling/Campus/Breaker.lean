import Campus.Journal

/-! # Circuit breakers

A breaker stops calls to a dependency that keeps failing. While closed it lets every call pass, and so many counted failures
in a row open it. While open it rejects calls until the cool-down is over; the next call is then let through as a probe, and
the others are rejected until the probe has ended. A probe that succeeds closes the breaker. One that fails, or is dropped,
opens it anew. One that ends with a fault that does not count gives its place back: the breaker is open as it was before.
-/
namespace Campus

inductive Phase where
  | closed
  | opened
  | halfOpen
  deriving DecidableEq, Repr

def Phase.label : Phase → String
  | closed => "closed"
  | opened => "open"
  | halfOpen => "half_open"

/-- When a breaker opens, for how long, and which faults count. -/
structure BreakerSettings where
  /-- Failures in a row that open the breaker; zero acts as one. -/
  threshold : UInt32
  coolDown : Span

structure Breaker where
  name : String
  settings : BreakerSettings
  counts : Fault → Bool
  phase : Phase
  failures : UInt32
  openedAt : Option Instant
  /-- Whether a probe is on its way. -/
  probing : Bool

structure Permit where
  probe : Bool
  deriving DecidableEq, Repr

namespace Breaker

def fresh (name : String) (settings : BreakerSettings) (counts : Fault → Bool) : Breaker :=
  { name
    settings := { settings with threshold := if settings.threshold = 0 then 1 else settings.threshold }
    counts
    phase := .closed
    failures := 0
    openedAt := none
    probing := false }

/-- The next count of failures, which stays at the largest. -/
def oneMore (n : UInt32) : UInt32 := if n.toNat + 1 < UInt32.size then n + 1 else n

def rejection (b : Breaker) : Fault := .circuitOpen b.name

def isCooled (b : Breaker) (now : Instant) : Bool :=
  match b.openedAt with
  | some t => b.settings.coolDown ≤ now - t
  | none => false

def acquire (b : Breaker) (now : Instant) : Option Permit × Breaker × List Notice :=
  match b.phase with
  | .closed => (some ⟨false⟩, b, [])
  | .opened =>
    if b.isCooled now then
      (some ⟨true⟩, { b with phase := .halfOpen, probing := true }, [.probing b.name])
    else (none, b, [.rejected b.name])
  | .halfOpen =>
    if b.probing then (none, b, [.rejected b.name])
    else (some ⟨true⟩, { b with probing := true }, [])

/-- Takes note of how a call ended. What calls let through earlier report counts only while the breaker is closed. -/
def settle (b : Breaker) (now : Instant) (probe failed : Bool) : Breaker × List Notice :=
  if probe then
    if failed then
      ({ b with phase := .opened, failures := oneMore b.failures, openedAt := some now, probing := false },
        [.reopened b.name])
    else
      ({ b with phase := .closed, failures := 0, openedAt := none, probing := false }, [.closed b.name])
  else if b.phase ≠ .closed then (b, [])
  else if failed then
    let failures := oneMore b.failures
    if b.settings.threshold ≤ failures then
      ({ b with phase := .opened, failures, openedAt := some now }, [.opened b.name failures.toNat])
    else ({ b with failures }, [])
  else ({ b with failures := 0 }, [])

/-- Gives the place of a probe back: open again, since the same instant as before. -/
def release (b : Breaker) : Breaker × List Notice :=
  ({ b with phase := if b.phase = .halfOpen then .opened else b.phase, probing := false }, [.probeReleased b.name])

/-- Settles a permit with the fault of its call, or `none` for success. -/
def record (b : Breaker) (now : Instant) (permit : Permit) : Option Fault → Breaker × List Notice
  | none => b.settle now permit.probe false
  | some fault =>
    if b.counts fault then b.settle now permit.probe true
    else if permit.probe then b.release
    else (b, [])

/-- Drops a permit unsettled. A probe that is dropped has failed. -/
def drop (b : Breaker) (now : Instant) (permit : Permit) : Breaker × List Notice :=
  if permit.probe then b.settle now true true else (b, [])

end Breaker

end Campus
