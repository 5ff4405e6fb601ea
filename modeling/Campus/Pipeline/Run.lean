import Campus.Pipeline.Chain

/-! # Runs of overlapping calls

Calls of one chain that overlap in time. The operation at the bottom takes a set time and then ends in a set way. A run keeps
the calls in flight; time moves from one due instant to the next, or jumps, and what is due then ends, earliest first.
-/
namespace Campus.Pipeline

/-- How the operation at the bottom behaves for one call. -/
structure Behaviour (α : Type) where
  delay : Span
  ending : Ending α

structure Flight (α : Type) where
  handle : String
  frames : List Frame
  due : Instant
  ending : Ending α

/-- A call that was made, and that nobody has asked yet what it came to: the frames that wait for its end, and the fault that it was
turned away with. -/
structure Unasked where
  handle : String
  call : CallInfo
  frames : List Frame
  refusal : Option Fault
  deriving DecidableEq, Repr

/-- A run of a chain: its guard room, the time, the calls in flight in the order in which they started, and those that
ended. -/
structure Run (α : Type) where
  decorators : List Decorator
  stage : Stage
  now : Instant
  flights : List (Flight α)
  ended : List (String × Ending α)

namespace Run

variable {α : Type} [Summarize α]

def fresh (decorators : List Decorator) (stage : Stage) : Run α := ⟨decorators, stage, 0, [], []⟩

def ending? (r : Run α) (handle : String) : Option (Ending α) := (r.ended.find? fun e => e.1 == handle).map (·.2)

def finish (r : Run α) (f : Flight α) (ending : Ending α) : Run α :=
  { r with
    stage := leave r.now ending.verdict f.frames r.stage
    flights := r.flights.filter fun g => g.handle != f.handle
    ended := (f.handle, ending) :: r.ended }

/-- Lets a call enter. It ends at once when it is turned away or its operation takes no time. -/
def enterCall (r : Run α) (handle : String) (call : CallInfo) (behaviour : Behaviour α) : Run α :=
  match startCall r.now call r.decorators r.stage with
  | (.error fault, stage) => { r with stage, ended := (handle, .returned (.error fault)) :: r.ended }
  | (.ok frames, stage) =>
    let f : Flight α := ⟨handle, frames, r.now + behaviour.delay, behaviour.ending⟩
    let r := { r with stage := stage.write .invoked, flights := r.flights ++ [f] }
    if behaviour.delay = 0 then r.finish f behaviour.ending else r

/-- Takes a call through the chain, and on to its operation if no decorator turns it away. The operation does nothing until the
call is asked for. -/
def make (r : Run α) (handle : String) (call : CallInfo) : Unasked × Run α :=
  let ((frames, refusal), stage) := enter r.now call r.decorators [] r.stage
  (⟨handle, call, frames, refusal⟩, { r with stage := if refusal.isNone then stage.write .invoked else stage })

/-- Asks for a call that was made. It ends at once when it was turned away or its operation takes no time. -/
def ask (r : Run α) (u : Unasked) (behaviour : Behaviour α) : Run α :=
  match u.refusal with
  | some fault =>
    { r with
      stage := leave r.now (.failed fault) u.frames r.stage
      ended := (u.handle, .returned (.error fault)) :: r.ended }
  | none =>
    let f : Flight α := ⟨u.handle, u.frames, r.now + behaviour.delay, behaviour.ending⟩
    let r := { r with flights := r.flights ++ [f] }
    if behaviour.delay = 0 then r.finish f behaviour.ending else r

def discard (r : Run α) (u : Unasked) : Run α :=
  { r with
    stage := leave r.now .unfinished u.frames r.stage
    ended := (u.handle, .dropped) :: r.ended }

/-- The flights that are due, earliest first; those due together keep the order in which they started. -/
def dueFlights (r : Run α) : List (Flight α) :=
  (r.flights.filter fun f => f.due ≤ r.now).mergeSort fun f g => f.due ≤ g.due

def settle (r : Run α) : Run α := r.dueFlights.foldl (fun r f => r.finish f f.ending) r

/-- Starts a call in the background, behind the flights that are due. -/
def start (r : Run α) (handle : String) (call : CallInfo) (behaviour : Behaviour α) : Run α :=
  r.settle.enterCall handle call behaviour

/-- Drops a call that is in flight. It takes its turn among the flights that are due, or comes behind them. -/
def abort (r : Run α) (handle : String) : Run α :=
  match r.flights.find? fun f => f.handle == handle with
  | none => r
  | some f =>
    let dropped := { f with due := min f.due r.now, ending := .dropped }
    let turn := if f.due ≤ r.now then r.flights.map fun g => if g.handle == handle then dropped else g
      else (r.flights.filter fun g => g.handle != handle) ++ [dropped]
    { r with flights := turn }.settle

def jump (r : Run α) (t : Instant) : Run α := { r with now := max r.now t }.settle

def nextDue? (r : Run α) : Option Instant := (r.flights.map Flight.due).min?

/-- Lets the time pass from one due instant to the next, as long as they lie before `limit`. Flights that are due already
end first, now. -/
def passTo (r : Run α) (limit : Instant) : Nat → Run α
  | 0 => r
  | fuel + 1 =>
    match r.nextDue? with
    | none => r
    | some t => if t < limit then (r.jump t).passTo limit fuel else r

def join (r : Run α) (handle : String) : Run α :=
  match r.flights.find? fun f => f.handle == handle with
  | some f => (r.passTo f.due r.flights.length).jump f.due
  | none => r

/-- Makes a call and waits for it, for at most a given span; then it is dropped. When the wait is over the call's own end comes
first: other flights that are due at that instant end when time passes next. -/
def call (r : Run α) (handle : String) (info : CallInfo) (behaviour : Behaviour α) (within : Option Span) : Run α :=
  let r := r.enterCall handle info behaviour
  match r.flights.find? fun f => f.handle == handle with
  | none => r
  | some f =>
    let limit := within.map (r.now + ·)
    let inTime := limit.all (f.due ≤ ·)
    let stop := if inTime then f.due else limit.getD f.due
    let r := r.passTo stop r.flights.length
    let r := { r with now := max r.now stop }
    r.finish f (if inTime then f.ending else .dropped)

end Run

end Campus.Pipeline
