import Campus.Cancellation
import Campus.Pipeline.Chain

/-! # Fan-out

One job that fetches every related id of a seed, at most so many at once, and gathers what they give in the order of the ids.
Units wait in that order for a permit; a unit that ends passes its permit on. At each instant all units that can run do so, and
only then are their tasks joined, in the order in which they ended. The first that failed fails the job; nothing of the others
is kept.
-/
namespace Campus.FanOut

/-- A fetch that was started: it ended at once, or goes on until it is due. -/
inductive Start (ρ ε : Type) where
  | ended (ending : Ending ε)
  | running (due : Instant) (fetch : ρ)

/-- How units fetch. Fetches share a state. -/
structure Worker (σ ρ ε : Type) where
  /-- Starts to fetch an id under a context of its own. -/
  start : Instant → Context → String → σ → Start ρ ε × σ
  /-- Ends a fetch that is due. -/
  finish : Instant → ρ → σ → Ending ε × σ
  /-- Tears down a fetch that is not waited for any longer. -/
  abandon : Instant → ρ → σ → σ

structure Waiting where
  index : Nat
  id : String
  context : Context
  deriving DecidableEq, Repr

structure Running (ρ : Type) where
  index : Nat
  id : String
  due : Instant
  fetch : ρ

structure Outcome (ε : Type) where
  index : Nat
  id : String
  result : Except Fault ε

/-- What joining a task gives: what became of its unit, or how the task itself failed. A fetch that breaks down is caught in its
unit, so no task fails unless its runtime is shut down. -/
abbrev Joined (ε : Type) := Except String (Outcome ε)

/-- A job on its way: the permits that are free (`none` when there is no bound), the units that wait and those that run, each
in the order of their start, what was gathered so far, by position, and how many units have given nothing yet. -/
structure Job (ρ ε : Type) where
  seed : String
  context : Context
  free : Option Nat
  waiting : List Waiting
  running : List (Running ρ)
  slots : List (Option ε)
  remaining : Nat

def maxPermits : Nat := 2305843009213693951

def tooManyPermits : String := s!"a semaphore may not have more than MAX_PERMITS permits ({maxPermits})"

/-- The result of a fetch. One that broke down failed with its text. -/
def resultOf {ε : Type} : Ending ε → Except Fault ε
  | .returned r => r
  | .panicked text => .error (.internal ("fetch panicked: " ++ text.getD "non-string panic payload"))
  | .dropped => .error .cancelled

def units (job : Context) : Nat → List String → Tokens → List Waiting × Tokens
  | _, [], ts => ([], ts)
  | i, id :: ids, ts =>
    let (ts, context) := job.child ts
    let (rest, ts) := units job (i + 1) ids ts
    (⟨i, id, context⟩ :: rest, ts)

namespace Job

variable {σ ρ ε : Type}

/-- A job for some ids, none of which has been started. Its own token lies below the caller's, and those of its units below
its own. A bound of zero is no bound. -/
def create (context : Context) (seed : String) (ids : List String) (bound : Nat) (ts : Tokens) : Job ρ ε × Tokens :=
  let (ts, own) := context.child ts
  let (waiting, ts) := units own 0 ids ts
  ({ seed
     context := own
     free := if bound = 0 then none else some bound
     waiting
     running := []
     slots := ids.map fun _ => none
     remaining := ids.length }, ts)

/-- Ends the running units that are due, in the order of their start. -/
def finishDue (w : Worker σ ρ ε) (now : Instant) : List (Running ρ) → σ → (List (Outcome ε) × List (Running ρ)) × σ
  | [], s => (([], []), s)
  | u :: rest, s =>
    if u.due ≤ now then
      let (ending, s) := w.finish now u.fetch s
      let ((outcomes, running), s) := finishDue w now rest s
      ((⟨u.index, u.id, resultOf ending⟩ :: outcomes, running), s)
    else
      let ((outcomes, running), s) := finishDue w now rest s
      ((outcomes, u :: running), s)

structure Started (ρ ε : Type) where
  outcomes : List (Outcome ε)
  running : List (Running ρ)
  waiting : List Waiting
  free : Option Nat

/-- Starts units as long as a permit is free. A unit that ends at once leaves its permit to the next. -/
def startWaiting (w : Worker σ ρ ε) (now : Instant) : List Waiting → Option Nat → σ → Started ρ ε × σ
  | [], free, s => (⟨[], [], [], free⟩, s)
  | u :: rest, free, s =>
    if free = some 0 then (⟨[], [], u :: rest, free⟩, s)
    else match w.start now u.context u.id s with
      | (.ended ending, s) =>
        let (r, s) := startWaiting w now rest free s
        ({ r with outcomes := ⟨u.index, u.id, resultOf ending⟩ :: r.outcomes }, s)
      | (.running due fetch, s) =>
        let (r, s) := startWaiting w now rest (free.map (· - 1)) s
        ({ r with running := ⟨u.index, u.id, due, fetch⟩ :: r.running }, s)

/-- Lets every unit run that can run now: those that are due end, then those that wait start. -/
def runUnits (w : Worker σ ρ ε) (now : Instant) (job : Job ρ ε) (s : σ) : (List (Outcome ε) × Job ρ ε) × σ :=
  let ((ended, running), s) := finishDue w now job.running s
  let (r, s) := startWaiting w now job.waiting (job.free.map (· + ended.length)) s
  ((ended ++ r.outcomes, { job with free := r.free, waiting := r.waiting, running := running ++ r.running }), s)

/-- What ends a job before all its units have given their entities: one that failed, or a task that did. -/
inductive Stopper where
  | unit (id : String) (fault : Fault)
  | task (reason : String)

/-- Joins tasks as long as units remain: puts what these gave into their places, up to the first that failed. -/
def gather : List (Joined ε) → Nat → List (Option ε) → Except Stopper (Nat × List (Option ε))
  | [], remaining, slots => .ok (remaining, slots)
  | _ :: _, 0, slots => .ok (0, slots)
  | .ok ⟨i, _, .ok e⟩ :: rest, remaining + 1, slots => gather rest remaining (slots.set i (some e))
  | .ok ⟨_, id, .error f⟩ :: _, _ + 1, _ => .error (.unit id f)
  | .error reason :: _, _ + 1, _ => .error (.task reason)

def emptySlot : Fault := .internal "fan-out slot left empty"

def failedTask (reason : String) : Fault := .internal s!"fan-out task failed: {reason}"

/-- The entities of all places, if none was left empty. -/
def collect : List (Option ε) → Except Fault (List ε)
  | [] => .ok []
  | none :: _ => .error emptySlot
  | some e :: rest => (collect rest).map (e :: ·)

def isIdle (job : Job ρ ε) : Bool := job.running.isEmpty && job.waiting.isEmpty

/-- How far a job is after the units have run: it goes on, or it is over. -/
inductive Progress (ρ ε : Type) where
  | going (job : Job ρ ε)
  | over (result : Except Fault (List ε)) (notices : List Notice) (left : List (Running ρ))

/-- Lets the units run and joins those that have ended. When one failed the job's token is cancelled. The units that are left by a
job that is over have to be torn down; that comes to the latest of them first. -/
def step (w : Worker σ ρ ε) (now : Instant) (job : Job ρ ε) (ts : Tokens) (s : σ) : Progress ρ ε × Tokens × σ :=
  let ((outcomes, job), s) := runUnits w now job s
  let left := job.running.reverse
  match gather (outcomes.map .ok) job.remaining job.slots with
  | .error (.unit id fault) =>
    (.over (.error (.aggregate job.seed id fault)) [.fanOutFailed job.seed id fault.message] left,
      ts.cancel job.context.token, s)
  | .error (.task reason) => (.over (.error (failedTask reason)) [] left, ts.cancel job.context.token, s)
  | .ok (remaining, slots) =>
    if remaining = 0 || job.isIdle then (.over (collect slots) [.fanOutComplete job.seed slots.length] left, ts, s)
    else (.going { job with remaining, slots }, ts, s)

def nextDue? (job : Job ρ ε) : Option Instant := (job.running.map Running.due).min?

def tearDown (w : Worker σ ρ ε) (now : Instant) (left : List (Running ρ)) (s : σ) : σ :=
  left.foldl (fun s u => w.abandon now u.fetch s) s

end Job

structure Report (σ ε : Type) where
  /-- What the caller gets: the entities in the order of the ids, or the fault. -/
  ending : Ending (List ε)
  now : Instant
  tokens : Tokens
  notices : List Notice
  state : σ

namespace Job

variable {σ ρ ε : Type}

def giveUp (w : Worker σ ρ ε) (now : Instant) (job : Job ρ ε) (ts : Tokens) (s : σ) : Report σ ε :=
  ⟨.returned (.error .cancelled), now, ts.cancel job.context.token, [], tearDown w now job.running.reverse s⟩

/-- Ends a job that is not waited for any longer. -/
def drop (w : Worker σ ρ ε) (now : Instant) (job : Job ρ ε) (ts : Tokens) (s : σ) : Report σ ε :=
  ⟨.dropped, now, ts, [], tearDown w now job.running.reverse s⟩

/-- Takes a job from one due instant to the next until it is over, at most so many times. The caller is cancelled at `stop`, if at
all, and that is noticed before any outcome. A job with no unit that is ever due would be waited for in vain. -/
def drive (w : Worker σ ρ ε) (caller : Context) (stop : Option Instant) :
    Nat → Instant → Job ρ ε → Tokens → σ → Report σ ε
  | 0, now, job, ts, s => drop w now job ts s
  | fuel + 1, now, job, ts, s =>
    if ts.isCancelled caller.token then giveUp w now job ts s
    else match step w now job ts s with
      | (.over result notices left, ts, s) => ⟨.returned result, now, ts, notices, tearDown w now left s⟩
      | (.going job, ts, s) =>
        match job.nextDue? with
        | none => drop w now job ts s
        | some due =>
          match stop with
          | some c =>
            if c ≤ due then drive w caller none fuel c job (ts.cancel caller.token) s
            else drive w caller stop fuel due job ts s
          | none => drive w caller none fuel due job ts s

end Job

/-- Fetches every related id of a seed, at most `bound` at once, from `now` on. Without ids there is nothing to do. -/
def resolve {σ ρ ε : Type} (w : Worker σ ρ ε) (caller : Context) (seed : String) (ids : List String) (bound : Nat)
    (stop : Option Instant) (now : Instant) (ts : Tokens) (s : σ) : Report σ ε :=
  if ids = [] then ⟨.returned (.ok []), now, ts, [], s⟩
  else if maxPermits < bound then ⟨.panicked (some tooManyPermits), now, ts, [], s⟩
  else
    let (job, ts) := Job.create caller seed ids bound ts
    Job.drive w caller stop (ids.length + 2) now job ts s

end Campus.FanOut
