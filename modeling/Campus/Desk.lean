import Campus.Peer.Client
import Campus.Service

/-! # The desk

A service at work: its records, one chain for each method it answers, and the link to its peer, with all limiters and breakers
in one guard room. A call is dispatched to the chain of its method, and may have to wait for the peer. Time passes from one
due instant to the next. Units of a fan-out that is over leave their frames some time after the call has ended, when the desk is
swept.
-/
namespace Campus

open Pipeline

/-- How the sibling services answer. -/
structure Peers where
  course : Peer.Transport Course
  roster : Peer.Transport (List Student)

structure Desk where
  kind : ServiceKind
  backend : Backend
  /-- The chains by method. -/
  endpoints : List (String × List Decorator)
  link : Option Peer.Link
  /-- How many related records are resolved at once; zero for any number. -/
  fanOut : Nat
  stage : Stage

namespace Desk

/-- The request that a service of a kind sends to its sibling. -/
def endpointOf : ServiceKind → Peer.Endpoint
  | .courses => Peer.rosterEndpoint
  | _ => Peer.courseEndpoint

/-- A service without chains and without a link. -/
def bare (kind : ServiceKind) (backend : Backend) (fanOut : Nat) : Desk := ⟨kind, backend, [], none, fanOut, .empty⟩

def linkWith (d : Desk) (bucket : Bucket Float) (breaker : Breaker) : Desk :=
  { d with
    link := some ⟨endpointOf d.kind, d.stage.buckets.length, d.stage.breakers.length⟩
    stage := d.stage.add bucket breaker }

def register (d : Desk) (method : String) (limiter : LimiterSettings) (breaker : BreakerSettings) (now : Instant) : Desk :=
  { d with
    endpoints := (d.endpoints.filter fun e => e.1 ≠ method) ++
      [(method, endpointChain method d.stage.buckets.length d.stage.breakers.length)]
    stage := d.stage.addEndpoint method limiter breaker now }

def registerAll (d : Desk) (config : ServerConfig) (now : Instant) : Desk :=
  (Service.methods d.kind).foldl (fun d m => d.register m config.endpointLimiter config.endpointBreaker now) d

def methods (d : Desk) : List String := (d.endpoints.map (·.1)).mergeSort fun a b => a ≤ b

inductive Wait where
  | confirming (student course : Int64) (due : Instant) (flight : Peer.Flight Course)
  | roster (due : Instant) (flight : Peer.Flight (List Student))
  | gathering (link : Peer.Link) (job : FanOut.Job (Peer.Flight Course) Course)

/-- How far an operation is: over, with units of a fan-out that are left to be torn down, or waiting. -/
inductive Turn where
  | over (ending : Ending Response) (left : List (FanOut.Running (Peer.Flight Course)))
  | waiting (wait : Wait)

/-- A call that waits: the frames of its chain, its context and tokens, the instant at which it is cancelled, if any, and what
it waits for. -/
structure Pending where
  frames : List Frame
  context : Context
  tokens : Tokens
  stop : Option Instant
  wait : Wait

def Wait.due? : Wait → Option Instant
  | .confirming _ _ due _ => some due
  | .roster due _ => some due
  | .gathering _ job => job.nextDue?

/-- How many times a waiting operation can go on at most. -/
def Wait.turns : Wait → Nat
  | .gathering _ job => job.slots.length
  | _ => 1

def failed {α : Type} : Ending α → Ending Response
  | .returned (.error f) => .returned (.error f)
  | .returned (.ok _) | .dropped => .dropped
  | .panicked text => .panicked text

def confirmed (d : Desk) (student course : Int64) (wall : Moment) : Ending Course → Ending Response × Desk
  | .returned (.ok _) =>
    let (result, backend) := Service.enroll student course wall d.backend
    (.returned result, { d with backend })
  | e => (failed e, d)

def rosterReply : Ending (List Student) → Ending Response
  | .returned (.ok list) => .returned (.ok (.students list))
  | e => failed e

def gather (peers : Peers) (stop : Option Instant) (now : Instant) (link : Peer.Link)
    (job : FanOut.Job (Peer.Flight Course) Course) (ts : Tokens) (d : Desk) : Turn × Tokens × Desk :=
  match FanOut.Job.step (Peer.worker link peers.course stop ts) now job ts d.stage with
  | (.over result notices left, ts, stage) =>
    (.over (.returned (result.map .courses)) left, ts, { d with stage := stage.note notices })
  | (.going job, ts, stage) => (.waiting (.gathering link job), ts, { d with stage })

/-- Does an operation as far as it goes at once. -/
def perform (peers : Peers) (stop : Option Instant) (now : Instant) (wall : Moment) (context : Context) (op : Operation)
    (ts : Tokens) (d : Desk) : Turn × Tokens × Desk :=
  let (step, backend) := Service.handle d.kind d.link.isSome wall context.method op d.backend
  let d := { d with backend }
  match step, d.link with
  | .reply result, _ => (.over (.returned result) [], ts, d)
  | _, none => (.over .dropped [], ts, d)
  | .confirmCourse student course, some link =>
    match Peer.start link peers.course stop ts now context (toString course.toInt) d.stage with
    | (.ended ending, stage) =>
      let (ending, d) := confirmed { d with stage } student course wall ending
      (.over ending [], ts, d)
    | (.running due flight, stage) => (.waiting (.confirming student course due flight), ts, { d with stage })
  | .askRoster course, some link =>
    match Peer.start link peers.roster stop ts now context (toString course.toInt) d.stage with
    | (.ended ending, stage) => (.over (rosterReply ending) [], ts, { d with stage })
    | (.running due flight, stage) => (.waiting (.roster due flight), ts, { d with stage })
  | .askCourses seed courses, some link =>
    if courses = [] then (.over (.returned (.ok (.courses []))) [], ts, d)
    else if FanOut.maxPermits < d.fanOut then (.over (.panicked (some FanOut.tooManyPermits)) [], ts, d)
    else
      let (job, ts) := FanOut.Job.create context seed (courses.map fun c => toString c.toInt) d.fanOut ts
      if ts.isCancelled context.token then (.over (.returned (.error .cancelled)) [], ts.cancel job.context.token, d)
      else gather peers stop now link job ts d

def resume (peers : Peers) (stop : Option Instant) (now : Instant) (wall : Moment) (wait : Wait) (ts : Tokens) (d : Desk) :
    Turn × Tokens × Desk :=
  match wait with
  | .confirming student course _ flight =>
    let (ending, stage) := Peer.finish now flight d.stage
    let (ending, d) := confirmed { d with stage } student course wall ending
    (.over ending [], ts, d)
  | .roster _ flight =>
    let (ending, stage) := Peer.finish now flight d.stage
    (.over (rosterReply ending) [], ts, { d with stage })
  | .gathering link job => gather peers stop now link job ts d

/-- Tears down what is left of a fan-out. The frames of its units are left when the desk is swept. -/
def tearDown (left : List (FanOut.Running (Peer.Flight Course))) (d : Desk) : Desk :=
  { d with stage := left.foldl (fun s u => s.tearDown u.fetch.frames) d.stage }

def sweep (now : Instant) (d : Desk) : Desk := { d with stage := d.stage.sweep now }

/-- Ends a call: its frames are left, and the rest of its fan-out is torn down. -/
def close (now : Instant) (frames : List Frame) (ending : Ending Response)
    (left : List (FanOut.Running (Peer.Flight Course))) (d : Desk) : Desk :=
  tearDown left { d with stage := leave now ending.verdict frames d.stage }

inductive Progress where
  | ended (ending : Ending Response)
  | waiting (pending : Pending)

/-- Takes note of how far the operation of a call is. -/
def settle (now : Instant) (frames : List Frame) (context : Context) (stop : Option Instant) :
    Turn × Tokens × Desk → Progress × Desk
  | (.over ending left, _, d) => (.ended ending, close now frames ending left d)
  | (.waiting wait, tokens, d) => (.waiting ⟨frames, context, tokens, stop, wait⟩, d)

/-- Starts a call of the service itself, past all chains. -/
def startDirect (peers : Peers) (stop : Option Instant) (now : Instant) (wall : Moment) (context : Context) (ts : Tokens)
    (op : Operation) (d : Desk) : Progress × Desk :=
  settle now [] context stop (perform peers stop now wall context op ts d)

/-- Dispatches a call to the chain of its method. -/
def start (peers : Peers) (stop : Option Instant) (now : Instant) (wall : Moment) (context : Context) (ts : Tokens)
    (op : Operation) (d : Desk) : Progress × Desk :=
  match d.endpoints.find? fun e => e.1 = context.method with
  | none => (.ended (.returned (.error (.unknownMethod context.method))), d)
  | some (_, chain) =>
    match startCall now ⟨context.method, op.fields⟩ chain d.stage with
    | (.error fault, stage) => (.ended (.returned (.error fault)), { d with stage })
    | (.ok frames, stage) =>
      settle now frames context stop (perform peers stop now wall context op ts { d with stage := stage.write .invoked })

def proceed (peers : Peers) (now : Instant) (wall : Moment) (p : Pending) (d : Desk) : Progress × Desk :=
  settle now p.frames p.context p.stop (resume peers p.stop now wall p.wait p.tokens d)

/-- Gives a waiting call up. A request on its way is torn down before the frames of the call are left; the units of a fan-out
follow when the desk is swept, in the order of their start. -/
def abandon (now : Instant) (p : Pending) (d : Desk) : Desk :=
  match p.wait with
  | .confirming _ _ _ flight => close now p.frames .dropped [] { d with stage := Peer.abandon now flight d.stage }
  | .roster _ flight => close now p.frames .dropped [] { d with stage := Peer.abandon now flight d.stage }
  | .gathering _ job => close now p.frames .dropped job.running d

/-- Cancels the token of a waiting call. A fan-out ends with that, its latest units first; a single request goes on as its
transport has it. -/
def cancel (now : Instant) (p : Pending) (d : Desk) : Progress × Desk :=
  let tokens := p.tokens.cancel p.context.token
  match p.wait with
  | .gathering _ job =>
    (.ended (.returned (.error .cancelled)), close now p.frames (.returned (.error .cancelled)) job.running.reverse d)
  | _ => (.waiting { p with tokens, stop := none }, d)

structure Finished where
  ending : Ending Response
  now : Instant
  desk : Desk

/-- Waits for a call, from one due instant to the next, for at most so long; then it is given up. -/
def await (peers : Peers) (wall : Moment) (limit : Option Instant) : Nat → Instant → Progress × Desk → Finished
  | _, now, (.ended ending, d) => ⟨ending, now, d⟩
  | 0, now, (.waiting p, d) => ⟨.dropped, now, abandon now p d⟩
  | fuel + 1, now, (.waiting p, d) =>
    let due := p.wait.due?.getD now
    let next := match p.stop with
      | some c => if c ≤ due then c else due
      | none => due
    match limit with
    | some l =>
      if l < next then ⟨.dropped, l, abandon l p d⟩
      else await peers wall limit fuel next (go next p d)
    | none => await peers wall limit fuel next (go next p d)
where
  /-- What happens at the next instant: the call is cancelled, or its wait is over. -/
  go (next : Instant) (p : Pending) (d : Desk) : Progress × Desk :=
    if p.stop = some next then cancel next p d else proceed peers next wall p d

def Progress.turns : Progress → Nat
  | .ended _ => 0
  | .waiting p => p.wait.turns + 1

def finish (peers : Peers) (wall : Moment) (limit : Option Instant) (now : Instant) (r : Progress × Desk) : Finished :=
  await peers wall limit r.1.turns now r

end Desk

end Campus
