import Campus.Desk
import Campus.Health
import Campus.Http.Intent
import Campus.Intake
import Campus.Peer.Exchange

/-! # Nodes

A service behind its routes. A request that asks for an operation is a call: it is numbered, counts as in flight until it is over,
and goes to the desk under a context with the configured time ahead of it. Whoever asks how the node is gets an answer that
touches nothing. Answers repeat the id of their request.
-/
namespace Campus

namespace Desk

/-- A desk for a configuration, with a chain for every method and a link to the sibling where its address is known. Gives the
place of the sibling too. -/
def build (config : ServerConfig) (backend : Backend) (now : Instant) : Except Fault (Desk × Option Peer.Destination) :=
  let d := bare config.service backend config.fanOut
  if !config.service.needsPeer then .ok (d.registerAll config now, none)
  else match config.peerUrl with
    | none => .ok (d.registerAll config now, none)
    | some address =>
      let e := endpointOf config.service
      match Peer.Destination.ofAddress e address with
      | .error f => .error f
      | .ok sibling =>
        let limits := config.client
        let d := d.linkWith (.full limits.limiter.rate limits.limiter.burst now)
          (.fresh e.dependency limits.breaker Fault.isDependencyFailure)
        .ok (d.registerAll config now, some sibling)

end Desk

/-- How requests to a sibling go over a network; without a destination none is ever sent. -/
def Peers.across (network : Peer.Network) : Option Peer.Destination → Peers
  | some d => ⟨Peer.exchange network Peer.courseEndpoint d, Peer.exchange network Peer.rosterEndpoint d⟩
  | none => ⟨fun _ _ _ _ _ => Peer.unsent .cancelled, fun _ _ _ _ _ => Peer.unsent .cancelled⟩

structure Node where
  config : ServerConfig
  desk : Desk
  sibling : Option Peer.Destination
  intake : Intake
  lifecycle : Lifecycle
  /-- The time that an answer may take. -/
  requestTimeout : Span
  /-- When the node began. -/
  since : Instant

namespace Node

def build (config : ServerConfig) (requestTimeout : Span) (now : Instant) : Except Fault Node := do
  let (desk, sibling) ← Desk.build config ⟨.empty, none⟩ now
  return ⟨config, desk, sibling, .fresh, .fresh, requestTimeout, now⟩

def healthReport (n : Node) (now : Instant) : List Char :=
  Json.recordChars [
    ("endpoints", Json.listChars (n.desk.methods.map Json.stringChars)),
    ("in_flight", Json.intChars n.lifecycle.inFlight),
    ("service", Json.stringChars n.config.service.name),
    ("state", Json.stringChars n.lifecycle.health.label),
    ("uptime_secs", Json.intChars ((now - n.since) / 1000000000 : Nat))]

/-- A request whose operation waits for the sibling. -/
structure Open where
  pending : Desk.Pending
  /-- Whether the answer goes without its body. -/
  headOnly : Bool
  /-- When the wait is given up. -/
  limit : Instant

/-- How far a request is. One whose operation broke down is never answered. -/
inductive Progress where
  | answered (answer : Http.Answer)
  | broken
  | waiting (o : Open)

def shape (headOnly : Bool) (a : Http.Answer) : Http.Answer := if headOnly then a.headOnly else a

/-- Takes note of how far the operation of a request is. -/
def settle (headOnly : Bool) (limit : Instant) (r : Desk.Progress × Desk) (n : Node) : Progress × Node :=
  match r with
  | (.ended (.returned result), desk) =>
    (.answered (shape headOnly (.ofResult result)), { n with desk, lifecycle := n.lifecycle.leave })
  | (.ended _, desk) => (.broken, { n with desk, lifecycle := n.lifecycle.leave })
  | (.waiting pending, desk) => (.waiting ⟨pending, headOnly, limit⟩, { n with desk })

def call (network : Peer.Network) (now : Instant) (wall : Moment) (requestId : Option String) (headOnly : Bool) (op : Operation)
    (n : Node) : Progress × Node :=
  let (context, intake) := n.intake.openCall n.config now op.method requestId
  let n := { n with intake, lifecycle := n.lifecycle.enter }
  settle headOnly (now + n.requestTimeout)
    (n.desk.start (.across network n.sibling) none now wall context .fresh op) n

/-- Takes a request. A node that is asked for an operation may have to wait for its sibling. The request has the id that it
came with, or the one that is made up for it. -/
def receive (network : Peer.Network) (now : Instant) (wall : Moment) (madeUp : String) (request : Http.Request) (n : Node) :
    Progress × Node :=
  let headOnly := request.method = "HEAD"
  let reply (a : Http.Answer) := (Progress.answered (shape headOnly a), n)
  match request.understand n.config.service with
  | .error answer => reply answer
  | .ok .health => reply (.json 200 (n.healthReport now))
  | .ok .live => reply (.bare 200)
  | .ok .ready => reply (.bare (if n.lifecycle.health = .ready then 200 else 503))
  | .ok (.operation op) =>
    let id := request.requestId.getD madeUp
    n.call network now wall (if Http.isPlainValue id then some id else none) headOnly op

def proceed (network : Peer.Network) (now : Instant) (wall : Moment) (o : Open) (n : Node) : Progress × Node :=
  settle o.headOnly o.limit (Desk.proceed (.across network n.sibling) now wall o.pending n.desk) n

/-- Gives up a request: the one who sent it is gone, or has waited too long. -/
def giveUp (now : Instant) (o : Open) (n : Node) : Node :=
  { n with desk := Desk.abandon now o.pending n.desk, lifecycle := n.lifecycle.leave }

def sweep (now : Instant) (n : Node) : Node := { n with desk := n.desk.sweep now }

structure Finished where
  answer : Option Http.Answer
  now : Instant
  node : Node

/-- Waits for a request from one due instant to the next. At its limit, and not only behind it, the answer is that it took too
long. -/
def await (network : Peer.Network) (wall : Moment) : Nat → Instant → Progress × Node → Finished
  | _, now, (.answered answer, n) => ⟨some answer, now, n⟩
  | _, now, (.broken, n) => ⟨none, now, n⟩
  | 0, now, (.waiting o, n) => ⟨none, now, n.giveUp now o⟩
  | fuel + 1, now, (.waiting o, n) =>
    let due := o.pending.wait.due?.getD now
    if o.limit ≤ due then ⟨some (shape o.headOnly (.bare 504)), o.limit, n.giveUp o.limit o⟩
    else await network wall fuel due (n.proceed network due wall o)

def Progress.turns : Progress → Nat
  | .waiting o => o.pending.wait.turns + 1
  | _ => 0

/-- Answers a request, and waits for the sibling as long as that takes. -/
def answer (network : Peer.Network) (now : Instant) (wall : Moment) (madeUp : String) (request : Http.Request) (n : Node) :
    Finished :=
  let r := n.receive network now wall madeUp request
  await network wall r.1.turns now r

def answerId (madeUp : String) (request : Http.Request) : String := request.requestId.getD madeUp

end Node

end Campus
