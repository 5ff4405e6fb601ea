import Campus.Http.Message
import Campus.Peer.Address
import Campus.Peer.Client
import Campus.Peer.Journey
import Campus.Wire

/-! # Exchanges with a peer

A request over HTTP and what it comes to. Nothing is sent for a caller that is cancelled or has no time left. Of a request that
was sent the last answer, the deadline and the cancellation race, and the first of them decides; of two at the same instant the
cancellation goes first, then the deadline. An answer is read by its status: a success carries the record that was asked for, and
everything else is a fault of a kind that tells the caller what the peer meant.
-/
namespace Campus.Peer

/-- Where requests of one kind go: the address of the peer and the path for an id. -/
structure Destination where
  base : Url
  path : PathTemplate
  deriving DecidableEq, Repr

namespace Destination

def ofAddress (e : Endpoint) (address : String) : Except Fault Destination := do
  let base ← parseAddress address
  let path ← PathTemplate.parse e.path
  return ⟨base, path⟩

end Destination

/-- What a peer says of a request that failed: the text in its envelope, or else its whole body. -/
def complaint (body : List UInt8) : String :=
  match (Wire.decodeGlyphs (Text.Utf8.places body) : Except Json.Flaw ErrorEnvelope) with
  | .ok envelope => envelope.error
  | .error _ => String.ofList (Text.Utf8.lossy body)

/-- The fault that an answer without success stands for. -/
def refusal (e : Endpoint) (id : String) (status : Nat) (complaint : String) : Fault :=
  if status = 404 then .notFound e.entity id
  else if status = 429 ∨ !Http.isClientError status then
    .remoteUnavailable e.dependency s!"{Http.statusText status}: {complaint}"
  else .validation s!"{e.dependency} rejected {Text.quote id}: {complaint}"

variable {α : Type} [Wire α]

/-- What an answer to a request for an id comes to. What is wrong with a body that cannot be read is left out. -/
def interpret (e : Endpoint) (id : String) (status : Nat) (body : List UInt8) : Except Fault α :=
  if Http.isSuccess status then
    match Wire.decodeGlyphs (Text.Utf8.places body) with
    | .ok a => .ok a
    | .error _ => .error (.remoteUnavailable e.dependency "malformed body")
  else .error (refusal e id status (complaint body))

/-- What a request comes to for its caller, who had so many milliseconds for it. -/
def outcome (e : Endpoint) (id : String) (millis : Nat) : Arrival → Except Fault α
  | .failed true _ => .error (.remoteTimeout e.dependency millis)
  | .failed false reason => .error (.remoteUnavailable e.dependency reason)
  | .answered status body => interpret e id status body

/-- A request that is in flight from `now` to a deadline, and is cancelled at `stop`, if at all. -/
def race (e : Endpoint) (now deadline : Instant) (stop : Option Instant) (result : Option (Instant × Except Fault α)) :
    Attempt α :=
  let limit : Attempt α :=
    ⟨true, deadline - now, .returned (.error (.remoteTimeout e.dependency (Span.toMillis (deadline - now))))⟩
  let last := match result with
    | some (d, result) => if d < deadline then ⟨true, d - now, .returned result⟩ else limit
    | none => limit
  match stop with
  | some c => if c ≤ now + last.delay then ⟨true, c - now, .returned (.error .cancelled)⟩ else last
  | none => last

def unsent (f : Fault) : Attempt α := ⟨false, 0, .returned (.error f)⟩

def longestAddress : Nat := 65534

/-- Whether a request can be made out to an address. Some signs may stand in the name of a host, but not in a request to it. -/
def isSendable (u : Url) : Bool :=
  u.chars.length ≤ longestAddress && !(u.siteChars.any fun c => ['"', '\x60', '\x7b', '\x7d'].contains c)

/-- The request that goes out for an id, or why there is none. -/
def prepare (e : Endpoint) (d : Destination) (ts : Tokens) (now : Instant) (context : Context) (id : String) :
    Except Fault Outgoing :=
  match d.path.resolve d.base id with
  | .error f => .error f
  | .ok url =>
    if ts.isCancelled context.token then .error .cancelled
    else if context.isExpired now then .error (.remoteTimeout e.dependency 0)
    else if !(context.requestId.all Http.isHeaderValue) then .error (.remoteUnavailable e.dependency "builder error")
    else if !isSendable url.withoutCredentials then
      .error (.remoteUnavailable e.dependency s!"builder error for url ({url.withoutCredentials.text})")
    else .ok ⟨url, context.requestId⟩

/-- The transport that sends requests of a kind over a network. -/
def exchange (network : Network) (e : Endpoint) (d : Destination) : Transport α := fun now stop ts context id =>
  match prepare e d ts now context id with
  | .error f => unsent f
  | .ok out =>
    race e now context.deadline stop ((follow network mostRedirects now out).arrival.map fun (t, arrival) =>
      (t, outcome e id (Span.toMillis (context.deadline - now)) arrival))

/-- The requests that go over the network for an exchange. From the deadline or the cancellation on the client is sent nowhere. -/
def requests (network : Network) (e : Endpoint) (d : Destination) (now : Instant) (stop : Option Instant) (ts : Tokens)
    (context : Context) (id : String) : List (Instant × Outgoing) :=
  match prepare e d ts now context id with
  | .error _ => []
  | .ok out =>
    (now, out) :: ((follow network mostRedirects now out).requests.tail.takeWhile fun r =>
      r.1 < context.deadline && stop.all (r.1 < ·))

end Campus.Peer
