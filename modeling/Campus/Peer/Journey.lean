import Campus.Http.Status
import Campus.Clock
import Campus.Url

/-! # Requests and where they lead

A request goes to one address after the other: an answer may send the client on to another, which it asks at once and under the
same id, up to ten times. The journey of a request ends with the first answer that leads nowhere, or with the first thing that
goes wrong.
-/
namespace Campus.Peer

structure Outgoing where
  url : Url
  requestId : Option String
  deriving DecidableEq, Repr

/-- What happens to a request on its way and at the other end. -/
inductive Reaction where
  /-- The client gives up after some time, because no connection was made in the time it allows, or for another reason. -/
  | failed (after : Span) (timedOut : Bool) (reason : String)
  /-- An answer is complete after some time. `location` is the address that its headers lead to, if there is one. -/
  | answered (after : Span) (status : Nat) (location : Option Url) (body : List UInt8)
  /-- No answer ever comes. -/
  | silent
  deriving DecidableEq, Repr

/-- How the world reacts to a request that goes out at an instant. -/
abbrev Network := Instant → Outgoing → Reaction

def Network.deserted : Network := fun _ out =>
  .failed 0 false s!"error sending request for url ({out.url.withoutCredentials.text})"

inductive Arrival where
  | failed (timedOut : Bool) (reason : String)
  | answered (status : Nat) (body : List UInt8)
  deriving DecidableEq, Repr

/-- All requests that one request leads to, each with its instant, and when the last is over, and with what. -/
structure Journey where
  requests : List (Instant × Outgoing)
  arrival : Option (Instant × Arrival)
  deriving DecidableEq, Repr

def mostRedirects : Nat := 10

def onward? (status : Nat) (location : Option Url) : Option Url := if Http.isRedirect status then location else none

def isWeb (u : Url) : Bool := u.scheme == ['h', 't', 't', 'p'] || u.scheme == ['h', 't', 't', 'p', 's']

def follow (network : Network) : Nat → Instant → Outgoing → Journey
  | left, now, out =>
    match network now out with
    | .silent => ⟨[(now, out)], none⟩
    | .failed after timedOut reason => ⟨[(now, out)], some (now + after, .failed timedOut reason)⟩
    | .answered after status location body =>
      match onward? status location, left with
      | none, _ => ⟨[(now, out)], some (now + after, .answered status body)⟩
      | some _, 0 =>
        ⟨[(now, out)], some (now + after,
          .failed false s!"error following redirect for url ({out.url.withoutCredentials.text})")⟩
      | some next, left + 1 =>
        if isWeb next then
          let rest := follow network left (now + after) { out with url := next }
          { rest with requests := (now, out) :: rest.requests }
        else ⟨[(now, out)], some (now + after, .failed false s!"builder error for url ({next.withoutCredentials.text})")⟩

end Campus.Peer
