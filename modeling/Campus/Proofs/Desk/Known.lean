import Campus.Proofs.Desk.Layout
import Campus.Proofs.Peer.Unsent
import Campus.Proofs.Service.Faults

/-! # Calls of known methods

A call of a method that its service has never ends as a call of an unknown one: neither its chain, nor the service, nor the way to the
peer gives such an end.
-/
namespace Campus

open Pipeline

def Ending.Known {α : Type} (e : Ending α) : Prop := ∀ method, e ≠ .returned (.error (.unknownMethod method))

namespace Ending

variable {α β : Type}

theorem known_ok (a : α) : (returned (.ok a)).Known := by rintro method ⟨⟩

theorem Known.of_error {f : Fault} (h : (returned (.error f) : Ending α).Known) :
    (returned (.error f) : Ending β).Known := by
  rintro method ⟨⟩
  exact h method rfl

end Ending

/-! ## Chains -/

namespace Pipeline

/-- A fault with which a chain turns a call away. -/
inductive Refuses : Fault → Prop
  | throttled (endpoint : String) : Refuses (.throttled endpoint)
  | rejected (b : Breaker) : Refuses b.rejection

theorem Refuses.known {α : Type} {f : Fault} (h : Refuses f) : (Ending.returned (.error f) : Ending α).Known := by
  cases h <;> rintro method ⟨⟩

theorem refuses_of_enter {now : Instant} {call : CallInfo} {decorators : List Decorator} {frames : List Frame} {s : Stage}
    {f : Fault} (h : (enter now call decorators frames s).1.2 = some f) : Refuses f := by
  induction decorators generalizing frames s with
  | nil => cases h
  | cons d inner ih =>
    cases d with
    | logging => exact ih h
    | metrics => exact ih h
    | mark name => exact ih h
    | rateLimit endpoint j =>
      simp only [enter] at h
      split at h
      case h_1 => exact ih h
      case h_2 =>
        split at h
        · exact ih h
        · cases h
          exact .throttled endpoint
    | breaker j =>
      simp only [enter] at h
      split at h
      case h_1 => exact ih h
      case h_2 =>
        split at h
        · exact ih h
        · cases h
          exact .rejected _

theorem refuses_of_startCall {now : Instant} {call : CallInfo} {decorators : List Decorator} {s s' : Stage} {f : Fault}
    (h : startCall now call decorators s = (.error f, s')) : Refuses f := by
  unfold startCall at h
  split at h
  case h_1 henter =>
    cases h
    exact refuses_of_enter (congrArg (·.1.2) henter)
  case h_2 => cases h

end Pipeline

/-! ## Requests to the peer -/

namespace Peer

/-- A transport whose requests do not end as calls of an unknown method. -/
def Transport.Known {α : Type} (transport : Transport α) : Prop :=
  ∀ now stop ts context id, (transport now stop ts context id).ending.Known

section

variable {α : Type} [Wire α]

theorem known_interpret (e : Endpoint) (id : String) (status : Nat) (body : List UInt8) :
    (Ending.returned (interpret e id status body) : Ending α).Known := by
  intro method
  unfold interpret
  split
  · split <;> rintro ⟨⟩
  · unfold refusal
    split
    · rintro ⟨⟩
    · split <;> rintro ⟨⟩

theorem known_outcome (e : Endpoint) (id : String) (millis : Nat) (arrival : Arrival) :
    (Ending.returned (outcome e id millis arrival) : Ending α).Known := by
  cases arrival with
  | failed timedOut reason => cases timedOut <;> rintro method ⟨⟩
  | answered status body => exact known_interpret e id status body

omit [Wire α] in
theorem known_withheld {e : Endpoint} {d : Destination} {ts : Tokens} {now : Instant} {context : Context} {id : String}
    {fault : Fault} (h : Withheld e d ts now context id fault) : (Ending.returned (.error fault) : Ending α).Known := by
  cases h with
  | unaddressed haddress =>
    unfold PathTemplate.resolve at haddress
    split at haddress <;> cases haddress
    rintro method ⟨⟩
  | _ => rintro method ⟨⟩

omit [Wire α] in
theorem known_race (e : Endpoint) (now deadline : Instant) (stop : Option Instant)
    {result : Option (Instant × Except Fault α)} (h : ∀ r ∈ result, (Ending.returned r.2).Known) :
    (race e now deadline stop result).ending.Known := by
  unfold race
  dsimp only
  repeat' split
  all_goals first
    | exact h _ rfl
    | rintro method ⟨⟩

theorem known_exchange (network : Network) (e : Endpoint) (d : Destination) :
    (exchange network e d : Transport α).Known := by
  intro now stop ts context id
  unfold exchange
  cases hprepare : prepare e d ts now context id with
  | error fault => exact known_withheld (withheld_of_prepare hprepare)
  | ok out =>
    refine known_race e now context.deadline stop fun r hr => ?_
    obtain ⟨⟨t, arrival⟩, -, rfl⟩ := Option.map_eq_some_iff.mp hr
    exact known_outcome e id _ arrival

end

def startEnding {α : Type} : FanOut.Start (Flight α) α → Ending α
  | .ended ending => ending
  | .running _ flight => flight.ending

theorem known_start {α : Type} [Summarize α] {transport : Transport α} (h : transport.Known) (l : Link) (stop : Option Instant)
    (ts : Tokens) (now : Instant) (context : Context) (id : String) (s : Stage) :
    (startEnding (start l transport stop ts now context id s).1).Known := by
  unfold start
  split
  case isTrue => rintro method ⟨⟩
  case isFalse =>
    dsimp only
    split
    case h_1 hchain => exact (refuses_of_startCall hchain).known
    case h_2 => split <;> exact h now stop ts (context.forMethod l.endpoint.method) id

end Peer

/-! ## Calls -/

/-- Peers none of whose answers says that a method is unknown. -/
structure Peers.Known (peers : Peers) : Prop where
  course : peers.course.Known
  roster : peers.roster.Known

theorem Peers.known_across (network : Peer.Network) (sibling : Option Peer.Destination) :
    (Peers.across network sibling).Known := by
  cases sibling with
  | none => exact ⟨by rintro now stop ts context id method ⟨⟩, by rintro now stop ts context id method ⟨⟩⟩
  | some d => exact ⟨Peer.known_exchange network _ d, Peer.known_exchange network _ d⟩

namespace Desk

def Wait.Known : Wait → Prop
  | .confirming _ _ _ flight => flight.ending.Known
  | .roster _ flight => flight.ending.Known
  | .gathering _ _ => True

def Turn.Known : Turn → Prop
  | .over ending _ => ending.Known
  | .waiting wait => wait.Known

def Progress.Known : Progress → Prop
  | .ended ending => ending.Known
  | .waiting p => p.wait.Known

section

variable {d : Desk} {peers : Peers} {stop : Option Instant} {now : Instant} {wall : Moment} {context : Context} {ts : Tokens}
  {op : Operation}

theorem known_failed {α : Type} {ending : Ending α} (h : ending.Known) : (failed ending).Known := by
  unfold failed
  split
  case h_1 => exact h.of_error
  all_goals rintro method ⟨⟩

theorem known_confirmed (student course : Int64) {ending : Ending Course} (h : ending.Known) :
    (confirmed d student course wall ending).1.Known := by
  unfold confirmed
  split
  case h_1 =>
    rintro method hmethod
    have hexplains := Service.explains_enroll student course wall (b := d.backend)
    cases hexplains _ (Ending.returned.inj hmethod)
  case h_2 => exact known_failed h

theorem known_rosterReply {ending : Ending (List Student)} (h : ending.Known) : (rosterReply ending).Known := by
  unfold rosterReply
  split
  case h_1 => exact Ending.known_ok _
  case h_2 => exact known_failed h

theorem known_gather (link : Peer.Link) (job : FanOut.Job (Peer.Flight Course) Course) (d : Desk) :
    (gather peers stop now link job ts d).1.Known := by
  unfold gather
  split
  case h_1 result notices left ts' stage hstep =>
    have hjoins := FanOut.Job.joins_step (Peer.worker link peers.course stop ts) now job ts d.stage
    rw [hstep] at hjoins
    cases hjoins with
    | failed hgather => rintro method ⟨⟩
    | @ended remaining slots hgather hover =>
      cases hcollect : FanOut.Job.collect slots with
      | ok list => exact Ending.known_ok _
      | error f =>
        obtain rfl := FanOut.Job.collect_error hcollect
        rintro method ⟨⟩
  case h_2 => trivial

theorem known_perform (hpeers : peers.Known) (hop : op.method ∈ Service.methods d.kind) :
    (perform peers stop now wall context op ts d).1.Known := by
  obtain ⟨step, backend, hhandle, hperforms⟩ := performs peers stop now wall context op ts d
  have hsettled := Service.settled_handle d.link.isSome wall context.method d.backend hop
  rw [hhandle] at hsettled
  generalize perform peers stop now wall context op ts d = turn at hperforms ⊢
  cases hperforms with
  | replied result =>
    rintro method hmethod
    obtain rfl := Ending.returned.inj hmethod
    cases hsettled with
    | replied hexplains => cases hexplains _ rfl
    | elsewhere _ hknown => exact hknown method rfl
  | alone => rintro method ⟨⟩
  | @confirmed student course link _ _ _ hstart =>
    have hknown := Peer.known_start hpeers.course link stop ts now context (toString course.toInt) d.stage
    rw [hstart] at hknown
    exact known_confirmed student course hknown
  | @confirming _ course link _ _ _ _ hstart =>
    have hknown := Peer.known_start hpeers.course link stop ts now context (toString course.toInt) d.stage
    rw [hstart] at hknown
    exact hknown
  | @answered course link _ _ _ hstart =>
    have hknown := Peer.known_start hpeers.roster link stop ts now context (toString course.toInt) d.stage
    rw [hstart] at hknown
    exact known_rosterReply hknown
  | @asking course link _ _ _ _ hstart =>
    have hknown := Peer.known_start hpeers.roster link stop ts now context (toString course.toInt) d.stage
    rw [hstart] at hknown
    exact hknown
  | unbegun hending =>
    rintro method rfl
    simp at hending
  | gathering => exact known_gather ..

theorem known_resume {wait : Wait} (h : wait.Known) : (resume peers stop now wall wait ts d).1.Known := by
  cases wait with
  | confirming student course due flight => exact known_confirmed student course h
  | roster due flight => exact known_rosterReply h
  | gathering link job => exact known_gather link job d

theorem known_settle (frames : List Frame) {turn : Turn × Tokens × Desk} (h : turn.1.Known) :
    (settle now frames context stop turn).1.Known := by
  obtain ⟨⟨ending, left⟩ | wait, ts, d⟩ := turn
  · exact h
  · exact h

/-- On a desk that is arranged no call of a method of its service ends as one of an unknown method. -/
theorem known_start (hd : d.Arranged) (hpeers : peers.Known) (hop : op.method ∈ Service.methods d.kind)
    (hcontext : context.method = op.method) : (start peers stop now wall context ts op d).1.Known := by
  have hchain := hd.chain (hcontext ▸ hop)
  unfold start
  rw [hchain]
  dsimp only
  split
  case h_1 hrefused => exact (refuses_of_startCall hrefused).known
  case h_2 => exact known_settle _ (known_perform hpeers hop)

theorem known_proceed {p : Pending} (h : p.wait.Known) : (proceed peers now wall p d).1.Known :=
  known_settle _ (known_resume h)

end

end Desk

end Campus
