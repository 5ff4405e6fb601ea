import Campus.Peer.Client
import Campus.Proofs.FanOut.Kept
import Campus.Proofs.Pipeline.Places

/-! # Requests and other places

A link to a peer has a place of its own in the guard room. Whatever becomes of requests through it, alone or as units of a fan-out,
all other places stay as they are.
-/
namespace Campus.Peer

open Pipeline

/-- A link whose bucket and breaker stand elsewhere. -/
structure Link.Spares (i : Nat) (l : Link) : Prop where
  bucket : l.bucket ≠ i
  breaker : l.breaker ≠ i

/-- A request on its way that holds no permit of a place. -/
def Flight.Spares {α : Type} (i : Nat) (f : Flight α) : Prop := permitsAt i f.frames = []

section

variable {α : Type} [Summarize α] {l : Link} (transport : Transport α) (stop : Option Instant) (ts : Tokens) (now : Instant)
  (context : Context) (id : String) {s : Stage} {i : Nat} {bucket : Bucket Float} {breaker : Breaker}

theorem Link.Spares.chain (h : l.Spares i) : ∀ d ∈ l.chain, d.Spares i := by
  simp [Link.chain, Decorator.Spares, h.bucket, h.breaker]

theorem holds_start (hlink : l.Spares i) (h : s.Holds i bucket breaker) :
    (start l transport stop ts now context id s).2.Holds i bucket breaker := by
  unfold start
  split
  case isTrue => exact h
  case isFalse =>
    obtain ⟨hstage, hframes⟩ := startCall_spares now ⟨l.endpoint.method, s!"id={id}"⟩ hlink.chain h
    rcases hstart : startCall now ⟨l.endpoint.method, s!"id={id}"⟩ l.chain s with ⟨fault | frames, s'⟩
    · rwa [hstart] at hstage
    · rw [hstart] at hstage hframes
      have hasked (e : Entry) (sent : Bool) : (if sent then s'.write e else s').Holds i bucket breaker := by
        cases sent with
        | false => exact hstage
        | true => exact hstage.write e
      dsimp only
      split
      · exact holds_leave_of_none now (hasked _ _) _ (hframes frames rfl)
      · exact hasked _ _

theorem spares_start (hlink : l.Spares i) (h : s.Holds i bucket breaker) {due : Instant} {flight : Flight α} {s' : Stage}
    (hstart : start l transport stop ts now context id s = (.running due flight, s')) : flight.Spares i := by
  unfold start at hstart
  split at hstart
  case isTrue => cases hstart
  case isFalse =>
    obtain ⟨-, hframes⟩ := startCall_spares now ⟨l.endpoint.method, s!"id={id}"⟩ hlink.chain h
    rcases hchain : startCall now ⟨l.endpoint.method, s!"id={id}"⟩ l.chain s with ⟨fault | frames, s''⟩
    · rw [hchain] at hstart
      cases hstart
    · rw [hchain] at hstart hframes
      dsimp only at hstart
      split at hstart <;> cases hstart
      exact hframes frames rfl

theorem holds_finish (h : s.Holds i bucket breaker) {flight : Flight α} (hflight : flight.Spares i) :
    (finish now flight s).2.Holds i bucket breaker := holds_leave_of_none now h _ hflight

omit [Summarize α] in
theorem holds_abandon (h : s.Holds i bucket breaker) {flight : Flight α} (hflight : flight.Spares i) :
    (abandon now flight s).Holds i bucket breaker := holds_leave_of_none now h _ hflight

/-- A fan-out through a link keeps all other places as they are. -/
theorem keeps_worker (hlink : l.Spares i) :
    (worker l transport stop ts).Keeps (Stage.Holds · i bucket breaker) (Flight.Spares i) where
  start now context id _ h := holds_start transport stop ts now context id hlink h
  started h hstart := spares_start transport stop ts _ _ _ hlink h hstart
  finish now _ _ hflight h := holds_finish now h hflight

end

end Campus.Peer
