import Campus.Proofs.Desk.Turn
import Campus.Proofs.Peer.Apart

/-! # Calls in one place of the guard room

What the calls of a desk do in one place of its guard room. An operation does nothing there, even when it calls the peer; only the chain
of a call does. So a call that ends settles the permits of the place that its frames hold, and one that waits changes nothing.
-/
namespace Campus.Desk

open Pipeline FanOut

def Wait.Spares (i : Nat) : Wait → Prop
  | .confirming _ _ _ flight => flight.Spares i
  | .roster _ flight => flight.Spares i
  | .gathering link job => link.Spares i ∧ Fetching (Peer.Flight.Spares i) job.running

/-- An operation whose requests, as far as they are not over, hold no permit of a place. -/
def Turn.Spares (i : Nat) : Turn → Prop
  | .over _ left => Fetching (Peer.Flight.Spares i) left
  | .waiting wait => wait.Spares i

section

variable {d : Desk} (peers : Peers) (stop : Option Instant) (now : Instant) (wall : Moment) (context : Context) (ts : Tokens)
  (op : Operation) {i : Nat} {bucket : Bucket Float} {breaker : Breaker}

/-! ## Operations -/

theorem stage_confirmed (d : Desk) (student course : Int64) (wall : Moment) (ending : Ending Course) :
    (confirmed d student course wall ending).2.stage = d.stage := by
  unfold confirmed
  split <;> rfl

theorem spares_over (ending : Ending Response) : (Turn.over ending []).Spares i := fetching_nil _

theorem holds_gather {link : Peer.Link} (hlink : link.Spares i) {job : Job (Peer.Flight Course) Course}
    (hjob : Fetching (Peer.Flight.Spares i) job.running) (h : d.stage.Holds i bucket breaker) :
    (gather peers stop now link job ts d).2.2.stage.Holds i bucket breaker ∧
      (gather peers stop now link job ts d).1.Spares i := by
  obtain ⟨hstage, hunits⟩ := Job.keeps_step now (Peer.keeps_worker peers.course stop ts hlink) hjob ts h
  unfold gather
  rcases hstep : Job.step (Peer.worker link peers.course stop ts) now job ts d.stage with ⟨job' | ⟨result, notices, left⟩, ts', s⟩
  · rw [hstep] at hstage hunits
    exact ⟨hstage, hlink, hunits⟩
  · rw [hstep] at hstage hunits
    exact ⟨hstage.note notices, hunits⟩

theorem fetching_create {ρ ε : Type} (Q : ρ → Prop) (context : Context) (seed : String) (ids : List String) (bound : Nat)
    (ts : Tokens) : Fetching Q (Job.create (ε := ε) context seed ids bound ts).1.running := fetching_nil Q

/-- An operation leaves a place alone that the link to the peer spares. -/
theorem holds_perform (hlink : ∀ l ∈ d.link, l.Spares i) (h : d.stage.Holds i bucket breaker) :
    (perform peers stop now wall context op ts d).2.2.stage.Holds i bucket breaker ∧
      (perform peers stop now wall context op ts d).1.Spares i := by
  obtain ⟨step, backend, -, hperforms⟩ := performs peers stop now wall context op ts d
  generalize perform peers stop now wall context op ts d = turn at hperforms ⊢
  cases hperforms with
  | replied _ | alone _ | unbegun _ => exact ⟨h, spares_over _⟩
  | @confirmed student course link ending _ hpeer hstart =>
    have hstage := Peer.holds_start peers.course stop ts now context (toString course.toInt) (hlink link hpeer) h
    rw [hstart] at hstage
    exact ⟨(stage_confirmed _ student course wall ending).symm ▸ hstage, spares_over _⟩
  | @confirming _ course link _ _ _ hpeer hstart =>
    have hstage := Peer.holds_start peers.course stop ts now context (toString course.toInt) (hlink link hpeer) h
    rw [hstart] at hstage
    exact ⟨hstage, Peer.spares_start _ stop ts now context _ (hlink link hpeer) h hstart⟩
  | @answered course link _ _ hpeer hstart =>
    have hstage := Peer.holds_start peers.roster stop ts now context (toString course.toInt) (hlink link hpeer) h
    rw [hstart] at hstage
    exact ⟨hstage, spares_over _⟩
  | @asking course link _ _ _ hpeer hstart =>
    have hstage := Peer.holds_start peers.roster stop ts now context (toString course.toInt) (hlink link hpeer) h
    rw [hstart] at hstage
    exact ⟨hstage, Peer.spares_start _ stop ts now context _ (hlink link hpeer) h hstart⟩
  | @gathering seed _ link ids _ hpeer =>
    exact holds_gather peers stop now _ (hlink link hpeer) (fetching_create _ context seed ids _ ts) h

theorem holds_resume {wait : Wait} (hwait : wait.Spares i) (h : d.stage.Holds i bucket breaker) :
    (resume peers stop now wall wait ts d).2.2.stage.Holds i bucket breaker ∧
      (resume peers stop now wall wait ts d).1.Spares i := by
  cases wait with
  | confirming student course due flight =>
    refine ⟨?_, spares_over _⟩
    simp only [resume, stage_confirmed]
    exact Peer.holds_finish now h hwait
  | roster due flight => exact ⟨Peer.holds_finish now h hwait, spares_over _⟩
  | gathering link job => exact holds_gather peers stop now ts hwait.1 hwait.2 h

/-! ## Ends of calls -/

theorem holds_tearDown {left : List (Running (Peer.Flight Course))} (hleft : Fetching (Peer.Flight.Spares i) left)
    (h : d.stage.Holds i bucket breaker) : (tearDown left d).stage.Holds i bucket breaker := by
  unfold tearDown
  generalize d.stage = s at h ⊢
  induction left generalizing s with
  | nil => exact h
  | cons u rest ih =>
    have hrest : Fetching (Peer.Flight.Spares i) rest := fun v hv => hleft v (List.mem_cons_of_mem _ hv)
    exact ih hrest _ (h.tearDown (hleft u List.mem_cons_self))

/-- The end of a call settles the permits of the place that its frames hold. -/
theorem holds_close {frames : List Frame} {left : List (Running (Peer.Flight Course))}
    (hleft : Fetching (Peer.Flight.Spares i) left) (h : d.stage.Holds i bucket breaker) (ending : Ending Response) :
    (close now frames ending left d).stage.Holds i bucket
      (breaker.concludeAll now ending.verdict (permitsAt i frames)) :=
  holds_tearDown hleft (holds_leave now h ending.verdict frames)

/-- The breaker of a place after a step of a call that holds permits there: they are settled if the call is over. -/
def Progress.settled (now : Instant) (permits : List Permit) (breaker : Breaker) : Progress → Breaker
  | .ended ending => breaker.concludeAll now ending.verdict permits
  | .waiting _ => breaker

/-- A call that holds no permit of a place does nothing there when it ends. -/
@[simp] theorem Progress.settled_nil (now : Instant) (breaker : Breaker) (progress : Progress) :
    progress.settled now [] breaker = breaker := by
  cases progress <;> rfl

/-- A waiting call that holds certain permits of a place. -/
structure Pending.Keeps (p : Pending) (i : Nat) (permits : List Permit) : Prop where
  frames : permitsAt i p.frames = permits
  wait : p.wait.Spares i

theorem holds_settle (frames : List Frame) {turn : Turn × Tokens × Desk}
    (h : turn.2.2.stage.Holds i bucket breaker ∧ turn.1.Spares i) :
    (settle now frames context stop turn).2.stage.Holds i bucket
        ((settle now frames context stop turn).1.settled now (permitsAt i frames) breaker) ∧
      ∀ p, (settle now frames context stop turn).1 = .waiting p → p.Keeps i (permitsAt i frames) := by
  obtain ⟨⟨ending, left⟩ | wait, ts, d⟩ := turn
  · obtain ⟨hstage, hspares⟩ := h
    exact ⟨holds_close now hspares hstage ending, by rintro p ⟨⟩⟩
  · obtain ⟨hstage, hspares⟩ := h
    exact ⟨hstage, by rintro p ⟨⟩; exact ⟨rfl, hspares⟩⟩

/-! ## Steps of calls -/

theorem holds_start_other (hlink : ∀ l ∈ d.link, l.Spares i) (h : d.stage.Holds i bucket breaker)
    (hchain : ∀ e, (d.endpoints.find? fun e => e.1 = context.method) = some e → ∀ dec ∈ e.2, dec.Spares i) :
    (start peers stop now wall context ts op d).2.stage.Holds i bucket breaker ∧
      ∀ p, (start peers stop now wall context ts op d).1 = .waiting p → p.Keeps i [] := by
  rcases hfound : d.endpoints.find? fun e => e.1 = context.method with _ | ⟨name, chain⟩
  · simp only [start, hfound]
    exact ⟨h, by rintro p ⟨⟩⟩
  obtain ⟨hstage, hframes⟩ := startCall_spares now ⟨context.method, op.fields⟩ (hchain _ hfound) h
  rcases hstart : startCall now ⟨context.method, op.fields⟩ chain d.stage with ⟨fault | frames, s⟩
  · rw [hstart] at hstage
    simp only [start, hfound, hstart]
    exact ⟨hstage, by rintro p ⟨⟩⟩
  · rw [hstart] at hstage hframes
    simp only [start, hfound, hstart]
    have hnone : permitsAt i frames = [] := hframes frames rfl
    have hsettled := holds_settle stop now context frames
      (holds_perform (d := { d with stage := s.write .invoked }) peers stop now wall context ts op hlink (hstage.write .invoked))
    rwa [hnone, Progress.settled_nil] at hsettled

/-- A call of the endpoint in a place is throttled or rejected there, or let in. It then holds a permit, which its end settles. -/
theorem holds_start_own (hlink : ∀ l ∈ d.link, l.Spares i) (h : d.stage.Holds i bucket breaker)
    (hchain : (d.endpoints.find? fun e => e.1 = context.method) = some (context.method, endpointChain context.method i i)) :
    let r := start peers stop now wall context ts op d
    match letIn context.method now bucket breaker with
    | (.error fault, bucket, breaker) => r.1 = .ended (.returned (.error fault)) ∧ r.2.stage.Holds i bucket breaker
    | (.ok p, bucket, breaker) =>
      r.2.stage.Holds i bucket (r.1.settled now [p] breaker) ∧ ∀ w, r.1 = .waiting w → w.Keeps i [p] := by
  intro r
  obtain ⟨s, hstart, hstage⟩ := startCall_endpoint h now ⟨context.method, op.fields⟩ context.method
  rcases hadmission : letIn context.method now bucket breaker with ⟨fault | p, bucket', breaker'⟩
  · rw [hadmission] at hstart hstage
    have hr : r = (.ended (.returned (.error fault)), { d with stage := s }) := by
      simp only [r, start, hchain, hstart, Except.map]
    rw [hr]
    exact ⟨rfl, hstage⟩
  · rw [hadmission] at hstart hstage
    have hr : r = settle now (endpointFrames i ⟨context.method, op.fields⟩ now p) context stop
        (perform peers stop now wall context op ts { d with stage := s.write .invoked }) := by
      simp only [r, start, hchain, hstart, Except.map]
    have hsettled := holds_settle stop now context (endpointFrames i ⟨context.method, op.fields⟩ now p)
      (holds_perform (d := { d with stage := s.write .invoked }) peers stop now wall context ts op hlink (hstage.write .invoked))
    rw [permitsAt_endpointFrames] at hsettled
    rw [hr]
    exact hsettled

/-- A call that goes on settles its permits if it is over then, and keeps them otherwise. -/
theorem holds_proceed {p : Pending} {permits : List Permit} (hp : p.Keeps i permits) (h : d.stage.Holds i bucket breaker) :
    (proceed peers now wall p d).2.stage.Holds i bucket ((proceed peers now wall p d).1.settled now permits breaker) ∧
      ∀ q, (proceed peers now wall p d).1 = .waiting q → q.Keeps i permits := by
  have hsettled := holds_settle p.stop now p.context p.frames (holds_resume peers p.stop now wall p.tokens hp.wait h)
  rw [hp.frames] at hsettled
  exact hsettled

theorem holds_cancel {p : Pending} {permits : List Permit} (hp : p.Keeps i permits) (h : d.stage.Holds i bucket breaker) :
    (cancel now p d).2.stage.Holds i bucket ((cancel now p d).1.settled now permits breaker) ∧
      ∀ q, (cancel now p d).1 = .waiting q → q.Keeps i permits := by
  obtain ⟨frames, context, tokens, stop, wait⟩ := p
  obtain ⟨hframes, hwait⟩ := hp
  cases wait with
  | confirming student course due flight => exact ⟨h, by rintro q ⟨⟩; exact ⟨hframes, hwait⟩⟩
  | roster due flight => exact ⟨h, by rintro q ⟨⟩; exact ⟨hframes, hwait⟩⟩
  | gathering link job =>
    subst hframes
    exact ⟨holds_close now hwait.2.reverse h _, by rintro q ⟨⟩⟩

theorem holds_abandon {p : Pending} {permits : List Permit} (hp : p.Keeps i permits) (h : d.stage.Holds i bucket breaker) :
    (abandon now p d).stage.Holds i bucket (breaker.concludeAll now .unfinished permits) := by
  obtain ⟨frames, context, tokens, stop, wait⟩ := p
  obtain ⟨hframes, hwait⟩ := hp
  subst hframes
  have hlone {s : Stage} (hs : s.Holds i bucket breaker) :
      (close now frames .dropped [] { d with stage := s }).stage.Holds i bucket
        (breaker.concludeAll now .unfinished (permitsAt i frames)) :=
    holds_close (d := { d with stage := s }) now (fetching_nil _) hs .dropped
  cases wait with
  | confirming student course due flight => exact hlone (Peer.holds_abandon now h hwait)
  | roster due flight => exact hlone (Peer.holds_abandon now h hwait)
  | gathering link job => exact holds_close now hwait.2 h .dropped

end

end Campus.Desk
