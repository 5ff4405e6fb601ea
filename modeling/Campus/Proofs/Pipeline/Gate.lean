import Campus.Pipeline.Run
import Campus.Proofs.Breaker.CoolDown
import Campus.Proofs.Pipeline.Front

/-! # The gate of a chain

A machine for what the two standard chains do, without decorators and frames: one bucket, the run of one breaker, and the calls
that were let in. A call takes a token or is throttled; one with a token is given a permit or rejected; one with a permit is
inside until it ends, and its end settles the permit. Whatever calls do, a chain does what its gate does.
-/
namespace Campus.Pipeline

/-! ## What happens to the calls of a chain -/

/-- One thing that happens to the calls of a chain. -/
inductive Event (α : Type) where
  /-- A call arrives under a handle that is not in use. -/
  | arrive (handle : String) (call : CallInfo) (behaviour : Behaviour α)
  /-- The operation of the call under a handle ends, or its caller drops it. -/
  | finish (handle : String) (ending : Ending α)
  | wait (span : Span)

/-! ## The gate -/

structure Admission where
  handle : String
  call : CallInfo
  since : Instant
  permit : Permit

/-- A bucket, the run of a breaker, the calls inside, and what is known of all calls so far. -/
structure Gate (α : Type) where
  bucket : Bucket Float
  guard : Breaker.Run
  inside : List Admission
  ended : List (String × Ending α)
  /-- How often the operation was called. -/
  invocations : Nat
  metrics : Journal
  lines : List Notice

namespace Gate

variable {α : Type}

def fresh (bucket : Bucket Float) (breaker : Breaker) (journal : Journal) : Gate α :=
  ⟨bucket, .fresh breaker, [], [], journal.invocations, journal.metrics, journal.callLines⟩

def refuse (g : Gate α) (front : Front) (handle : String) (call : CallInfo) (fault : Fault) : Gate α :=
  { g with ended := (handle, .returned (.error fault)) :: g.ended, lines := g.lines ++ front.refusal call fault }

def letIn (g : Gate α) (handle : String) (call : CallInfo) (p : Permit) : Gate α :=
  { g with
    guard := (g.guard.step (.acquire handle)).1
    inside := g.inside ++ [⟨handle, call, g.guard.now, p⟩]
    invocations := g.invocations + 1 }

/-- A call arrives: without a whole token it is throttled; with one, which is taken, the breaker decides. -/
def arrive (g : Gate α) (front : Front) (handle : String) (call : CallInfo) : Gate α :=
  let b := g.bucket.refill g.guard.now
  if TokenAmount.ofNat 1 ≤ b.tokens then
    let g := { g with bucket := { b with tokens := b.tokens - TokenAmount.ofNat 1 } }
    match g.guard.reply with
    | .ok p => g.letIn handle call p
    | .error _ => g.refuse front handle call (.circuitOpen g.guard.breaker.name)
  else { g with bucket := b }.refuse front handle call (.throttled front.name)

/-- How the breaker learns of the end of the call under a handle. -/
def settlement (handle : String) : Verdict → Breaker.Event
  | .succeeded _ => .record handle none
  | .failed fault => .record handle (some fault)
  | .unfinished => .drop handle

/-- The call under a handle ends, if it is inside. -/
def leave [Summarize α] (g : Gate α) (front : Front) (handle : String) (ending : Ending α) : Gate α :=
  match g.inside.find? fun a => a.handle == handle with
  | some a =>
    { g with
      guard := (g.guard.step (settlement handle ending.verdict)).1
      inside := g.inside.filter fun a => a.handle != handle
      ended := (handle, ending) :: g.ended
      metrics := g.metrics ++ front.measures a.call (g.guard.now - a.since) ending.verdict
      lines := g.lines ++ [ending.verdict.line a.call (g.guard.now - a.since)] }
  | none => g

def step [Summarize α] (front : Front) (g : Gate α) : Event α → Gate α
  | .arrive handle call behaviour =>
    if g.inside.any fun a => a.handle == handle then g
    else
      let g := g.arrive front handle call
      if behaviour.delay = 0 then g.leave front handle behaviour.ending else g
  | .finish handle ending => g.leave front handle ending
  | .wait span => { g with guard := (g.guard.step (.wait span)).1 }

def after [Summarize α] (g : Gate α) (front : Front) (events : List (Event α)) : Gate α := events.foldl (step front) g

variable {g : Gate α} {front : Front} {handle : String} {call : CallInfo} {p : Permit}

/-! ## What happens to a call that arrives -/

theorem arrive_throttled {bucket : Bucket Float} (h : g.bucket.take g.guard.now = (false, bucket)) :
    g.arrive front handle call = { g with bucket }.refuse front handle call (.throttled front.name) := by
  by_cases ht : TokenAmount.ofNat 1 ≤ (g.bucket.refill g.guard.now).tokens
  · simp [Bucket.take, ht] at h
  · obtain rfl : g.bucket.refill g.guard.now = bucket := by simpa [Bucket.take, ht] using h
    simp [arrive, ht]

theorem arrive_rejected {bucket : Bucket Float} (h : g.bucket.take g.guard.now = (true, bucket)) {fault : Fault}
    (hreply : g.guard.reply = .error fault) :
    g.arrive front handle call =
      { g with bucket }.refuse front handle call (.circuitOpen g.guard.breaker.name) := by
  by_cases ht : TokenAmount.ofNat 1 ≤ (g.bucket.refill g.guard.now).tokens
  · simp only [Bucket.take, ht, if_true, Prod.mk.injEq, true_and] at h
    simp [arrive, ht, hreply, h]
  · simp [Bucket.take, ht] at h

theorem arrive_letIn {bucket : Bucket Float} (h : g.bucket.take g.guard.now = (true, bucket))
    (hreply : g.guard.reply = .ok p) : g.arrive front handle call = { g with bucket }.letIn handle call p := by
  by_cases ht : TokenAmount.ofNat 1 ≤ (g.bucket.refill g.guard.now).tokens
  · simp only [Bucket.take, ht, if_true, Prod.mk.injEq, true_and] at h
    simp [arrive, ht, hreply, h]
  · simp [Bucket.take, ht] at h

/-! ## The permits of the calls inside -/

/-- The permits that are out are those of the calls inside. -/
structure Orderly (g : Gate α) : Prop where
  sound : g.guard.Sound
  held : ∀ a ∈ g.inside, g.guard.permit? a.handle = some a.permit
  free : ∀ handle, (∀ a ∈ g.inside, a.handle ≠ handle) → g.guard.permit? handle = none

theorem ends_settlement (handle : String) (v : Verdict) : (settlement handle v).Ends handle := by
  cases v <;> rfl

theorem not_concerns_settlement {name : String} (h : name ≠ handle) (v : Verdict) :
    ¬ (settlement handle v).Concerns name := by
  cases v <;> exact Ne.symm h

theorem orderly_letIn (h : g.Orderly) (hfree : ∀ a ∈ g.inside, a.handle ≠ handle) (hreply : g.guard.reply = .ok p)
    (bucket : Bucket Float) : (({ g with bucket } : Gate α).letIn handle call p).Orderly where
  sound := Breaker.Run.sound_step h.sound _
  held a ha := by
    rcases List.mem_append.mp ha with hold | hnew
    · have hother : ¬ (Breaker.Event.acquire handle).Concerns a.handle := fun he => hfree a hold he.symm
      exact (Breaker.Run.permit?_step hother).trans (h.held a hold)
    · obtain rfl := List.mem_singleton.mp hnew
      exact Breaker.Run.permit?_of_reply hreply handle
  free other hother := by
    have hne : handle ≠ other := hother _ (List.mem_append_right _ List.mem_cons_self)
    have hconcerns : ¬ (Breaker.Event.acquire handle).Concerns other := hne
    refine (Breaker.Run.permit?_step hconcerns).trans (h.free other fun a ha => ?_)
    exact hother a (List.mem_append_left _ ha)

theorem orderly_arrive (h : g.Orderly) (hfree : ∀ a ∈ g.inside, a.handle ≠ handle) :
    (g.arrive front handle call).Orderly := by
  rcases ht : g.bucket.take g.guard.now with ⟨_ | _, bucket⟩
  · rw [arrive_throttled ht]
    exact ⟨h.sound, h.held, h.free⟩
  · cases hreply : g.guard.reply with
    | error fault =>
      rw [arrive_rejected ht hreply]
      exact ⟨h.sound, h.held, h.free⟩
    | ok p =>
      rw [arrive_letIn ht hreply]
      exact orderly_letIn h hfree hreply bucket

variable [Summarize α]

theorem orderly_leave (h : g.Orderly) (handle : String) (ending : Ending α) : (g.leave front handle ending).Orderly := by
  unfold leave
  split
  case h_2 => exact h
  case h_1 a ha =>
  constructor
  · exact Breaker.Run.sound_step h.sound _
  · intro b hb
    obtain ⟨hmem, hne⟩ := List.mem_filter.mp hb
    have hother := not_concerns_settlement (by simpa using hne) ending.verdict
    exact (Breaker.Run.permit?_step hother).trans (h.held b hmem)
  · intro other hother
    by_cases he : other = handle
    · subst he
      exact Breaker.Run.permit?_step_ends (ends_settlement other ending.verdict)
    · refine (Breaker.Run.permit?_step (not_concerns_settlement he _)).trans (h.free other fun b hb hbo => ?_)
      exact hother b (List.mem_filter.mpr ⟨hb, by simpa [hbo] using he⟩) hbo

theorem orderly_step (ho : g.Orderly) (e : Event α) : (g.step front e).Orderly := by
  cases e with
  | arrive handle call behaviour =>
    by_cases hfree : (g.inside.any fun a => a.handle == handle) = true
    · simpa [step, hfree] using ho
    · have harrive : (g.arrive front handle call).Orderly := orderly_arrive ho (by simpa using hfree)
      by_cases hdelay : behaviour.delay = 0
      · simpa [step, hfree, hdelay] using orderly_leave harrive handle behaviour.ending
      · simpa [step, hfree, hdelay] using harrive
  | finish handle ending => exact orderly_leave ho handle ending
  | wait span => exact ⟨Breaker.Run.sound_step ho.sound _, ho.held, ho.free⟩

/-! ## The operation rests while the breaker cools down -/

omit [Summarize α] in
theorem guard_arrive (g : Gate α) (front : Front) (handle : String) (call : CallInfo) :
    ∃ events, (g.arrive front handle call).guard = g.guard.after events := by
  rcases ht : g.bucket.take g.guard.now with ⟨_ | _, bucket⟩
  · exact ⟨[], by rw [arrive_throttled ht]; rfl⟩
  · cases hreply : g.guard.reply with
    | error fault => exact ⟨[], by rw [arrive_rejected ht hreply]; rfl⟩
    | ok p => exact ⟨[.acquire handle], by rw [arrive_letIn ht hreply]; rfl⟩

theorem guard_leave (g : Gate α) (front : Front) (handle : String) (ending : Ending α) :
    ∃ events, (g.leave front handle ending).guard = g.guard.after events := by
  unfold leave
  split
  · exact ⟨[settlement handle ending.verdict], rfl⟩
  · exact ⟨[], rfl⟩

theorem guard_step (g : Gate α) (front : Front) (e : Event α) :
    ∃ events, (g.step front e).guard = g.guard.after events := by
  cases e with
  | arrive handle call behaviour =>
    obtain ⟨before, harrive⟩ := guard_arrive g front handle call
    obtain ⟨rest, hleave⟩ := guard_leave (g.arrive front handle call) front handle behaviour.ending
    simp only [step]
    split
    · exact ⟨[], rfl⟩
    · split
      · exact ⟨before ++ rest, by rw [hleave, harrive, Breaker.Run.after_append]⟩
      · exact ⟨before, harrive⟩
  | finish handle ending => exact guard_leave g front handle ending
  | wait span => exact ⟨[.wait span], rfl⟩

theorem guard_after (g : Gate α) (front : Front) (events : List (Event α)) :
    ∃ es, (g.after front events).guard = g.guard.after es := by
  induction events generalizing g with
  | nil => exact ⟨[], rfl⟩
  | cons e events ih =>
    obtain ⟨first, hfirst⟩ := guard_step g front e
    obtain ⟨rest, hrest⟩ := ih (g.step front e)
    refine ⟨first ++ rest, ?_⟩
    rw [Breaker.Run.after_append, ← hfirst]
    exact hrest

theorem now_le_guard_after (g : Gate α) (front : Front) (events : List (Event α)) :
    g.guard.now ≤ (g.after front events).guard.now := by
  obtain ⟨es, hes⟩ := guard_after g front events
  rw [hes]
  exact Breaker.Run.now_le_after g.guard es

theorem invocations_leave (g : Gate α) (front : Front) (handle : String) (ending : Ending α) :
    (g.leave front handle ending).invocations = g.invocations := by
  unfold leave
  split <;> rfl

/-- While the breaker gives no permit, nothing calls the operation. -/
theorem invocations_step {fault : Fault} (hreply : g.guard.reply = .error fault) (e : Event α) :
    (g.step front e).invocations = g.invocations := by
  cases e with
  | arrive handle call behaviour =>
    have harrive : (g.arrive front handle call).invocations = g.invocations := by
      rcases ht : g.bucket.take g.guard.now with ⟨_ | _, bucket⟩
      · rw [arrive_throttled ht]
        rfl
      · rw [arrive_rejected ht hreply]
        rfl
    simp only [step]
    split
    · rfl
    · split
      · rw [invocations_leave, harrive]
      · exact harrive
  | finish handle ending => exact invocations_leave g front handle ending
  | wait span => rfl

theorem invocations_after_opened (ho : g.Orderly) {t : Instant} (hp : g.guard.breaker.phase = .opened)
    (ht : g.guard.breaker.openedAt = some t) (events : List (Event α))
    (hnow : (g.after front events).guard.now < t + g.guard.breaker.settings.coolDown) :
    (g.after front events).invocations = g.invocations := by
  induction events generalizing g with
  | nil => rfl
  | cons e events ih =>
    have hcools := Breaker.Run.coolsDown_of_opened ho.sound hp ht
    obtain ⟨es, hes⟩ := guard_step g front e
    have hlater := Nat.lt_of_le_of_lt (now_le_guard_after (g.step front e) front events) hnow
    have hnext := Nat.lt_of_le_of_lt (now_le_guard_after g front (e :: events)) hnow
    have hsame : (g.step front e).guard.breaker = g.guard.breaker := by
      rw [hes] at hlater ⊢
      exact (hcools.rejects es hlater).1
    have hrest := ih (orderly_step ho e) (by rw [hsame, hp]) (by rw [hsame, ht]) (by rw [hsame]; exact hnow)
    exact hrest.trans (invocations_step (hcools.rejects [] hnext).2 e)

end Gate

end Campus.Pipeline
