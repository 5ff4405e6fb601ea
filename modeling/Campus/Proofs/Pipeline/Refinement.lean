import Campus.Proofs.Pipeline.Gate

/-! # A chain does what its gate does

Calls of a standard chain arrive, end and are dropped while time passes. One event after the other, the run of the chain stands
as its gate does, whatever its operation comes to.
-/
namespace Campus.Pipeline

namespace Run

variable {α : Type} [Summarize α]

def step (r : Run α) : Event α → Run α
  | .arrive handle call behaviour =>
    if r.flights.any fun f => f.handle == handle then r else r.enterCall handle call behaviour
  | .finish handle ending =>
    match r.flights.find? fun f => f.handle == handle with
    | some f => r.finish f ending
    | none => r
  | .wait span => { r with now := r.now + span }

def after (r : Run α) (events : List (Event α)) : Run α := events.foldl step r

end Run

namespace Gate

variable {α : Type} {g : Gate α} {front : Front} {handle : String} {call : CallInfo} {p : Permit}

/-! ## A run and its gate -/

/-- A run of a standard chain stands as its gate does. -/
structure Mirrors (front : Front) (i j : Nat) (g : Gate α) (r : Run α) : Prop where
  decorators : r.decorators = front.chain i j
  stage : r.stage.Shows i j g.bucket g.guard.breaker g.invocations g.metrics g.lines
  now : r.now = g.guard.now
  flights : r.flights.map (fun f => (f.handle, f.frames)) =
    g.inside.map fun a => (a.handle, front.frames j a.call a.since a.permit)
  ended : r.ended = g.ended

variable [Summarize α] {i j : Nat} {r : Run α}

theorem leave_of_absent (h : ∀ a ∈ g.inside, a.handle ≠ handle) (ending : Ending α) :
    g.leave front handle ending = g := by
  have hnone : (g.inside.find? fun a => a.handle == handle) = none := by
    simpa using h
  simp [leave, hnone]

theorem mirrors_refuse (h : g.Mirrors front i j r) {bucket : Bucket Float} {fault : Fault} {s : Stage}
    (hstart : startCall r.now call r.decorators r.stage = (.error fault, s))
    (hshows : s.Shows i j bucket g.guard.breaker g.invocations g.metrics (g.lines ++ front.refusal call fault))
    (behaviour : Behaviour α) :
    (({ g with bucket } : Gate α).refuse front handle call fault).Mirrors front i j
      (r.enterCall handle call behaviour) := by
  simp only [Run.enterCall, hstart]
  exact { h with
    stage := hshows
    ended := by simp [refuse, h.ended] }

theorem mirrors_leave (h : g.Mirrors front i j r) (ho : g.Orderly) {a : Admission}
    (ha : (g.inside.find? fun a => a.handle == handle) = some a) {f : Flight α} (hhandle : f.handle = handle)
    (hframes : f.frames = front.frames j a.call a.since a.permit) (ending : Ending α) :
    (g.leave front handle ending).Mirrors front i j (r.finish f ending) := by
  have hname : a.handle = handle := by simpa using List.find?_some ha
  have hpermit : g.guard.permit? handle = some a.permit := by
    rw [← hname]
    exact ho.held a (List.mem_of_find?_eq_some ha)
  have hbreaker : (g.guard.step (settlement handle ending.verdict)).1.breaker =
      (g.guard.breaker.conclude g.guard.now a.permit ending.verdict).1 := by
    cases ending.verdict <;> simp [settlement, Breaker.conclude, Breaker.Run.step, hpermit]
  have hnow : (g.guard.step (settlement handle ending.verdict)).1.now = g.guard.now := by
    cases ending.verdict <;> simp [settlement, Breaker.Run.step, hpermit]
  have hleave := Front.shows_leave front a.call g.guard.now h.stage a.since a.permit ending.verdict
  simp only [leave, ha, Run.finish]
  constructor
  · exact h.decorators
  · rw [hbreaker, hframes, h.now]
    exact hleave
  · rw [hnow]
    exact h.now
  · have hothers := congrArg (List.filter fun x => x.1 != handle) h.flights
    simpa [List.filter_map, Function.comp_def, hhandle] using hothers
  · simp [hhandle, h.ended]

omit [Summarize α] in
theorem mirrors_letIn (call : CallInfo) (h : g.Mirrors front i j r) (ho : g.Orderly) (hfree : ∀ a ∈ g.inside, a.handle ≠ handle)
    (hreply : g.guard.reply = .ok p) {bucket : Bucket Float} {s : Stage}
    (hshows : s.Shows i j bucket (g.guard.breaker.acquire g.guard.now).2.1 g.invocations g.metrics g.lines)
    (due : Instant) (ending : Ending α) :
    (({ g with bucket } : Gate α).letIn handle call p).Mirrors front i j
      { r with
        stage := s.write .invoked
        flights := r.flights ++ [⟨handle, front.frames j call r.now p, due, ending⟩] } := by
  have hnone := ho.free handle hfree
  have hstep := Breaker.Run.step_acquire_new (Breaker.Run.acquire_of_reply_ok hreply) hnone
  constructor
  · exact h.decorators
  · simp only [letIn, hstep]
    exact hshows.writeInvoked
  · simp only [letIn, hstep]
    exact h.now
  · simp [letIn, h.flights, h.now]
  · exact h.ended

theorem mirrors_arrive (call : CallInfo) (h : g.Mirrors front i j r) (ho : g.Orderly) (hfree : ∀ a ∈ g.inside, a.handle ≠ handle)
    (behaviour : Behaviour α) :
    let g' := g.arrive front handle call
    (if behaviour.delay = 0 then g'.leave front handle behaviour.ending else g').Mirrors front i j
      (r.enterCall handle call behaviour) := by
  intro g'
  rcases ht : g.bucket.take g.guard.now with ⟨_ | _, bucket⟩
  · obtain ⟨s, hstart, hshows⟩ := Front.startCall_throttled front call h.stage ht
    rw [← h.now, ← h.decorators] at hstart
    have hgate : g' = ({ g with bucket } : Gate α).refuse front handle call (.throttled front.name) := arrive_throttled ht
    rw [leave_of_absent (by rw [hgate]; exact hfree), ite_self, hgate]
    exact mirrors_refuse h hstart hshows behaviour
  · cases hreply : g.guard.reply with
    | error fault =>
      obtain ⟨s, hstart, hshows⟩ := Front.startCall_rejected front call h.stage ht
        (Breaker.Run.acquire_of_reply_error hreply)
      rw [← h.now, ← h.decorators] at hstart
      have hgate : g' = ({ g with bucket } : Gate α).refuse front handle call (.circuitOpen g.guard.breaker.name) :=
        arrive_rejected ht hreply
      rw [leave_of_absent (by rw [hgate]; exact hfree), ite_self, hgate]
      exact mirrors_refuse h hstart hshows behaviour
    | ok p =>
      obtain ⟨s, hstart, hshows⟩ := Front.startCall_letIn front call h.stage ht
        (Breaker.Run.acquire_of_reply_ok hreply)
      rw [← h.now, ← h.decorators] at hstart
      have hgate : g' = ({ g with bucket } : Gate α).letIn handle call p := arrive_letIn ht hreply
      have hin := mirrors_letIn call h ho hfree hreply hshows (r.now + behaviour.delay) behaviour.ending
      rw [← hgate] at hin
      by_cases hdelay : behaviour.delay = 0
      · -- The operation ends at once, and the call that leaves is the one that has just come in.
        have hnone : (g.inside.find? fun a => a.handle == handle) = none := by
          simpa using hfree
        have hnew : (g'.inside.find? fun a => a.handle == handle) = some ⟨handle, call, g.guard.now, p⟩ := by
          simp [hgate, letIn, List.find?_append, hnone]
        have ho' : g'.Orderly := by
          rw [hgate]
          exact orderly_letIn ho hfree hreply bucket
        have hout := mirrors_leave (f := ⟨handle, front.frames j call r.now p, r.now + behaviour.delay, behaviour.ending⟩)
          hin ho' hnew rfl (by rw [h.now]) behaviour.ending
        simpa [Run.enterCall, hstart, hdelay] using hout
      · simpa [Run.enterCall, hstart, hdelay] using hin

omit [Summarize α] in
/-- The flight under a handle and the admission under it are found together. -/
theorem find_flight (h : g.Mirrors front i j r) (handle : String) :
    (r.flights.find? fun f => f.handle == handle).map (fun f => (f.handle, f.frames)) =
      (g.inside.find? fun a => a.handle == handle).map
        fun a => (a.handle, front.frames j a.call a.since a.permit) := by
  have hfound := congrArg (List.find? fun x => x.1 == handle) h.flights
  simpa [List.find?_map, Function.comp_def] using hfound

theorem mirrors_step (h : g.Mirrors front i j r) (ho : g.Orderly) (e : Event α) :
    (g.step front e).Mirrors front i j (r.step e) := by
  cases e with
  | arrive handle call behaviour =>
    have hused : (r.flights.any fun f => f.handle == handle) = g.inside.any fun a => a.handle == handle := by
      have hany := congrArg (List.any · fun x => x.1 == handle) h.flights
      simpa [List.any_map, Function.comp_def] using hany
    by_cases hfree : (g.inside.any fun a => a.handle == handle) = true
    · simpa [step, Run.step, hused, hfree] using h
    · have harrive := mirrors_arrive call h ho (by simpa using hfree) behaviour
      simpa [step, Run.step, hused, hfree] using harrive
  | finish handle ending =>
    have hfound := find_flight h handle
    cases ha : g.inside.find? fun a => a.handle == handle with
    | none =>
      have hf : (r.flights.find? fun f => f.handle == handle) = none := by simpa [ha] using hfound
      simpa [step, leave, Run.step, ha, hf] using h
    | some a =>
      obtain ⟨f, hf, heq⟩ := Option.map_eq_some_iff.mp (hfound.trans (congrArg _ ha))
      have hhandle : f.handle = handle := by simpa using List.find?_some hf
      have hframes : f.frames = front.frames j a.call a.since a.permit := congrArg Prod.snd heq
      have hout := mirrors_leave h ho ha hhandle hframes ending
      simpa [step, Run.step, hf] using hout
  | wait span => exact { h with now := by simp [step, Run.step, Breaker.Run.step, h.now] }

theorem mirrors_after (h : g.Mirrors front i j r) (ho : g.Orderly) (events : List (Event α)) :
    (g.after front events).Mirrors front i j (r.after events) ∧ (g.after front events).Orderly := by
  induction events generalizing g r with
  | nil => exact ⟨h, ho⟩
  | cons e events ih => exact ih (mirrors_step h ho e) (orderly_step ho e)

omit [Summarize α] in
theorem mirrors_fresh (front : Front) (s : Stage) (bucket : Bucket Float) (breaker : Breaker) :
    (fresh bucket breaker s.journal : Gate α).Mirrors front s.buckets.length s.breakers.length
      (Run.fresh (front.chain s.buckets.length s.breakers.length) (s.add bucket breaker)) := by
  constructor
  · rfl
  · constructor <;> simp [Stage.add, Run.fresh, fresh, Breaker.Run.fresh]
  · rfl
  · rfl
  · rfl

omit [Summarize α] in
theorem orderly_fresh (bucket : Bucket Float) (name : String) (settings : BreakerSettings) (counts : Fault → Bool)
    (journal : Journal) : (fresh bucket (.fresh name settings counts) journal : Gate α).Orderly :=
  ⟨Breaker.Run.sound_fresh (Breaker.consistent_fresh name settings counts 0), by simp [fresh], fun _ _ => rfl⟩

/-- Both standard chains do what their gate does, over every run of calls that arrive, end and are dropped while time passes:
without a token a call is throttled and nothing else hears of it, with one it comes to the breaker, and with a permit the
operation is called once and its end settles the permit. So the operation is never called while the breaker cools down. -/
theorem mirrors_every_run (front : Front) (s : Stage) (bucket : Bucket Float) (name : String) (settings : BreakerSettings)
    (counts : Fault → Bool) (events : List (Event α)) :
    let i := s.buckets.length
    let j := s.breakers.length
    let breaker := Breaker.fresh name settings counts
    let r : Run α := (Run.fresh (front.chain i j) (s.add bucket breaker)).after events
    let g : Gate α := (fresh bucket breaker s.journal).after front events
    g.Mirrors front i j r ∧ g.Orderly ∧
      ∀ t more, g.guard.breaker.phase = .opened → g.guard.breaker.openedAt = some t →
        (r.after more).now < t + settings.coolDown →
          (r.after more).stage.journal.invocations = r.stage.journal.invocations := by
  intro i j breaker r g
  obtain ⟨hmirrors, ho⟩ := mirrors_after (mirrors_fresh front s bucket breaker)
    (orderly_fresh bucket name settings counts s.journal) events
  refine ⟨hmirrors, ho, fun t more hp ht hnow => ?_⟩
  have hmore := (mirrors_after hmirrors ho more).1
  have hcoolDown : g.guard.breaker.settings.coolDown = settings.coolDown := by
    obtain ⟨es, hes⟩ := guard_after (fresh bucket breaker s.journal : Gate α) front events
    have hrules := (Breaker.Run.sameRules_after (.fresh breaker) es).settings
    simp only [g, hes]
    exact (congrArg BreakerSettings.coolDown hrules).trans rfl
  rw [hmore.stage.invocations, hmirrors.stage.invocations]
  apply invocations_after_opened ho hp ht more
  rw [hcoolDown, ← hmore.now]
  exact hnow

end Gate

end Campus.Pipeline
