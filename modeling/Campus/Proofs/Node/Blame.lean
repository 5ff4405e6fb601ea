import Campus.Proofs.Node.Session

/-! # Endpoints that callers cannot shut

Whatever is asked of a node, the breaker of a method counts only what says something about the sibling or about the service: a call that
could not be made or was not answered, or a probe that came to no end. Bad requests do not count, nor do clients that go away. A method
that never asks the sibling has a breaker that nobody can open.
-/
namespace Campus.Session

open Pipeline Node

variable {kind : ServiceKind} {s : Session} {e : Event} {method : String}

/-- A breaker counts the faults of five kinds. -/
theorem isDependencyFailure_iff (k : FaultKind) : k.isDependencyFailure = true ↔
    k ∈ [.circuitOpen, .remoteTimeout, .remoteUnavailable, .configuration, .internal] := by
  cases k <;> decide

/-- Why an event may raise the failures of the breaker of a method: the operation of a request for it ended with a fault that says
something about what was called, or it had the probe and came to no end of its own. -/
inductive Blames (method : String) (s : Session) (e : Event) : Prop
  | result {request : Http.Request} {op : Operation} {f : Fault}
      (hasked : request.understand s.node.config.service = .ok (.operation op)) (hmethod : op.method = method)
      (hworked : s.worked e = some (request, .ended (.returned (.error f))))
      (hkind : f.kind ∈ [.circuitOpen, .remoteTimeout, .remoteUnavailable, .configuration, .internal])
  | probe {request : Http.Request} {op : Operation} {ending : Ending Response}
      (hasked : request.understand s.node.config.service = .ok (.operation op)) (hmethod : op.method = method)
      (hworked : s.worked e = some (request, .ended ending)) (hunfinished : ending.verdict = .unfinished)
      (hpermit : s.permit? method e = some ⟨true⟩)

theorem eq_error_of_failed {ending : Ending Response} {f : Fault} (h : ending.verdict = .failed f) :
    ending = .returned (.error f) := by
  cases ending with
  | returned result =>
    cases result with
    | ok response => cases h
    | error fault => rw [Verdict.failed.inj h]
  | panicked text => cases h
  | dropped => cases h

/-- Ends that count against a breaker of a method are faults of five kinds, or ends of a probe. -/
theorem blames_of_breaker {b : Breaker} (hcounts : b.counts = Fault.isDependencyFailure) {request : Http.Request}
    {op : Operation} (hasked : request.understand s.node.config.service = .ok (.operation op)) (hmethod : op.method = method)
    {ending : Ending Response} (hworked : s.worked e = some (request, .ended ending)) {permit : Permit}
    (hpermit : s.permit? method e = some permit) (h : b.Blames permit ending.verdict) : s.Blames method e := by
  generalize hverdict : ending.verdict = v at h
  cases h with
  | @failed fault hfault =>
    rw [hcounts, Fault.isDependencyFailure, isDependencyFailure_iff] at hfault
    obtain rfl := eq_error_of_failed hverdict
    exact .result hasked hmethod hworked hfault
  | unfinished hprobe =>
    obtain ⟨probe⟩ := permit
    obtain rfl : probe = true := hprobe
    exact .probe hasked hmethod hworked hverdict hpermit

/-- The failures of a method rise for those reasons only. -/
theorem Orderly.blames (h : s.Orderly kind) (hmethod : method ∈ Service.methods kind) (e : Event) :
    ∃ b b', s.breaker? method = some b ∧ (s.step e).breaker? method = some b' ∧
      (b.failures < b'.failures → s.Blames method e) := by
  obtain ⟨bucket, b, hstage, hcounts⟩ := h.guarded hmethod
  have hknown : method ∈ Service.methods s.node.desk.kind := h.role.symm ▸ hmethod
  have hbreaker : s.breaker? method = some b := h.arranged.breaker? rfl hknown hstage
  have hsame (hstays : (s.step e).breaker? method = s.breaker? method) : ∃ b b', s.breaker? method = some b ∧
      (s.step e).breaker? method = some b' ∧ (b.failures < b'.failures → s.Blames method e) :=
    ⟨b, b, hbreaker, hstays.trans hbreaker, fun hlt => absurd hlt (UInt32.lt_irrefl _)⟩
  cases h.steps e with
  | @call request op now limit admission r n rest hasked hadvances hplain hconfig hrest hstep hheard hworked horigin hpermit =>
    obtain ⟨bucket', b', hafter, hrules, hrise⟩ := hadvances.breaker_after hplain hknown hstage
    have hlater : (s.step e).breaker? method = some b' := by
      rw [hstep, Session.breaker?, desk_note]
      exact h.arranged.breaker? hadvances.fixtures hknown hafter
    refine ⟨b, b', hbreaker, hlater, fun hlt => ?_⟩
    obtain ⟨hown, entered, permit, ending, hadmission, hended, hblames⟩ := hrise hlt
    rw [hended] at hworked
    have hentered : entered.counts = Fault.isDependencyFailure := (hplain.rules hadmission).counts.trans hcounts
    have hbefore : s.breaker? op.method = some b := hown ▸ hbreaker
    exact blames_of_breaker hentered (h.service.symm ▸ hasked) hown.symm hworked
      (hown.symm ▸ hpermit b entered permit hbefore hadmission) hblames
  | answered _ _ hstep _ _ => exact hsame (by rw [hstep])
  | aside hconfig hfixtures hplaces hstep _ _ =>
    refine hsame ?_
    rw [hstep, hbreaker]
    exact h.arranged.breaker? hfixtures hknown (hplaces hstage)
  | records backend he =>
    subst he
    exact hsame rfl

/-! ## Methods that never ask the sibling -/

/-- A node whose store is in order, with unhurt breakers for the methods that never ask the sibling. No request for these waits. -/
structure Healthy (kind : ServiceKind) (s : Session) : Prop extends Orderly kind s where
  sound : s.node.desk.backend.outage = none
  away {w : Waiting} : w ∈ s.waiting → w.opened.pending.context.method ∈ Service.peerMethods kind
  unhurt {method : String} : method ∈ Service.methods kind → method ∉ Service.peerMethods kind →
    ∃ b, s.breaker? method = some b ∧ b.Unhurt

theorem Healthy.guarded_local (h : s.Healthy kind) (hmethod : method ∈ Service.methods kind)
    (hlocal : method ∉ Service.peerMethods kind) : ∃ bucket breaker,
      s.node.desk.stage.Holds (s.node.desk.place method) bucket breaker ∧ breaker.counts = Fault.isDependencyFailure ∧
        breaker.Unhurt := by
  obtain ⟨bucket, breaker, hstage, hcounts⟩ := h.guarded hmethod
  obtain ⟨b, hb, hunhurt⟩ := h.unhurt hmethod hlocal
  have hbreaker : s.breaker? method = some breaker := h.arranged.breaker? rfl (h.role.symm ▸ hmethod) hstage
  obtain rfl : breaker = b := Option.some.inj (hbreaker.symm.trans hb)
  exact ⟨bucket, breaker, hstage, hcounts, hunhurt⟩

/-- A method that never asks the sibling is answered at once, and not because of its breaker. -/
theorem Healthy.worked_local (h : s.Healthy kind) {request : Http.Request} {op : Operation}
    (hasked : request.understand kind = .ok (.operation op)) (hlocal : op.method ∉ Service.peerMethods kind)
    (network : Peer.Network) (now : Instant) (wall : Moment) (madeUp : String) :
    ∃ result, (s.node.begin network now wall madeUp request op).1 = .ended (.returned result) ∧
      ∀ f, result = .error f → f.kind ∈ [.throttled, .validation, .notFound] := by
  have hknown := Http.Request.mem_methods_of_understand hasked
  obtain ⟨bucket, breaker, hstage, -, hunhurt⟩ := h.guarded_local hknown hlocal
  exact Desk.start_local h.arranged (h.role.symm ▸ hknown) (h.role.symm ▸ hlocal) h.sound rfl hstage hunhurt

theorem Healthy.away_of_waiting (h : s.Healthy kind) {request : Http.Request} {op : Operation}
    (hasked : request.understand kind = .ok (.operation op)) {now : Instant} {r : Desk.Progress × Desk}
    (horigin : s.Origin e request op now r) {p : Desk.Pending} (hp : r.1 = .waiting p) :
    op.method ∈ Service.peerMethods kind := by
  cases horigin with
  | @entered network wall madeUp _ hr =>
    by_contra hlocal
    obtain ⟨result, hended, -⟩ := h.worked_local hasked hlocal network now wall madeUp
    rw [hr, hended] at hp
    cases hp
  | waited hw hmethod => exact hmethod ▸ h.away hw

/-- After a step of a call the breakers of the methods that never ask the sibling are still unhurt. -/
theorem Healthy.unhurt_after (h : s.Healthy kind) {request : Http.Request} {op : Operation} {now : Instant}
    {admission : Desk.Admission} {r : Desk.Progress × Desk} (hadvances : Desk.Advances s.node.desk op.method now admission r)
    (horigin : s.Origin e request op now r) (hmethod : method ∈ Service.methods kind)
    (hlocal : method ∉ Service.peerMethods kind) :
    ∃ bucket breaker, r.2.stage.Holds (s.node.desk.place method) bucket breaker ∧ breaker.Unhurt := by
  obtain ⟨bucket, breaker, hstage, hcounts, hunhurt⟩ := h.guarded_local hmethod hlocal
  have hknown : method ∈ Service.methods s.node.desk.kind := h.role.symm ▸ hmethod
  -- Only the breaker of the method of the call can change, and a call of a local method is over as soon as it comes.
  by_cases hown : method = op.method
  case neg => exact ⟨bucket, breaker, (hadvances.others hknown hown hstage).1, hunhurt⟩
  subst hown
  cases horigin with
  | @entered network wall madeUp _ hr =>
    rw [hr]
    exact Desk.unhurt_start_local h.arranged (Peers.known_across network s.node.sibling) hknown (h.role.symm ▸ hlocal)
      h.sound rfl hstage hcounts hunhurt
  | waited hw hmethod => exact absurd (hmethod ▸ h.away hw) hlocal

theorem Healthy.step (h : s.Healthy kind) (hspares : e.sparesRecords = true) : (s.step e).Healthy kind := by
  have horderly := h.toOrderly.step e
  cases h.toOrderly.steps e with
  | @call request op now limit admission r n rest hasked hadvances hplain hconfig hrest hstep hheard hworked horigin hpermit =>
    refine ⟨horderly, ?_, fun {w} hw => ?_, fun {m} hm hlocal => ?_⟩
    · rw [hstep, desk_note, Desk.outage_of_fixtures hadvances.fixtures]
      exact h.sound
    · rw [hstep] at hw
      rcases mem_note hw with hw | ⟨p, hp, rfl⟩
      · exact h.away (hrest w hw)
      · exact (hadvances.context hp).symm ▸ h.away_of_waiting hasked horigin hp
    · obtain ⟨bucket, breaker, hstage, hunhurt⟩ := h.unhurt_after hadvances horigin hm hlocal
      refine ⟨breaker, ?_, hunhurt⟩
      rw [hstep, Session.breaker?, desk_note]
      exact h.arranged.breaker? hadvances.fixtures (h.role.symm ▸ hm) hstage
  | answered _ _ hstep _ _ =>
    rw [hstep]
    exact h
  | aside hconfig hfixtures hplaces hstep _ _ =>
    rw [hstep] at horderly ⊢
    refine ⟨horderly, (Desk.outage_of_fixtures hfixtures).trans h.sound, h.away, fun {m} hm hlocal => ?_⟩
    obtain ⟨bucket, breaker, hstage, -, hunhurt⟩ := h.guarded_local hm hlocal
    exact ⟨breaker, h.arranged.breaker? hfixtures (h.role.symm ▸ hm) (hplaces hstage), hunhurt⟩
  | records backend he =>
    subst he
    cases hspares

theorem Healthy.after (h : s.Healthy kind) {events : List Event} (hevents : ∀ e ∈ events, e.sparesRecords = true) :
    (s.after events).Healthy kind := by
  induction events generalizing s with
  | nil => exact h
  | cons e events ih =>
    obtain ⟨he, hevents⟩ := List.forall_mem_cons.mp hevents
    exact ih (h.step he) hevents

theorem healthy_fresh {config : ServerConfig} {requestTimeout : Span} {now : Instant} {n : Node}
    (hbuild : Node.build config requestTimeout now = .ok n) : (fresh n).Healthy config.service := by
  obtain ⟨-, h⟩ := built_of_build hbuild
  refine ⟨orderly_fresh hbuild, congrArg Backend.outage h.backend, by rintro w ⟨⟩, fun {method} hmethod _ => ?_⟩
  rw [← h.kind] at hmethod
  exact ⟨_, h.toArranged.breaker? rfl hmethod (h.holds hmethod), Breaker.unhurt_fresh ..⟩

/-- However requests come, go on and are given up at a node, the failures of a method rise only because of a result of five kinds, or
because a probe was dropped. A method that never asks the sibling stays closed without failures, and its requests are answered at once,
never with the fault of an open breaker. -/
theorem callers_cannot_shut_endpoints (config : ServerConfig) (requestTimeout : Span) (now : Instant) (n : Node)
    (hbuild : Node.build config requestTimeout now = .ok n) (events : List Event)
    (hevents : ∀ e ∈ events, e.sparesRecords = true) (method : String) (hmethod : method ∈ Service.methods config.service) :
    let s := (fresh n).after events
    (∀ e : Event, ∃ b b', s.breaker? method = some b ∧ (s.step e).breaker? method = some b' ∧
      (b.failures < b'.failures → s.Blames method e)) ∧
    (method ∉ Service.peerMethods config.service →
      (∃ b, s.breaker? method = some b ∧ b.phase = .closed ∧ b.failures = 0) ∧
      ∀ (network : Peer.Network) (now : Instant) (wall : Moment) (madeUp : String) (request : Http.Request) (op : Operation),
        request.understand config.service = .ok (.operation op) → op.method = method →
          ∃ result, s.worked (.request network now wall madeUp request) = some (request, .ended (.returned result)) ∧
            s.heard (.request network now wall madeUp request) =
              some (request, .answered (shape (request.method = "HEAD") (.ofResult result))) ∧
            ∀ f, result = .error f → f.kind ≠ .circuitOpen) := by
  intro s
  have hhealthy : s.Healthy config.service := (healthy_fresh hbuild).after hevents
  refine ⟨fun e => hhealthy.toOrderly.blames hmethod e, fun hlocal => ⟨?_, ?_⟩⟩
  · obtain ⟨b, hb, hunhurt⟩ := hhealthy.unhurt hmethod hlocal
    exact ⟨b, hb, hunhurt.phase, hunhurt.failures⟩
  · rintro network now wall madeUp request op hasked rfl
    obtain ⟨result, hended, hfaults⟩ := hhealthy.worked_local hasked hlocal network now wall madeUp
    have hunderstand : request.understand s.node.config.service = .ok (.operation op) := hhealthy.service.symm ▸ hasked
    refine ⟨result, ?_, ?_, fun f hf hopen => ?_⟩
    · simp only [worked, hunderstand, hended]
    · simp only [heard, receive_operation hunderstand]
      generalize s.node.begin network now wall madeUp request op = r at hended
      obtain ⟨progress, d⟩ := r
      obtain rfl : progress = .ended (.returned result) := hended
      rfl
    · have hkind := hfaults f hf
      rw [hopen] at hkind
      exact absurd hkind (by decide)

def accountsNode : Node :=
  let config := { ServerConfig.standard with service := .accounts }
  ⟨config, (Desk.bare .accounts (.sound .empty) config.fanOut).registerAll config 0, none, .fresh, .fresh, 60000000000, 0⟩

/-- A client asks for an account whose name cannot be one, and once more when it has no token left. -/
theorem callers_cannot_shut_accounts :
    let request : Http.Request := ⟨"GET", "/accounts/a%20b".toList, none, none, []⟩
    let asks : Event := .request (fun _ _ => .silent) 1 ⟨Moment.epoch, 0, 0, by decide, by decide⟩ "r-1" request
    let s := (fresh accountsNode).after [asks, asks]
    (∃ b, s.breaker? "get_account" = some b ∧ b.phase = .closed ∧ b.failures = 0) ∧
      ∃ result, s.heard asks = some (request, .answered (.ofResult result)) ∧ ∀ f, result = .error f → f.kind ≠ .circuitOpen := by
  intro request asks s
  have hbuild : Node.build { ServerConfig.standard with service := .accounts } 60000000000 0 = .ok accountsNode := rfl
  obtain ⟨-, hlocal⟩ := callers_cannot_shut_endpoints _ 60000000000 0 accountsNode hbuild [asks, asks]
    (by simp [asks, Event.sparesRecords]) "get_account" (by decide)
  obtain ⟨hclosed, hanswers⟩ := hlocal (by decide)
  obtain ⟨result, -, hheard, hfaults⟩ := hanswers (fun _ _ => .silent) 1
    ⟨Moment.epoch, 0, 0, by decide, by decide⟩ "r-1" request (.getAccount "a b") (by decide +kernel) rfl
  exact ⟨hclosed, result, hheard, hfaults⟩

end Campus.Session
