import Campus.Proofs.Peer.Journey
import Campus.Proofs.Peer.Unsent
import Campus.Proofs.Wire

/-! # Faults from one service to another

A service answers a fault with the status of its kind and an envelope with its text. The service that asked reads a fault of its
own from them. What was not found and what was invalid stay that; every other fault makes the peer unavailable. The text of the
fault is never changed on the way.
-/
namespace Campus

namespace Fault

/-- A fault inside some fan-outs, each with its seed and what was asked for, the outermost first. -/
def nested (layers : List (String × String)) (f : Fault) : Fault :=
  layers.foldr (fun layer source => .aggregate layer.1 layer.2 source) f

/-- Whatever fan-outs a fault goes through, it is classified as before. -/
@[simp] theorem kind_nested (layers : List (String × String)) (f : Fault) : (f.nested layers).kind = f.kind := by
  induction layers with
  | nil => rfl
  | cons layer layers ih => exact ih

end Fault

namespace Peer

/-- The text of a fault is read off the answer that reports it. -/
theorem complaint_ofFault (f : Fault) : complaint (Http.Answer.ofFault f).bytes = f.message := by
  have henvelope := Wire.decodeGlyphs_places_utf8Bytes (ErrorEnvelope.mk f.message)
  change complaint (Text.utf8Bytes (Wire.write (ErrorEnvelope.mk f.message))) = f.message
  rw [complaint, henvelope]

theorem not_isSuccess_status (k : FaultKind) : Http.isSuccess k.status = false := by cases k <;> rfl

theorem not_isRedirect_status (k : FaultKind) : Http.isRedirect k.status = false := by cases k <;> rfl

/-- An answer that reports a fault is a refusal with the status and the text of the fault. -/
theorem interpret_ofFault {α : Type} [Wire α] (e : Endpoint) (id : String) (f : Fault) :
    (interpret e id (Http.Answer.ofFault f).status (Http.Answer.ofFault f).bytes : Except Fault α) =
      .error (refusal e id f.kind.status f.message) := by
  have hstatus : Http.isSuccess (Http.Answer.ofFault f).status = false := not_isSuccess_status f.kind
  rw [interpret, hstatus, complaint_ofFault]
  rfl

/-! ## What a refusal means -/

section Refusal

variable (e : Endpoint) (id : String) (message : String)

theorem refusal_notFound : refusal e id FaultKind.notFound.status message = .notFound e.entity id := rfl

theorem refusal_validation : refusal e id FaultKind.validation.status message =
    .validation s!"{e.dependency} rejected {Text.quote id}: {message}" := rfl

/-- Only two kinds of faults are statuses that say something about the request. -/
theorem refusal_other {k : FaultKind} (hfound : k ≠ .notFound) (hvalid : k ≠ .validation) :
    refusal e id k.status message = .remoteUnavailable e.dependency s!"{Http.statusText k.status}: {message}" := by
  cases k with
  | notFound => exact absurd rfl hfound
  | validation => exact absurd rfl hvalid
  | _ => rfl

/-- A refusal counts against the peer unless it says that the request was invalid or found nothing. -/
theorem isDependencyFailure_refusal (k : FaultKind) :
    (refusal e id k.status message).isDependencyFailure = true ↔ k ≠ .validation ∧ k ≠ .notFound := by
  by_cases hfound : k = .notFound
  · simp [hfound, refusal_notFound, Fault.isDependencyFailure, Fault.kind, FaultKind.isDependencyFailure]
  · by_cases hvalid : k = .validation
    · simp [hvalid, refusal_validation, Fault.isDependencyFailure, Fault.kind, FaultKind.isDependencyFailure]
    · simp [hfound, hvalid, refusal_other, Fault.isDependencyFailure, Fault.kind, FaultKind.isDependencyFailure]

theorem kind_refusal (status : Nat) (other : String) :
    (refusal e id status message).kind = (refusal e id status other).kind := by
  unfold refusal
  split_ifs <;> rfl

end Refusal

/-! ## A fault that a peer answers -/

/-- An answer that is complete before the deadline and before the caller is cancelled decides a request. -/
theorem race_in_time {α : Type} (e : Endpoint) {now after deadline : Instant} {stop : Option Instant}
    (h : now + after < deadline) (hstop : ∀ c ∈ stop, now + after < c) (result : Except Fault α) :
    race e now deadline stop (some (now + after, result)) = ⟨true, after, .returned result⟩ := by
  rw [race_replied (Nat.le_add_right now after) h, Nat.add_sub_cancel_left]
  cases stop with
  | none => rfl
  | some c => exact if_neg (Nat.not_le.mpr (hstop c rfl))

/-- A request that is sent ends as its answer says, when that leads nowhere and is complete in time. -/
theorem exchange_answered {α : Type} [Wire α] {network : Network} {e : Endpoint} {d : Destination} {now after : Instant}
    {stop : Option Instant} {ts : Tokens} {context : Context} {id : String} {url : Url} {status : Nat} {location : Option Url}
    {body : List UInt8} (hurl : d.path.resolve d.base id = .ok url) (hsendable : isSendable url.withoutCredentials = true)
    (hrequest : context.requestId.all Http.isHeaderValue = true) (halive : ts.isCancelled context.token = false)
    (hanswer : network now ⟨url, context.requestId⟩ = .answered after status location body)
    (hlast : Http.isRedirect status = false) (htime : now + after < context.deadline) (hstop : ∀ c ∈ stop, now + after < c) :
    exchange network e d now stop ts context id = ⟨true, after, .returned (interpret (α := α) e id status body)⟩ := by
  have hlater : now < context.deadline := Nat.lt_of_le_of_lt (Nat.le_add_right now _) htime
  have hprepare := prepares_iff.mp (.ready (e := e) hurl halive hlater hrequest hsendable)
  simp only [exchange, hprepare, follow_answered hanswer hlast, Option.map_some, outcome]
  exact race_in_time e htime hstop _

/-- A fault that a peer answers in time keeps its meaning and its text, and no fan-out it went through matters for that. -/
theorem exchange_relays_fault {α : Type} [Wire α] {network : Network} {e : Endpoint} {d : Destination} {now after : Instant}
    {stop : Option Instant} {ts : Tokens} {context : Context} {id : String} {url : Url} {location : Option Url} (f : Fault)
    (hurl : d.path.resolve d.base id = .ok url) (hsendable : isSendable url.withoutCredentials = true)
    (hrequest : context.requestId.all Http.isHeaderValue = true) (halive : ts.isCancelled context.token = false)
    (hanswer : network now ⟨url, context.requestId⟩ =
      .answered after (Http.Answer.ofFault f).status location (Http.Answer.ofFault f).bytes)
    (htime : now + after < context.deadline) (hstop : ∀ c ∈ stop, now + after < c) :
    ∃ fault : Fault, exchange network e d now stop ts context id = (⟨true, after, .returned (.error fault)⟩ : Attempt α) ∧
      (f.kind = .notFound → fault = .notFound e.entity id) ∧
      (f.kind = .validation → fault = .validation s!"{e.dependency} rejected {Text.quote id}: {f.message}") ∧
      (f.kind ≠ .notFound → f.kind ≠ .validation →
        fault = .remoteUnavailable e.dependency s!"{Http.statusText f.kind.status}: {f.message}") ∧
      (fault.isDependencyFailure = true ↔ f.kind ≠ .validation ∧ f.kind ≠ .notFound) ∧
      ∀ layers, (f.nested layers).kind = f.kind ∧ (Http.Answer.ofFault (f.nested layers)).status = f.kind.status ∧
        (f.nested layers).kind.label = f.kind.label ∧ (f.nested layers).isDependencyFailure = f.isDependencyFailure ∧
        ∃ fault' : Fault, (interpret e id (Http.Answer.ofFault (f.nested layers)).status
          (Http.Answer.ofFault (f.nested layers)).bytes : Except Fault α) = .error fault' ∧ fault'.kind = fault.kind := by
  have hexchange := exchange_answered (α := α) (e := e) hurl hsendable hrequest halive hanswer
    (not_isRedirect_status f.kind) htime hstop
  rw [interpret_ofFault] at hexchange
  refine ⟨_, hexchange, fun hfound => ?_, fun hvalid => ?_, fun hfound hvalid => ?_, ?_, fun layers => ?_⟩
  · rw [hfound, refusal_notFound]
  · rw [hvalid, refusal_validation]
  · rw [refusal_other e id f.message hfound hvalid]
  · exact isDependencyFailure_refusal e id f.message f.kind
  · have hkind := Fault.kind_nested layers f
    have hstatus : (Http.Answer.ofFault (f.nested layers)).status = f.kind.status := congrArg FaultKind.status hkind
    refine ⟨hkind, hstatus, congrArg FaultKind.label hkind, congrArg FaultKind.isDependencyFailure hkind, _,
      interpret_ofFault e id (f.nested layers), ?_⟩
    rw [hkind]
    exact kind_refusal e id _ _ _

/-- A peer that is throttled inside a fan-out is unavailable to its caller, who gets the text with its quotes. -/
theorem exchange_relays_throttled :
    let f : Fault := .aggregate "student 1" "course 7" (.throttled "get \"course\"")
    let network : Network := fun _ _ => .answered 5 (Http.Answer.ofFault f).status none (Http.Answer.ofFault f).bytes
    let context := Context.opened 1 "students" "get_student_courses" 0 10 none
    (∃ url, courseDestination.path.resolve courseDestination.base "7" = .ok url ∧ isSendable url.withoutCredentials = true) ∧
      context.requestId.all Http.isHeaderValue = true ∧ Tokens.fresh.isCancelled context.token = false ∧
      5 < context.deadline ∧
      exchange network courseEndpoint courseDestination 0 none Tokens.fresh context "7" =
        (⟨true, 5, .returned (.error (.remoteUnavailable "courses"
          "429 Too Many Requests: resolving course 7 for student 1 failed: rate limit exceeded for get \"course\""))⟩ :
          Attempt Course) := by
  intro f network context
  obtain ⟨url, hurl, hsendable⟩ : ∃ url, courseDestination.path.resolve courseDestination.base "7" = .ok url ∧
      isSendable url.withoutCredentials = true := ⟨_, rfl, by decide⟩
  have halive : Tokens.fresh.isCancelled context.token = false := rfl
  have hanswer : network 0 ⟨url, context.requestId⟩ =
      .answered 5 (Http.Answer.ofFault f).status none (Http.Answer.ofFault f).bytes := rfl
  have htime : 0 + 5 < context.deadline := by decide
  have hstop : ∀ c ∈ (none : Option Instant), 0 + 5 < c := by simp
  have htext : s!"{Http.statusText f.kind.status}: {f.message}" =
      "429 Too Many Requests: resolving course 7 for student 1 failed: rate limit exceeded for get \"course\"" := by
    decide +kernel
  obtain ⟨fault, hexchange, -, -, hother, -⟩ :=
    exchange_relays_fault (α := Course) (e := courseEndpoint) f hurl hsendable rfl halive hanswer htime hstop
  rw [hexchange, hother (by decide) (by decide), htext]
  exact ⟨⟨url, hurl, hsendable⟩, rfl, halive, htime, rfl⟩

end Peer

end Campus
