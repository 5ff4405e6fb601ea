import Campus.Proofs.Desk.Entry
import Campus.Proofs.Node.Session

/-! # Answers

What a node answers to requests for its records, in whatever state it is. An answer carries what the operation came to, and nothing
else: its record, nothing for what is gone, or its fault under the status of the kind. A request that cannot be read is answered before
anything is done for it.
-/
namespace Campus

open Node

/-- The answer to a fault: its text in an envelope, under the status of its kind. -/
def Fault.told (f : Fault) : Http.Answer where
  status := f.kind.status
  contentType := some "application/json"
  allow := none
  body := Json.recordChars [("error", Json.stringChars f.message)]

/-- The answer that the result of an operation is to get. -/
inductive Honours : Except Fault Response → Http.Answer → Prop
  | done {r : Response} (h : r ≠ .deleted) : Honours (.ok r) ⟨200, some "application/json", none, r.write⟩
  | deleted : Honours (.ok .deleted) ⟨204, none, none, []⟩
  | failed (f : Fault) : Honours (.error f) f.told

theorem honours_ofResult (result : Except Fault Response) : Honours result (.ofResult result) := by
  rcases result with f | r
  · exact .failed f
  · cases r with
    | deleted => exact .deleted
    | _ => exact .done (by simp)

theorem Honours.status_eq_204_iff {result : Except Fault Response} {a : Http.Answer} (h : Honours result a) :
    a.status = 204 ↔ result = .ok .deleted := by
  cases h with
  | done hr => simpa using hr
  | deleted => simp
  | failed f =>
    have hkind : f.kind.status ≠ 204 := by cases f.kind <;> decide
    simpa [Fault.told] using hkind

namespace Session

variable {kind : ServiceKind} {s : Session} {e : Event} {request : Http.Request} {place : Http.Place} {id : String}

/-- What the answer to a request is about: what its operation came to, or why it cannot be read. -/
inductive Concerns (s : Session) (e : Event) (request : Http.Request) (place : Http.Place) (id : String) :
    Except Fault Response → Prop
  | operation {op : Operation} {result : Except Fault Response} (hasked : request.intent place id = .ok (.operation op))
      (hworked : s.worked e = some (request, .ended (.returned result))) : Concerns s e request place id result
  | refused {f : Fault} (hrefused : request.intent place id = .error f) : Concerns s e request place id (.error f)

/-- A request for the records of a service, with the id that is in its path. -/
structure Routed (kind : ServiceKind) (request : Http.Request) (place : Http.Place) (id : String) : Prop where
  found : Http.Place.locate? kind request.path = some place
  records : place.isProbe = false
  serves : place.methods.contains request.method = true
  named : Http.Request.idText place = .ok id

theorem Routed.leads (h : Routed kind request place id) : Http.Request.Leads kind (request.intent place id) :=
  Http.Request.leads_intent (Http.Place.isOf_of_locate? h.found h.records) id

theorem Routed.understand (h : Routed kind request place id) :
    request.understand kind = (request.intent place id).mapError Http.Answer.ofFault :=
  Http.Request.understand_at h.found h.serves h.named

/-- A request that cannot be read is answered at once, and nothing is done for it. -/
theorem Orderly.refuses (h : s.Orderly kind) (hrouted : Routed kind request place id) {f : Fault}
    (hrefused : request.intent place id = .error f) (network : Peer.Network) (now : Instant) (wall : Moment)
    (madeUp : String) :
    (∃ reason, f = .validation reason) ∧
      s.heard (.request network now wall madeUp request) = some (request, .answered (shape (request.method = "HEAD") f.told)) ∧
      s.step (.request network now wall madeUp request) = s := by
  have hunderstand : request.understand s.node.config.service = .error (.ofFault f) := by
    rw [h.service, hrouted.understand, hrefused]
    rfl
  have hleads := hrouted.leads
  rw [hrefused] at hleads
  cases hleads with
  | refused reason =>
    refine ⟨⟨reason, rfl⟩, ?_, ?_⟩
    · simp only [heard, receive_refused hunderstand]
      rfl
    · simp only [Session.step, receive_refused hunderstand, Session.note]

/-- An answer to a request for the records is the answer to the result of its operation, or to the fault that it cannot be read. -/
theorem Orderly.honours (h : s.Orderly kind) (hrouted : Routed kind request place id) {a : Http.Answer}
    (hheard : s.heard e = some (request, .answered a)) :
    ∃ result full, s.Concerns e request place id result ∧ (∀ method, result ≠ .error (.unknownMethod method)) ∧
      Honours result full ∧ a = shape (request.method = "HEAD") full := by
  have hunderstand := hrouted.understand
  cases h.steps e with
  | call hasked hadvances hplain hconfig hrest hstep hevent hworked =>
    obtain ⟨rfl, hprogress⟩ := Prod.mk.inj (Option.some.inj (hheard.symm.trans hevent))
    obtain ⟨result, hended, rfl⟩ := settle_answered hprogress.symm
    have hintent := Http.Request.eq_ok_of_mapError (hunderstand.symm.trans hasked)
    have hknown := hadvances.known
    rw [hended] at hworked hknown
    exact ⟨result, _, .operation hintent hworked, fun method hmethod => hknown method (congrArg _ hmethod),
      honours_ofResult result, rfl⟩
  | answered he hother hstep hevent hworked =>
    -- A request for the records that asks for no operation is one that cannot be read.
    obtain ⟨rfl, hprogress⟩ := Prod.mk.inj (Option.some.inj (hheard.symm.trans hevent))
    have hleads := hrouted.leads
    cases hintent : request.intent place id with
    | ok intent =>
      rw [hintent] at hleads hunderstand
      cases hleads with
      | asks => exact absurd hunderstand (hother _)
    | error f =>
      subst he
      obtain ⟨⟨reason, rfl⟩, hanswer, -⟩ := h.refuses hrouted hintent _ _ _ _
      obtain ⟨-, hanswered⟩ := Prod.mk.inj (Option.some.inj (hheard.symm.trans hanswer))
      exact ⟨_, _, .refused hintent, by rintro method ⟨⟩, .failed _, Node.Progress.answered.inj hanswered⟩
  | aside _ _ _ _ hevent => cases hheard.symm.trans hevent
  | records backend he =>
    subst he
    cases hheard

/-! ## A service that has no students yet -/

/-- An operation that its chain lets in, and that is settled from the records, is answered at once. -/
theorem heard_replied {s : Session} {request : Http.Request} {op : Operation} {now : Instant} {wall : Moment}
    {result : Except Fault Response} {b : Backend}
    (hasked : request.understand s.node.config.service = .ok (.operation op))
    (henter : (s.node.desk.enter? now op).isSome = true)
    (hreply : Service.handle s.node.desk.kind s.node.desk.link.isSome wall op.method op s.node.desk.backend = (.reply result, b))
    (network : Peer.Network) (madeUp : String) :
    s.worked (.request network now wall madeUp request) = some (request, .ended (.returned result)) ∧
      s.heard (.request network now wall madeUp request) =
        some (request, .answered (shape (request.method = "HEAD") (.ofResult result))) := by
  obtain ⟨⟨frames, stage⟩, henter⟩ := Option.isSome_iff_exists.mp henter
  obtain ⟨d', hstart⟩ : ∃ d', s.node.begin network now wall madeUp request op = (.ended (.returned result), d') :=
    Desk.start_replied henter rfl hreply
  constructor
  · simp only [worked, hasked, hstart]
  · simp only [heard, receive_operation hasked, hstart]
    rfl

def studentsNode : Node :=
  let config := ServerConfig.standard
  ⟨config, (Desk.bare .students (.sound .empty) config.fanOut).registerAll config 0, none, .fresh, .fresh, 60000000000, 0⟩

def listing (method : String) : Http.Request := ⟨method, "/students".toList, none, none, []⟩

/-- Someone asks a students service without students. -/
def asking (method : String) : Event :=
  .request (fun _ _ => .silent) 0 ⟨Moment.epoch, 36000, 750000000, by decide, by decide⟩ "r-1" (listing method)

theorem routed_listing {method : String} (hserves : Http.Place.students.methods.contains method = true) :
    Routed .students (listing method) .students "" := by
  have hfound : Http.Place.locate? .students (listing "GET").path = some .students := by decide +kernel
  exact ⟨hfound, rfl, hserves, rfl⟩

theorem heard_studentsNode (method : String)
    (hasked : (listing method).understand .students = .ok (.operation (.listStudents ⟨100, 0⟩))) :
    (fresh studentsNode).worked (asking method) = some (listing method, .ended (.returned (.ok (.students [])))) ∧
      (fresh studentsNode).heard (asking method) =
        some (listing method, .answered (shape (method = "HEAD") ⟨200, some "application/json", none, ['[', ']']⟩)) := by
  have hempty : Store.empty.listStudents ⟨100, 0⟩ = [] := by decide +kernel
  have hreply (wall : Moment) : Service.handle .students false wall "list_students" (.listStudents ⟨100, 0⟩) (.sound .empty) =
      (.reply (.ok (.students [])), .sound .empty) :=
    congrArg (fun list => (Service.Step.reply (.ok (.students list)), Backend.sound .empty)) hempty
  exact heard_replied hasked (by decide +kernel) (hreply _) _ _

/-! ## The contract -/

/-- In every state of a node, whatever its store is in, each answer to a request for the records is one of three: the record of the
operation, nothing for a deletion, or the text of a fault under the status of its kind, and the method is never unknown. Where only
the head is asked for the body is left out. A request that cannot be read is answered that way before anything is done for it. -/
theorem answers_follow_contract (config : ServerConfig) (requestTimeout : Span) (now : Instant) (n : Node)
    (hbuild : Node.build config requestTimeout now = .ok n) (events : List Event) (request : Http.Request) (place : Http.Place)
    (id : String) (hrouted : Routed config.service request place id) :
    let s := (fresh n).after events
    (∀ e a, s.heard e = some (request, .answered a) → ∃ result full, s.Concerns e request place id result ∧
      (∀ method, result ≠ .error (.unknownMethod method)) ∧ Honours result full ∧
        (full.status = 204 ↔ result = .ok .deleted) ∧ a = shape (request.method = "HEAD") full) ∧
    ∀ f, request.intent place id = .error f → (∃ reason, f = .validation reason) ∧ f.told.status = 400 ∧
      ∀ network now wall madeUp,
        s.heard (.request network now wall madeUp request) =
          some (request, .answered (shape (request.method = "HEAD") f.told)) ∧
        s.step (.request network now wall madeUp request) = s := by
  intro s
  have horderly : s.Orderly config.service := (orderly_fresh hbuild).after events
  refine ⟨fun e a hheard => ?_, fun f hrefused => ?_⟩
  · obtain ⟨result, full, hconcerns, hknown, hhonours, ha⟩ := horderly.honours hrouted hheard
    exact ⟨result, full, hconcerns, hknown, hhonours, hhonours.status_eq_204_iff, ha⟩
  · have hleads := hrouted.leads
    rw [hrefused] at hleads
    cases hleads with
    | refused reason =>
      exact ⟨⟨reason, rfl⟩, rfl, fun network now wall madeUp => (horderly.refuses hrouted hrefused network now wall madeUp).2⟩

/-- A list without students is answered with its text, and a student who is sent without a type is refused. -/
theorem answers_follow_contract_students :
    (∃ result full, (fresh studentsNode).Concerns (asking "GET") (listing "GET") .students "" result ∧ Honours result full ∧
      (fresh studentsNode).heard (asking "GET") = some (listing "GET", .answered full)) ∧
    (∃ reason, (fresh studentsNode).heard (asking "POST") = some (listing "POST", .answered (Fault.validation reason).told)) ∧
    (fresh studentsNode).step (asking "POST") = fresh studentsNode := by
  have hbuild : Node.build ServerConfig.standard 60000000000 0 = .ok studentsNode := rfl
  obtain ⟨-, hheard⟩ := heard_studentsNode "GET" (by decide +kernel)
  obtain ⟨hanswered, -⟩ := answers_follow_contract ServerConfig.standard 60000000000 0 studentsNode hbuild [] (listing "GET")
    .students "" (routed_listing (by decide))
  obtain ⟨-, hrefused⟩ := answers_follow_contract ServerConfig.standard 60000000000 0 studentsNode hbuild [] (listing "POST")
    .students "" (routed_listing (by decide))
  obtain ⟨result, full, hconcerns, -, hhonours, -, hfull⟩ := hanswered _ _ hheard
  obtain ⟨⟨reason, hreason⟩, -, hpost⟩ := hrefused _ rfl
  obtain ⟨hanswer, hstep⟩ := hpost (fun _ _ => .silent) 0 ⟨Moment.epoch, 36000, 750000000, by decide, by decide⟩ "r-1"
  refine ⟨⟨result, full, hconcerns, hhonours, ?_⟩, ⟨reason, ?_⟩, hstep⟩
  · rw [hheard, hfull]
    rfl
  · rw [← hreason]
    exact hanswer

/-- The head of a list has no body, though the list has. -/
theorem head_answer_lacks_body :
    Routed .students (listing "HEAD") .students "" ∧
      ∃ a, (fresh studentsNode).heard (asking "HEAD") = some (listing "HEAD", .answered a) ∧
        ∀ result, (fresh studentsNode).Concerns (asking "HEAD") (listing "HEAD") .students "" result → ¬Honours result a := by
  have hintent : (listing "HEAD").intent .students "" = .ok (.operation (.listStudents ⟨100, 0⟩)) := by decide +kernel
  obtain ⟨hworked, hheard⟩ := heard_studentsNode "HEAD" (by decide +kernel)
  refine ⟨routed_listing (by decide), _, hheard, ?_⟩
  rintro result (⟨-, hresult⟩ | hrefused)
  · rw [hworked] at hresult
    cases hresult
    rintro ⟨⟩
  · rw [hintent] at hrefused
    cases hrefused

end Session

end Campus
