import Campus.Proofs.Desk.Advance
import Campus.Proofs.Http.Routes

/-! # Nodes at work

A node with the requests that wait for its sibling. Requests come in, go on when a wait is over, and are given up by those who sent them
or because they take too long, in any order and overlapping in any way. Each of these is one step of a call at the desk, or it does not
come to the desk at all.
-/
namespace Campus

open Pipeline

namespace Node

def passedId (madeUp : String) (request : Http.Request) : Option String :=
  let id := request.requestId.getD madeUp
  if Http.isPlainValue id then some id else none

def begin (network : Peer.Network) (now : Instant) (wall : Moment) (madeUp : String) (request : Http.Request) (op : Operation)
    (n : Node) : Desk.Progress × Desk :=
  n.desk.start (.across network n.sibling) none now wall
    (n.intake.openCall n.config now op.method (passedId madeUp request)).1 .fresh op

def taken (n : Node) : Node := { n with intake := ⟨n.intake.next + 1⟩, lifecycle := n.lifecycle.enter }

theorem receive_operation {n : Node} {request : Http.Request} {op : Operation}
    (h : request.understand n.config.service = .ok (.operation op)) (network : Peer.Network) (now : Instant) (wall : Moment)
    (madeUp : String) :
    n.receive network now wall madeUp request =
      settle (request.method = "HEAD") (now + n.requestTimeout) (n.begin network now wall madeUp request op) n.taken := by
  simp only [receive, h]
  rfl

/-- A request that does not ask for an operation is answered, and the node is as if it had not come. -/
theorem receive_other {n : Node} {request : Http.Request}
    (h : ∀ op, request.understand n.config.service ≠ .ok (.operation op)) (network : Peer.Network) (now : Instant) (wall : Moment)
    (madeUp : String) : ∃ a, n.receive network now wall madeUp request = (.answered a, n) := by
  unfold receive
  dsimp only
  split
  case h_5 op hop => exact absurd hop (h op)
  all_goals exact ⟨_, rfl⟩

/-- A request that cannot be read gets its answer at once, and so does one that leads nowhere. -/
theorem receive_refused {n : Node} {request : Http.Request} {a : Http.Answer}
    (h : request.understand n.config.service = .error a) (network : Peer.Network) (now : Instant) (wall : Moment)
    (madeUp : String) :
    n.receive network now wall madeUp request = (.answered (shape (request.method = "HEAD") a), n) := by
  simp only [receive, h]

theorem settle_answered {headOnly : Bool} {limit : Instant} {r : Desk.Progress × Desk} {n : Node} {a : Http.Answer}
    (h : (settle headOnly limit r n).1 = .answered a) :
    ∃ result, r.1 = .ended (.returned result) ∧ a = shape headOnly (.ofResult result) := by
  obtain ⟨⟨ending⟩ | p, d⟩ := r
  · cases ending with
    | returned result =>
      cases h
      exact ⟨result, rfl, rfl⟩
    | panicked text => cases h
    | dropped => cases h
  · cases h

structure Waiting where
  request : Http.Request
  opened : Open

end Node

open Node in
structure Session where
  node : Node
  waiting : List Waiting

namespace Session

open Node

def fresh (n : Node) : Session := ⟨n, []⟩

inductive Event where
  /-- A request comes in. -/
  | request (network : Peer.Network) (now : Instant) (wall : Moment) (madeUp : String) (request : Http.Request)
  /-- The wait of a request is over. -/
  | proceed (index : Nat) (network : Peer.Network) (now : Instant) (wall : Moment)
  /-- The one who sent a request is gone, or has waited too long. -/
  | giveUp (index : Nat) (now : Instant)
  /-- The node begins or ends its life. -/
  | turn (change : Lifecycle → Lifecycle)
  /-- What was torn down is swept. -/
  | sweep (now : Instant)
  /-- The store changes from elsewhere, or gets out of order. -/
  | records (backend : Backend)

/-- Whether an event leaves the store to the requests. -/
def Event.sparesRecords : Event → Bool
  | .records _ => false
  | _ => true

/-- Takes note of how far a request is, beside those that wait. -/
def note (waiting : List Waiting) (request : Http.Request) : Node.Progress × Node → Session
  | (.waiting o, n) => ⟨n, waiting ++ [⟨request, o⟩]⟩
  | (_, n) => ⟨n, waiting⟩

def step (s : Session) : Event → Session
  | .request network now wall madeUp request => note s.waiting request (s.node.receive network now wall madeUp request)
  | .proceed i network now wall =>
    match s.waiting[i]? with
    | some w => note (s.waiting.eraseIdx i) w.request (s.node.proceed network now wall w.opened)
    | none => s
  | .giveUp i now =>
    match s.waiting[i]? with
    | some w => ⟨s.node.giveUp now w.opened, s.waiting.eraseIdx i⟩
    | none => s
  | .turn change => { s with node := { s.node with lifecycle := change s.node.lifecycle } }
  | .sweep now => { s with node := s.node.sweep now }
  | .records backend => { s with node := { s.node with desk := { s.node.desk with backend } } }

def after (s : Session) (events : List Event) : Session := events.foldl step s

/-- The request that an event is about, and how far it is then. One that is given up is not answered. -/
def heard (s : Session) : Event → Option (Http.Request × Node.Progress)
  | .request network now wall madeUp request => some (request, (s.node.receive network now wall madeUp request).1)
  | .proceed i network now wall => s.waiting[i]?.map fun w => (w.request, (s.node.proceed network now wall w.opened).1)
  | .giveUp i _ => s.waiting[i]?.map fun w => (w.request, .broken)
  | _ => none

/-- The request whose operation an event is about, and how far the operation is then. -/
def worked (s : Session) : Event → Option (Http.Request × Desk.Progress)
  | .request network now wall madeUp request =>
    match request.understand s.node.config.service with
    | .ok (.operation op) => some (request, (s.node.begin network now wall madeUp request op).1)
    | _ => none
  | .proceed i network now wall =>
    s.waiting[i]?.map fun w =>
      (w.request, (Desk.proceed (.across network s.node.sibling) now wall w.opened.pending s.node.desk).1)
  | .giveUp i _ => s.waiting[i]?.map fun w => (w.request, .ended .dropped)
  | _ => none

def breaker? (s : Session) (method : String) : Option Breaker := s.node.desk.breaker? method

/-- The permit of the breaker of a method that the call of an event has. -/
def permit? (s : Session) (method : String) : Event → Option Permit
  | .request _ now _ _ _ => (s.breaker? method).bind fun b => (b.acquire now).1
  | .proceed i _ _ _ | .giveUp i _ =>
    (s.node.desk.breakerPlace? method).bind fun place =>
      s.waiting[i]?.bind fun w => (permitsAt place w.opened.pending.frames).head?
  | _ => none

/-! ## What one event does -/

/-- A request that waits at a desk for the end of its operation. -/
structure Waits (kind : ServiceKind) (d : Desk) (w : Waiting) : Prop where
  asked : ∃ op, w.request.understand kind = .ok (.operation op) ∧ w.opened.pending.context.method = op.method
  headOnly : w.opened.headOnly = decide (w.request.method = "HEAD")
  stands : ∃ permit, w.opened.pending.Stands d permit

/-- A node of a kind of service whose methods have chains of their own, with the requests that wait for those. -/
structure Orderly (kind : ServiceKind) (s : Session) : Prop where
  service : s.node.config.service = kind
  role : s.node.desk.kind = kind
  arranged : s.node.desk.Arranged
  guarded {method : String} : method ∈ Service.methods kind → ∃ bucket breaker,
    s.node.desk.stage.Holds (s.node.desk.place method) bucket breaker ∧ breaker.counts = Fault.isDependencyFailure
  waits {w : Waiting} : w ∈ s.waiting → Waits kind s.node.desk w

/-- Where a step of a call comes from: the request comes in, or it has been waiting. -/
inductive Origin (s : Session) (e : Event) (request : Http.Request) (op : Operation) (now : Instant) (r : Desk.Progress × Desk) :
    Prop
  | entered {network : Peer.Network} {wall : Moment} {madeUp : String} (he : e = .request network now wall madeUp request)
      (hr : r = s.node.begin network now wall madeUp request op) : Origin s e request op now r
  | waited {w : Waiting} (hw : w ∈ s.waiting) (hmethod : w.opened.pending.context.method = op.method) :
      Origin s e request op now r

/-- What an event does: it is a step of a call, or it does nothing to the calls. -/
inductive Steps (kind : ServiceKind) (s : Session) (e : Event) : Prop
  | call {request : Http.Request} {op : Operation} {now limit : Instant} {admission : Desk.Admission} {r : Desk.Progress × Desk}
      {n : Node} {rest : List Waiting} (hasked : request.understand kind = .ok (.operation op))
      (hadvances : Desk.Advances s.node.desk op.method now admission r) (hplain : admission.Plain)
      (hconfig : n.config = s.node.config) (hrest : ∀ w ∈ rest, w ∈ s.waiting)
      (hstep : s.step e = note rest request (Node.settle (request.method = "HEAD") limit r n))
      (hheard : s.heard e = some (request, (Node.settle (request.method = "HEAD") limit r n).1))
      (hworked : s.worked e = some (request, r.1))
      (horigin : s.Origin e request op now r)
      (hpermit : ∀ b b' p, s.breaker? op.method = some b → admission b b' [p] → s.permit? op.method e = some p)
  | answered {network : Peer.Network} {now : Instant} {wall : Moment} {madeUp : String} {request : Http.Request}
      {a : Http.Answer} (he : e = .request network now wall madeUp request)
      (hother : ∀ op, request.understand kind ≠ .ok (.operation op)) (hstep : s.step e = s)
      (hheard : s.heard e = some (request, .answered a)) (hworked : s.worked e = none)
  | aside {n : Node} (hconfig : n.config = s.node.config) (hfixtures : n.desk.fixtures = s.node.desk.fixtures)
      (hplaces : ∀ {i bucket breaker}, s.node.desk.stage.Holds i bucket breaker → n.desk.stage.Holds i bucket breaker)
      (hstep : s.step e = ⟨n, s.waiting⟩)
      (hheard : s.heard e = none) (hworked : s.worked e = none)
  | records (backend : Backend) (he : e = .records backend)

section

variable {kind : ServiceKind} {s : Session} {w : Waiting} {i : Nat}

/-- A request that comes in is a step of its call, or is answered at once. -/
theorem Orderly.steps_request (h : s.Orderly kind) (network : Peer.Network) (now : Instant) (wall : Moment) (madeUp : String)
    (request : Http.Request) : Steps kind s (.request network now wall madeUp request) := by
  by_cases hasked : ∃ op, request.understand kind = .ok (.operation op)
  · obtain ⟨op, hasked⟩ := hasked
    have hunderstand : request.understand s.node.config.service = .ok (.operation op) := h.service ▸ hasked
    have hknown : op.method ∈ Service.methods s.node.desk.kind :=
      h.role.symm ▸ Http.Request.mem_methods_of_understand hasked
    have hadvances : Desk.Advances s.node.desk op.method now (.Entering now)
        (s.node.begin network now wall madeUp request op) :=
      Desk.advances_start h.arranged (Peers.known_across network s.node.sibling) hknown rfl
    have hreceive := receive_operation hunderstand network now wall madeUp
    have hstep : s.step (.request network now wall madeUp request) = note s.waiting request
        (Node.settle (request.method = "HEAD") (now + s.node.requestTimeout) (s.node.begin network now wall madeUp request op)
          s.node.taken) := congrArg (note s.waiting request) hreceive
    refine .call (n := s.node.taken) hasked hadvances (Desk.Admission.plain_entering now) rfl (fun _ hw => hw) hstep ?_ ?_
      (.entered rfl rfl) ?_
    · simp only [heard, hreceive]
    · simp only [worked, hunderstand]
    · rintro b b' p hb hp
      simp only [permit?, hb, Option.bind_some]
      -- A call that holds a permit was not throttled, so the breaker was asked.
      generalize hpermits : [p] = permits at hp
      cases hp with
      | throttled => cases hpermits
      | asked => exact Option.toList_eq_singleton_iff.mp hpermits.symm
  · have hother : ∀ op, request.understand kind ≠ .ok (.operation op) := fun op hop => hasked ⟨op, hop⟩
    have hunderstand : ∀ op, request.understand s.node.config.service ≠ .ok (.operation op) := h.service ▸ hother
    obtain ⟨a, hreceive⟩ := receive_other hunderstand network now wall madeUp
    refine .answered (a := a) rfl hother ?_ ?_ ?_
    · simp only [step, hreceive, note]
    · simp only [heard, hreceive]
    · simp only [worked]

/-- What a request that waits asked for, and the permit with which it waits. -/
theorem Orderly.of_getElem? (h : s.Orderly kind) (hw : s.waiting[i]? = some w) :
    ∃ op permit, w.request.understand kind = .ok (.operation op) ∧ w.opened.pending.context.method = op.method ∧
      w.opened.headOnly = decide (w.request.method = "HEAD") ∧ w.opened.pending.Stands s.node.desk permit := by
  obtain ⟨⟨op, hasked, hmethod⟩, hhead, permit, hstands⟩ := h.waits (List.mem_of_getElem? hw)
  exact ⟨op, permit, hasked, hmethod, hhead, hstands⟩

theorem Orderly.permit_of_inside (h : s.Orderly kind) {permit : Permit} {method : String} (hw : s.waiting[i]? = some w)
    (hstands : w.opened.pending.Stands s.node.desk permit) (hmethod : w.opened.pending.context.method = method) {b b' : Breaker}
    {p : Permit} (hp : Desk.Admission.Inside permit b b' [p]) :
    ((s.node.desk.breakerPlace? method).bind fun place =>
      s.waiting[i]?.bind fun w => (permitsAt place w.opened.pending.frames).head?) = some p := by
  cases hp
  subst hmethod
  rw [h.arranged.breakerPlace? hstands.method, Option.bind_some, hw, Option.bind_some, hstands.own.frames]
  rfl

theorem Orderly.steps_proceed (h : s.Orderly kind) (i : Nat) (network : Peer.Network) (now : Instant) (wall : Moment) :
    Steps kind s (.proceed i network now wall) := by
  cases hw : s.waiting[i]? with
  | none =>
    refine .aside (n := s.node) rfl rfl id ?_ ?_ ?_
    · simp only [step, hw]
    · simp only [heard, hw, Option.map_none]
    · simp only [worked, hw, Option.map_none]
  | some w =>
    obtain ⟨op, permit, hasked, hmethod, hhead, hstands⟩ := h.of_getElem? hw
    have hadvances : Desk.Advances s.node.desk w.opened.pending.context.method now (.Inside permit)
        (Desk.proceed (.across network s.node.sibling) now wall w.opened.pending s.node.desk) := hstands.advances_proceed
    rw [hmethod] at hadvances
    have hstep : s.step (.proceed i network now wall) = note (s.waiting.eraseIdx i) w.request
        (Node.settle (w.request.method = "HEAD") w.opened.limit
          (Desk.proceed (.across network s.node.sibling) now wall w.opened.pending s.node.desk) s.node) := by
      simp only [step, hw, Node.proceed, hhead]
    refine .call hasked hadvances (Desk.Admission.plain_inside permit) rfl (fun _ => List.mem_of_mem_eraseIdx) hstep ?_ ?_
      (.waited (List.mem_of_getElem? hw) hmethod) fun _ _ _ _ => h.permit_of_inside hw hstands hmethod
    · simp only [heard, hw, Option.map_some, Node.proceed, hhead]
    · simp only [worked, hw, Option.map_some]

theorem Orderly.steps_giveUp (h : s.Orderly kind) (i : Nat) (now : Instant) : Steps kind s (.giveUp i now) := by
  cases hw : s.waiting[i]? with
  | none =>
    refine .aside (n := s.node) rfl rfl id ?_ ?_ ?_
    · simp only [step, hw]
    · simp only [heard, hw, Option.map_none]
    · simp only [worked, hw, Option.map_none]
  | some w =>
    obtain ⟨op, permit, hasked, hmethod, hhead, hstands⟩ := h.of_getElem? hw
    have hadvances : Desk.Advances s.node.desk w.opened.pending.context.method now (.Inside permit)
        (.ended .dropped, Desk.abandon now w.opened.pending s.node.desk) := hstands.advances_abandon
    rw [hmethod] at hadvances
    have hstep : s.step (.giveUp i now) = note (s.waiting.eraseIdx i) w.request
        (Node.settle (w.request.method = "HEAD") w.opened.limit (.ended .dropped, Desk.abandon now w.opened.pending s.node.desk)
          s.node) := by
      simp only [step, hw]
      rfl
    refine .call hasked hadvances (Desk.Admission.plain_inside permit) rfl (fun _ => List.mem_of_mem_eraseIdx) hstep ?_ ?_
      (.waited (List.mem_of_getElem? hw) hmethod) fun _ _ _ _ => h.permit_of_inside hw hstands hmethod
    · simp only [heard, hw, Option.map_some]
      rfl
    · simp only [worked, hw, Option.map_some]

/-- Whatever happens at a node is a step of a call, or does nothing to the calls. -/
theorem Orderly.steps (h : s.Orderly kind) (e : Event) : Steps kind s e := by
  cases e with
  | request network now wall madeUp request => exact h.steps_request network now wall madeUp request
  | proceed i network now wall => exact h.steps_proceed i network now wall
  | giveUp i now => exact h.steps_giveUp i now
  | turn change => exact .aside (n := { s.node with lifecycle := change s.node.lifecycle }) rfl rfl id rfl rfl rfl
  | sweep now => exact .aside (n := s.node.sweep now) rfl rfl (·.sweep now) rfl rfl rfl
  | records backend => exact .records backend rfl

/-! ## What all events keep -/

theorem waits_of_fixtures {d d' : Desk} (hfixtures : d'.fixtures = d.fixtures) (h : Waits kind d w) : Waits kind d' w := by
  obtain ⟨hasked, hhead, permit, hstands⟩ := h
  exact ⟨hasked, hhead, permit, hstands.of_fixtures hfixtures⟩

theorem Orderly.of_fixtures {n : Node} (h : s.Orderly kind) (hconfig : n.config = s.node.config)
    (hfixtures : n.desk.fixtures = s.node.desk.fixtures)
    (hplaces : ∀ {i bucket breaker}, s.node.desk.stage.Holds i bucket breaker → n.desk.stage.Holds i bucket breaker) :
    Orderly kind ⟨n, s.waiting⟩ where
  service := hconfig ▸ h.service
  role := (Desk.kind_of_fixtures hfixtures).trans h.role
  arranged := h.arranged.of_fixtures hfixtures
  guarded hmethod := by
    obtain ⟨bucket, breaker, hstage, hcounts⟩ := h.guarded hmethod
    rw [Desk.place_of_fixtures hfixtures]
    exact ⟨bucket, breaker, hplaces hstage, hcounts⟩
  waits hw := waits_of_fixtures hfixtures (h.waits hw)

section

variable (rest : List Waiting) (request : Http.Request) (headOnly : Bool) (limit : Instant) (r : Desk.Progress × Desk) (n : Node)

theorem desk_note : (note rest request (Node.settle headOnly limit r n)).node.desk = r.2 := by
  obtain ⟨⟨ending⟩ | p, d⟩ := r
  · cases ending <;> rfl
  · rfl

theorem config_note : (note rest request (Node.settle headOnly limit r n)).node.config = n.config := by
  obtain ⟨⟨ending⟩ | p, d⟩ := r
  · cases ending <;> rfl
  · rfl

/-- A request waits after a step if it waited before, or if it is the one whose call goes on waiting. -/
theorem mem_note {rest : List Waiting} {request : Http.Request} {headOnly : Bool} {limit : Instant} {r : Desk.Progress × Desk}
    {n : Node} (hw : w ∈ (note rest request (Node.settle headOnly limit r n)).waiting) :
    w ∈ rest ∨ ∃ p, r.1 = .waiting p ∧ w = ⟨request, ⟨p, headOnly, limit⟩⟩ := by
  obtain ⟨⟨ending⟩ | p, d⟩ := r
  · cases ending <;> exact .inl hw
  · rcases List.mem_append.mp hw with hw | hw
    · exact .inl hw
    · exact .inr ⟨p, rfl, List.mem_singleton.mp hw⟩

end

theorem Orderly.note (h : s.Orderly kind) {request : Http.Request} {op : Operation} {now limit : Instant}
    {admission : Desk.Admission} {r : Desk.Progress × Desk} {n : Node} {rest : List Waiting}
    (hasked : request.understand kind = .ok (.operation op))
    (hadvances : Desk.Advances s.node.desk op.method now admission r) (hplain : admission.Plain)
    (hconfig : n.config = s.node.config) (hrest : ∀ w ∈ rest, w ∈ s.waiting) :
    Orderly kind (Session.note rest request (Node.settle (request.method = "HEAD") limit r n)) := by
  have hfixtures := hadvances.fixtures
  have hknown : op.method ∈ Service.methods s.node.desk.kind := h.role.symm ▸ Http.Request.mem_methods_of_understand hasked
  have hrole : r.2.kind = kind := (Desk.kind_of_fixtures hfixtures).trans h.role
  have hguarded {method : String} (hmethod : method ∈ Service.methods kind) : ∃ bucket breaker,
      r.2.stage.Holds (r.2.place method) bucket breaker ∧ breaker.counts = Fault.isDependencyFailure := by
    obtain ⟨bucket, breaker, hstage, hcounts⟩ := h.guarded hmethod
    obtain ⟨bucket', breaker', hafter, hrules, -⟩ := hadvances.breaker_after hplain (h.role.symm ▸ hmethod) hstage
    rw [Desk.place_of_fixtures hfixtures]
    exact ⟨bucket', breaker', hafter, hrules.counts.trans hcounts⟩
  refine ⟨?_, ?_, ?_, fun {method} hmethod => ?_, fun {w} hw => ?_⟩
  · rw [config_note, hconfig]
    exact h.service
  · rw [desk_note]
    exact hrole
  · rw [desk_note]
    exact h.arranged.of_fixtures hfixtures
  · rw [desk_note]
    exact hguarded hmethod
  · rw [desk_note]
    rcases mem_note hw with hw | ⟨p, hp, rfl⟩
    · exact waits_of_fixtures hfixtures (h.waits (hrest w hw))
    · have hbefore (m : String) (hm : m ∈ Service.methods s.node.desk.kind) :
          ∃ bucket breaker, s.node.desk.stage.Holds (s.node.desk.place m) bucket breaker := by
        obtain ⟨bucket, breaker, hstage, -⟩ := h.guarded (h.role ▸ hm)
        exact ⟨bucket, breaker, hstage⟩
      exact ⟨⟨op, hasked, hadvances.context hp⟩, rfl, hadvances.stands hknown hbefore hp⟩

theorem Orderly.step (h : s.Orderly kind) (e : Event) : (s.step e).Orderly kind := by
  cases h.steps e with
  | call hasked hadvances hplain hconfig hrest hstep _ _ _ _ =>
    rw [hstep]
    exact h.note hasked hadvances hplain hconfig hrest
  | answered _ _ hstep _ _ =>
    rw [hstep]
    exact h
  | aside hconfig hfixtures hplaces hstep _ _ =>
    rw [hstep]
    exact h.of_fixtures hconfig hfixtures hplaces
  | records backend he =>
    subst he
    exact ⟨h.service, h.role, ⟨h.arranged.chain, h.arranged.known, h.arranged.link⟩, h.guarded, fun hw => by
      obtain ⟨hasked, hhead, permit, hstands⟩ := h.waits hw
      exact ⟨hasked, hhead, permit, hstands.method, hstands.known, hstands.own, hstands.others⟩⟩

theorem Orderly.after (h : s.Orderly kind) (events : List Event) : (s.after events).Orderly kind := by
  induction events generalizing s with
  | nil => exact h
  | cons e events ih => exact ih (h.step e)

theorem built_of_build {config : ServerConfig} {requestTimeout : Span} {now : Instant} {n : Node}
    (hbuild : Node.build config requestTimeout now = .ok n) :
    n.config = config ∧ Desk.Built config ⟨.empty, none⟩ now n.desk := by
  rw [Node.build] at hbuild
  cases hdesk : Desk.build config ⟨.empty, none⟩ now with
  | error f =>
    rw [hdesk] at hbuild
    cases hbuild
  | ok built =>
    rw [hdesk] at hbuild
    cases hbuild
    exact ⟨rfl, Desk.built_build hdesk⟩

theorem orderly_fresh {config : ServerConfig} {requestTimeout : Span} {now : Instant} {n : Node}
    (hbuild : Node.build config requestTimeout now = .ok n) : (fresh n).Orderly config.service := by
  obtain ⟨rfl, h⟩ := built_of_build hbuild
  exact ⟨rfl, h.kind, h.toArranged, fun hmethod => ⟨_, _, h.holds (h.kind.symm ▸ hmethod), rfl⟩, by rintro w ⟨⟩⟩

end

end Session

end Campus
