import Campus.Node
import Campus.Proofs.Desk.Entry
import Campus.Proofs.Desk.Gather
import Campus.Proofs.Identifier
import Campus.Proofs.Peer.Address
import Campus.Proofs.Peer.Link
import Campus.Proofs.Peer.Refusal
import Campus.Proofs.Service.Overlap

/-! # Services that ask each other

A request that one service sends to the other meets a node there, which takes it for the operation it stands for and answers it as
it would answer its own callers. What comes back is read as what was answered. So the students of a course are the same whichever of
the two services is asked for them, and a course that the one asks the other for is the row that the other holds.
-/
namespace Campus

open Pipeline

/-! ## Nodes that answer at once -/

namespace Node

variable {n : Node} {now : Instant} {op : Operation} {request : Http.Request}

/-- A node answers an operation that it settles from its own records with what it comes to, as soon as it is asked. -/
theorem answer_replied (hmethod : request.method = "GET")
    (hunderstand : request.understand n.config.service = .ok (.operation op)) (henter : (n.desk.enter? now op).isSome = true)
    (network : Peer.Network) (wall : Moment) (madeUp : String) {result : Except Fault Response} {b : Backend}
    (hreply : Service.handle n.desk.kind n.desk.link.isSome wall op.method op n.desk.backend = (.reply result, b)) :
    (n.answer network now wall madeUp request).answer = some (.ofResult result) ∧
      (n.answer network now wall madeUp request).now = now := by
  have hhead : decide (request.method = "HEAD") = false := by simp [hmethod]
  obtain ⟨⟨frames, s⟩, henter⟩ := Option.isSome_iff_exists.mp henter
  have hreceive : ∃ n', n.receive network now wall madeUp request = (.answered (.ofResult result), n') := by
    simp only [receive, hunderstand, hhead, call]
    generalize hopened : n.intake.openCall n.config now op.method _ = opened
    have hcontext : opened.1.method = op.method := by rw [← hopened]; rfl
    obtain ⟨d', hstart⟩ : ∃ d', n.desk.start (.across network n.sibling) none now wall opened.1 .fresh op =
        (.ended (.returned result), d') := Desk.start_replied henter hcontext hreply
    rw [hstart]
    exact ⟨_, rfl⟩
  obtain ⟨n', hreceive⟩ := hreceive
  rw [answer, hreceive]
  exact ⟨rfl, rfl⟩

end Node

namespace Peer

def Outgoing.request (out : Outgoing) : Http.Request := ⟨"GET", out.url.target, out.requestId, none, []⟩

/-- A request that goes out to a destination at an instant meets a node some time later, and the answer of that node is back some
time after. -/
def Meets (network : Network) (d : Destination) (now : Instant) (n : Node) (there back : Span) : Prop :=
  ∃ beyond wall madeUp, ∀ id url requestId a, d.path.resolve d.base id = .ok url →
    (n.answer beyond (now + there) wall madeUp (Outgoing.request ⟨url, requestId⟩)).answer = some a →
      network now ⟨url, requestId⟩ =
        .answered ((n.answer beyond (now + there) wall madeUp (Outgoing.request ⟨url, requestId⟩)).now + back - now) a.status
          none a.bytes

/-- The answer to a request for an operation that the node settles from its own records. -/
theorem Meets.replied {network : Network} {d : Destination} {now : Instant} {n : Node} {there back : Span}
    (h : Meets network d now n there back) {id : String} {url : Url} (hurl : d.path.resolve d.base id = .ok url)
    {op : Operation} (hasks : Asks n.config.service url op) (henter : (n.desk.enter? (now + there) op).isSome = true)
    {result : Except Fault Response}
    (hreply : ∀ wall, ∃ b, Service.handle n.desk.kind n.desk.link.isSome wall op.method op n.desk.backend = (.reply result, b))
    (requestId : Option String) :
    network now ⟨url, requestId⟩ =
      .answered (there + back) (Http.Answer.ofResult result).status none (Http.Answer.ofResult result).bytes := by
  obtain ⟨beyond, wall, madeUp, h⟩ := h
  obtain ⟨b, hreply⟩ := hreply wall
  have hunderstand := hasks (Outgoing.request ⟨url, requestId⟩) rfl rfl
  obtain ⟨hanswer, hnow⟩ := Node.answer_replied rfl hunderstand henter beyond wall madeUp hreply
  rw [h id url requestId _ hurl hanswer, hnow, Nat.add_assoc, Nat.add_sub_cancel_left]

theorem not_isRedirect_ofResult (result : Except Fault Response) :
    Http.isRedirect (Http.Answer.ofResult result).status = false := by
  cases result with
  | error f => exact not_isRedirect_status f.kind
  | ok response => cases response <;> rfl

/-! ## Addresses of siblings -/

structure Destination.Leads (d : Destination) (e : Endpoint) : Prop where
  address : ∃ raw, parseAddress raw = .ok d.base
  template : PathTemplate.parse e.path = .ok d.path
  root : ∀ list, d.base.path = .segments list → Url.carried list = []

theorem travels_toString {n : Int64} (h : 0 < n.toInt) : Url.Travels (toString n.toInt).toList := by
  have hall : ∀ c ∈ (toString n.toInt).toList, c.isDigit = true := by
    rw [toList_toString_of_nonneg (Int.le_of_lt h)]
    exact fun _ => Text.isDigit_of_mem_digits
  refine ⟨fun hdot => ?_, fun hdots => ?_, ?_⟩
  · rw [hdot] at hall
    exact absurd (hall '.' (by simp)) (by decide)
  · rw [hdots] at hall
    exact absurd (hall '.' (by simp)) (by decide)
  · refine List.filter_eq_self.mpr fun c hc => ?_
    have hdigit := hall c hc
    simp only [decide_eq_true_eq]
    refine ⟨?_, ?_, ?_⟩ <;> rintro rfl <;> exact absurd hdigit (by decide)

section Leads

variable {d : Destination} {n : Int64}

/-- A request for a course is made out to an address under which the courses service knows it. -/
theorem Destination.Leads.course (h : d.Leads courseEndpoint) (hn : 0 < n.toInt) :
    ∃ url, d.path.resolve d.base (toString n.toInt) = .ok url ∧ Asks .courses url (.getCourse (toString n.toInt)) := by
  obtain ⟨raw, hbase⟩ := h.address
  have htravels := travels_toString hn
  obtain ⟨list, path, hlist, hresolve, -, hcarried⟩ := PathTemplate.resolve_carries_id hbase h.template
    (PathTemplate.ofNames_of_endpoint (.inl h.template)) (Desk.courseText_ne_empty n)
  obtain ⟨-, -, hasks⟩ := hcarried htravels
  exact ⟨_, hresolve, (hasks (h.root list hlist)).1 rfl⟩

/-- A request for the students of a course is made out to an address under which the students service knows it. -/
theorem Destination.Leads.roster (h : d.Leads rosterEndpoint) (hn : 0 < n.toInt) :
    ∃ url, d.path.resolve d.base (toString n.toInt) = .ok url ∧ Asks .students url (.getCourseStudents (toString n.toInt)) := by
  obtain ⟨raw, hbase⟩ := h.address
  have htravels := travels_toString hn
  obtain ⟨list, path, hlist, hresolve, -, hcarried⟩ := PathTemplate.resolve_carries_id hbase h.template
    (PathTemplate.ofNames_of_endpoint (.inr h.template)) (Desk.courseText_ne_empty n)
  obtain ⟨-, -, hasks⟩ := hcarried htravels
  exact ⟨_, hresolve, (hasks (h.root list hlist)).2 rfl⟩

end Leads

/-! ## Requests that are answered in time -/

/-- A caller that an answer can still reach at an instant: its request can be made out, and it is neither cancelled nor out of
time by then. -/
structure Reachable (ts : Tokens) (stop : Option Instant) (context : Context) (answered : Instant) : Prop where
  requestId : context.requestId.all Http.isHeaderValue = true
  alive : ts.isCancelled context.token = false
  deadline : answered < context.deadline
  cancelled : ∀ c ∈ stop, answered < c

/-- A response with the record that is asked for is read as that record. -/
theorem interpret_students (e : Endpoint) (id : String) (list : List Student) :
    interpret e id (Http.Answer.ofResult (.ok (.students list))).status (Http.Answer.ofResult (.ok (.students list))).bytes =
      .ok list :=
  interpret_success e id (Wire.decodeGlyphs_places_utf8Bytes list)

theorem interpret_course (e : Endpoint) (id : String) (c : Course) :
    interpret e id (Http.Answer.ofResult (.ok (.course c))).status (Http.Answer.ofResult (.ok (.course c))).bytes = .ok c :=
  interpret_success e id (Wire.decodeGlyphs_places_utf8Bytes c)

section Sent

variable {α : Type} [Summarize α] {l : Link} {transport : Transport α} {stop : Option Instant} {ts : Tokens} {now : Instant}
  {context : Context} {id : String} {s : Stage} {delay : Span} {ending : Ending α}

/-- A request that a link lets through is over at once or on its way. -/
theorem start_let_through (hid : id ≠ "") (hlink : (startCall now (l.call id) l.chain s).1.isOk = true)
    (hattempt : transport now stop ts (context.forMethod l.endpoint.method) id = ⟨true, delay, ending⟩) :
    (∃ s', start l transport stop ts now context id s = (.ended ending, s') ∧ delay = 0) ∨
      ∃ frames s', start l transport stop ts now context id s = (.running (now + delay) ⟨frames, ending⟩, s') := by
  rcases hstart : startCall now (l.call id) l.chain s with ⟨fault | frames, s'⟩
  · rw [hstart] at hlink
    cases hlink
  · simp only [Link.call] at hstart
    by_cases hdelay : delay = 0
    · simp [start, hid, hstart, hattempt, hdelay]
    · simp [start, hid, hstart, hattempt, hdelay]

/-- A call that a link lets through ends as its request does. -/
theorem call_let_through (hid : id ≠ "") (hlink : (startCall now (l.call id) l.chain s).1.isOk = true)
    (hattempt : transport now stop ts (context.forMethod l.endpoint.method) id = ⟨true, delay, ending⟩) :
    ∃ s', call l transport stop ts now context id s = (ending, now + delay, s') := by
  obtain ⟨s', hstart, hdelay⟩ | ⟨frames, s', hstart⟩ := start_let_through hid hlink hattempt
  · exact ⟨s', by rw [call, hstart, hdelay]; rfl⟩
  · exact ⟨_, by rw [call, hstart]; rfl⟩

end Sent

end Peer

/-! ## The students of a course -/

namespace Desk

/-- A call that asks the sibling for the students of a course ends as the request for them does. -/
theorem finish_roster {d : Desk} {l : Peer.Link} {peers : Peers} {stop : Option Instant} {now : Instant} {wall : Moment}
    {context : Context} {ts : Tokens} {op : Operation} {frames : List Frame} {s : Stage} {course : Int64} {b : Backend}
    {delay : Span} {ending : Ending (List Student)} (henter : d.enter? now op = some (frames, s))
    (hmethod : context.method = op.method) (hlink : d.link = some l)
    (hask : Service.handle d.kind true wall op.method op d.backend = (.askRoster course, b))
    (hlets : (startCall now (l.call (toString course.toInt)) l.chain s).1.isOk = true)
    (hattempt : peers.roster now stop ts (context.forMethod l.endpoint.method) (toString course.toInt) = ⟨true, delay, ending⟩)
    (hstop : ∀ c ∈ stop, now + delay < c) :
    (finish peers wall none now (start peers stop now wall context ts op d)).ending = rosterReply ending := by
  have hid := courseText_ne_empty course
  rw [start_of_enter? henter hmethod, perform, hmethod]
  cases d
  subst hlink
  simp only [Option.isSome_some, hask]
  obtain ⟨s', hstart, -⟩ | ⟨inner, s', hstart⟩ := Peer.start_let_through hid hlets hattempt
  · rw [hstart]
    rfl
  · rw [hstart]
    have hnot : stop ≠ some (now + delay) := by
      rintro rfl
      exact Nat.lt_irrefl _ (hstop _ rfl)
    cases stop with
    | none => rfl
    | some c =>
      have hlate : ¬c ≤ now + delay := Nat.not_le.mpr (hstop c rfl)
      simp only [finish, settle, Progress.turns, Wait.turns, await, Wait.due?, Option.getD_some, hlate, if_false, await.go, hnot,
        proceed, resume]
      rfl

end Desk

/-! ## Two services -/

/-- A service that is linked to its sibling, and whose records are in order. -/
structure Node.Linked (n : Node) (kind : ServiceKind) (l : Peer.Link) (d : Peer.Destination) : Prop where
  service : n.config.service = kind
  role : n.desk.kind = kind
  link : n.desk.link = some l
  endpoint : l.endpoint = Desk.endpointOf kind
  sibling : n.sibling = some d
  leads : d.Leads l.endpoint
  sound : n.desk.backend.outage = none

/-- A request for an id that nothing on the way turns down: the link of the caller and the chain of the sibling let it in, and the
answer is back in time. -/
structure Peer.Passes (network : Peer.Network) (l : Peer.Link) (d : Peer.Destination) (sibling : Node) (op : Operation)
    (id : String) (ts : Tokens) (stop : Option Instant) (context : Context) (now : Instant) (there back : Span) (s : Stage) :
    Prop where
  sendable : ∀ url, d.path.resolve d.base id = .ok url → Peer.isSendable url.withoutCredentials = true
  link : (startCall now (l.call id) l.chain s).1.isOk = true
  meets : Peer.Meets network d now sibling there back
  enters : (sibling.desk.enter? (now + there) op).isSome = true
  reachable : Peer.Reachable ts stop context (now + (there + back))

/-- A request that is not turned down ends with what the sibling replies from its own records. -/
theorem Peer.Passes.exchange {α : Type} [Wire α] {network : Peer.Network} {l : Peer.Link} {sibling : Node} {op : Operation}
    {id : String} {ts : Tokens} {stop : Option Instant} {context : Context} {now : Instant} {there back : Span} {s : Stage}
    {d : Peer.Destination} (h : Peer.Passes network l d sibling op id ts stop context now there back s) {e : Peer.Endpoint}
    {url : Url} (hurl : d.path.resolve d.base id = .ok url) (hasks : Peer.Asks sibling.config.service url op)
    {result : Except Fault Response}
    (hreply : ∀ wall, ∃ b, Service.handle sibling.desk.kind sibling.desk.link.isSome wall op.method op sibling.desk.backend =
      (.reply result, b)) (method : String) :
    Peer.exchange network e d now stop ts (context.forMethod method) id =
      ⟨true, there + back,
        .returned (Peer.interpret (α := α) e id (Http.Answer.ofResult result).status (Http.Answer.ofResult result).bytes)⟩ :=
  Peer.exchange_answered hurl (h.sendable url hurl) h.reachable.requestId h.reachable.alive
    (h.meets.replied hurl hasks h.enters hreply context.requestId) (Peer.not_isRedirect_ofResult result) h.reachable.deadline
    h.reachable.cancelled

section Siblings

variable {students courses : Node} {toCourses toStudents : Peer.Link} {coursesAt studentsAt : Peer.Destination}
  {network : Peer.Network}

/-- The students service has the students of a course among its own records. -/
theorem handle_roster {d : Desk} (hkind : d.kind = .students) (hsound : d.backend.outage = none) {raw : String} {key : Int64}
    (hread : parseIdentifier raw = .ok key) (linked : Bool) (wall : Moment) (method : String) :
    Service.handle d.kind linked wall method (.getCourseStudents raw) d.backend =
      (.reply (.ok (.students (d.backend.store.roster key Service.relationPage))), d.backend) := by
  have hid : Check.id raw = .ok key := by rw [Check.id, hread]
  rw [hkind]
  simp [Service.handle, Service.students, Service.onward, Service.answer, hid, Backend.read, hsound, Except.map]

/-- The courses service asks for the students of a course that it has. -/
theorem handle_askRoster {d : Desk} (hkind : d.kind = .courses) (hsound : d.backend.outage = none) {raw : String}
    {key : Int64} (hread : parseIdentifier raw = .ok key) {row : Course} (hrow : d.backend.store.course? key = some row)
    (wall : Moment) (method : String) :
    Service.handle d.kind true wall method (.getCourseStudents raw) d.backend = (.askRoster row.id, d.backend) := by
  have hid : Check.id raw = .ok key := by rw [Check.id, hread]
  rw [hkind]
  simp [Service.handle, Service.courses, Service.onward, Service.findCourse, Service.found, hid, Backend.read, hsound, hrow,
    bind, Except.bind]

/-- The courses service has a course among its own records, or says that it was not found. -/
theorem handle_course {d : Desk} (hkind : d.kind = .courses) (hsound : d.backend.outage = none) {raw : String} {key : Int64}
    (hread : parseIdentifier raw = .ok key) (linked : Bool) (wall : Moment) (method : String) :
    Service.handle d.kind linked wall method (.getCourse raw) d.backend =
      (.reply (match d.backend.store.course? key with
        | some row => .ok (.course row)
        | none => .error (.notFound "course" raw)), d.backend) := by
  have hid : Check.id raw = .ok key := by rw [Check.id, hread]
  rw [hkind]
  cases hrow : d.backend.store.course? key <;>
    simp [Service.handle, Service.courses, Service.answer, Service.findCourse, Service.found, hid, Backend.read, hsound, hrow,
      bind, Except.bind, Except.map]

/-- The students of a course as they come from the students service. -/
theorem exchange_roster (hstudents : students.Linked .students toCourses coursesAt)
    (hleads : studentsAt.Leads Peer.rosterEndpoint) {key : Int64} (hkey : 0 < key.toInt) {l : Peer.Link} {ts : Tokens}
    {stop : Option Instant} {context : Context} {now : Instant} {there back : Span} {s : Stage}
    (h : Peer.Passes network l studentsAt students (.getCourseStudents (toString key.toInt)) (toString key.toInt) ts stop
      context now there back s) (method : String) :
    Peer.exchange network Peer.rosterEndpoint studentsAt now stop ts (context.forMethod method) (toString key.toInt) =
      ⟨true, there + back, .returned (.ok (students.desk.backend.store.roster key Service.relationPage))⟩ := by
  obtain ⟨url, hurl, hasks⟩ := hleads.roster hkey
  rw [← hstudents.service] at hasks
  rw [h.exchange hurl hasks
    (fun wall => ⟨_, handle_roster hstudents.role hstudents.sound (parseIdentifier_toString hkey) _ wall _⟩) method,
    Peer.interpret_students]

theorem exchange_course (hcourses : courses.Linked .courses toStudents studentsAt)
    (hleads : coursesAt.Leads Peer.courseEndpoint) {key : Int64} (hkey : 0 < key.toInt) {l : Peer.Link} {ts : Tokens}
    {stop : Option Instant} {context : Context} {now : Instant} {there back : Span} {s : Stage}
    (h : Peer.Passes network l coursesAt courses (.getCourse (toString key.toInt)) (toString key.toInt) ts stop context now there
      back s) (method : String) :
    Peer.exchange network Peer.courseEndpoint coursesAt now stop ts (context.forMethod method) (toString key.toInt) =
      ⟨true, there + back, .returned (match courses.desk.backend.store.course? key with
        | some row => .ok row
        | none => .error (.notFound "course" (toString key.toInt)))⟩ := by
  obtain ⟨url, hurl, hasks⟩ := hleads.course hkey
  rw [← hcourses.service] at hasks
  rw [h.exchange hurl hasks
    (fun wall => ⟨_, handle_course hcourses.role hcourses.sound (parseIdentifier_toString hkey) _ wall _⟩) method]
  cases courses.desk.backend.store.course? key with
  | some row => rw [Peer.interpret_course]
  | none =>
    have hrefused := Peer.interpret_ofFault (α := Course) Peer.courseEndpoint (toString key.toInt)
      (.notFound "course" (toString key.toInt))
    exact congrArg (fun r => (⟨true, there + back, .returned r⟩ : Peer.Attempt Course)) hrefused

/-- The students of a course are the same from both services, and a course that is asked for is the row of the other service. -/
theorem siblings_agree (network : Peer.Network) (hstudents : students.Linked .students toCourses coursesAt)
    (hcourses : courses.Linked .courses toStudents studentsAt)
    (hkeyed : ∀ key row, courses.desk.backend.store.course? key = some row → row.id = key) :
    (∀ (raw : String) (key : Int64) (row : Course) (ts : Tokens) (stop : Option Instant) (context : Context) (now : Instant)
        (wall : Moment) (there back : Span) (frames : List Frame) (s : Stage),
      parseIdentifier raw = .ok key → courses.desk.backend.store.course? key = some row →
        context.method = "get_course_students" → courses.desk.enter? now (.getCourseStudents raw) = some (frames, s) →
          Peer.Passes network toStudents studentsAt students (.getCourseStudents (toString key.toInt)) (toString key.toInt) ts
            stop context now there back s →
            (Desk.finish (.across network courses.sibling) wall none now
              (courses.desk.start (.across network courses.sibling) stop now wall context ts (.getCourseStudents raw))).ending =
                .returned (.ok (.students (students.desk.backend.store.roster key Service.relationPage))) ∧
            ∀ (here : Desk) (peers : Peers) (stop : Option Instant) (now : Instant) (wall : Moment) (context : Context)
              (ts : Tokens) (raw : String), here.kind = .students → here.backend = students.desk.backend →
                parseIdentifier raw = .ok key → context.method = "get_course_students" →
                  (here.enter? now (.getCourseStudents raw)).isSome = true →
                    ∃ d', here.start peers stop now wall context ts (.getCourseStudents raw) =
                      (.ended (.returned (.ok (.students (students.desk.backend.store.roster key Service.relationPage)))), d')) ∧
    (∀ (key : Int64) (ts : Tokens) (stop : Option Instant) (context : Context) (now : Instant) (there back : Span) (s : Stage),
      0 < key.toInt →
        Peer.Passes network toCourses coursesAt courses (.getCourse (toString key.toInt)) (toString key.toInt) ts stop context now
          there back s →
          ∃ s', Peer.call toCourses (Peer.exchange network toCourses.endpoint coursesAt) stop ts now context
              (toString key.toInt) s =
            (.returned (match courses.desk.backend.store.course? key with
              | some row => .ok row
              | none => .error (.notFound "course" (toString key.toInt))), now + (there + back), s')) := by
  have hroster : toStudents.endpoint = Peer.rosterEndpoint := hcourses.endpoint
  have hcourse : toCourses.endpoint = Peer.courseEndpoint := hstudents.endpoint
  refine ⟨fun raw key row ts stop context now wall there back frames s hread hrow hmethod henter hpasses => ?_,
    fun key ts stop context now there back s hkey hpasses => ?_⟩
  · have hkey := pos_of_parseIdentifier hread
    have hask := handle_askRoster hcourses.role hcourses.sound hread hrow wall "get_course_students"
    rw [hkeyed key row hrow] at hask
    have hattempt : (Peers.across network (some studentsAt)).roster now stop ts (context.forMethod toStudents.endpoint.method)
        (toString key.toInt) =
        ⟨true, there + back, .returned (.ok (students.desk.backend.store.roster key Service.relationPage))⟩ :=
      exchange_roster hstudents (hroster ▸ hcourses.leads) hkey hpasses toStudents.endpoint.method
    refine ⟨?_, ?_⟩
    · rw [hcourses.sibling]
      exact Desk.finish_roster henter hmethod hcourses.link hask hpasses.link hattempt hpasses.reachable.cancelled
    · intro here peers stop now wall context ts raw hkind hsame hread hmethod hhere
      obtain ⟨⟨frames, s⟩, hhere⟩ := Option.isSome_iff_exists.mp hhere
      have hsound : here.backend.outage = none := by rw [hsame, hstudents.sound]
      have hreply := handle_roster hkind hsound hread here.link.isSome wall "get_course_students"
      rw [← hsame]
      exact Desk.start_replied hhere hmethod hreply
  · rw [hcourse]
    exact Peer.call_let_through (Desk.courseText_ne_empty key) hpasses.link
      (exchange_course hcourses (hcourse ▸ hstudents.leads) hkey hpasses toCourses.endpoint.method)

end Siblings

/-! ## Two services with one course -/

def rosterDestination : Peer.Destination where
  base := ⟨"http".toList, [], [], some (.domain "students"), none, false, .segments [[]], none, none⟩
  path := ⟨[.literal "courses".toList, .id, .literal "students".toList]⟩

/-- A node of a kind with a full bucket and a closed breaker for each chain, linked to a sibling at an address. -/
def pairedNode (kind : ServiceKind) (store : Store) (sibling : Peer.Destination) : Node :=
  let config := { ServerConfig.standard with service := kind }
  let desk := (Desk.bare kind (.sound store) 0).linkWith (.full 1.0 5 0) (.fresh "sibling" .standard Fault.isDependencyFailure)
  ⟨config, desk.registerAll config 0, some sibling, .fresh, .fresh, 60000000000, 0⟩

/-- Two students who take the first course. -/
def pairedRecords : Store :=
  let s := (Store.empty.createStudent ⟨"Ada \"Countess\"", ⟨2010, 4, 12, by decide⟩, 0, 5551234⟩).2
  let s := (s.createStudent ⟨"Grace", ⟨-44, 3, 15, by decide⟩, 11, -1⟩).2
  let s := (s.createEnrollment 2 1 Service.Overlap.inMay).2
  (s.createEnrollment 1 1 Service.Overlap.inMay).2

/-- The roster is in the order of the students, whoever came first. -/
theorem roster_pairedRecords : pairedRecords.roster 1 Service.relationPage =
    [⟨1, "Ada \"Countess\"", ⟨2010, 4, 12, by decide⟩, 0, 5551234⟩, ⟨2, "Grace", ⟨-44, 3, 15, by decide⟩, 11, -1⟩] := by
  have hids : (pairedRecords.enrollments.rows.filter fun e => e.courseId = 1).map Enrollment.studentId = [2, 1] := by
    decide +kernel
  have hsorted : ([2, 1] : List Int64).mergeSort (fun a b => a ≤ b) = [1, 2] := by
    simp [List.mergeSort, List.MergeSort.Internal.splitInTwo]
  have hrows : (Store.dropRepeats [1, 2]).filterMap pairedRecords.student? =
      [⟨1, "Ada \"Countess\"", ⟨2010, 4, 12, by decide⟩, 0, 5551234⟩, ⟨2, "Grace", ⟨-44, 3, 15, by decide⟩, 11, -1⟩] := by
    decide +kernel
  simp only [Store.roster, hids, hsorted, hrows, Page.select]
  rw [List.mergeSort_of_pairwise (by decide)]
  rfl

def pairedStudents : Node := pairedNode .students pairedRecords Peer.courseDestination

def pairedCourses : Node := pairedNode .courses (Store.empty.createCourse ⟨"Proofs\n"⟩).2 rosterDestination

/-- A network between the two, on which a request takes two instants there and its answer three back. -/
def pairedNetwork : Peer.Network := fun now out =>
  let node := if out.url.host = some (.domain "students") then pairedStudents else pairedCourses
  let finished := node.answer (fun _ _ => .silent) (now + 2) Service.Overlap.inMay "made-up" out.request
  match finished.answer with
  | some a => .answered (finished.now + 3 - now) a.status none a.bytes
  | none => .failed (finished.now + 3 - now) false "error decoding response body"

theorem linked_pairedStudents : pairedStudents.Linked .students ⟨Peer.courseEndpoint, 0, 0⟩ Peer.courseDestination where
  service := rfl
  role := rfl
  link := rfl
  endpoint := rfl
  sibling := rfl
  leads := ⟨⟨"http://courses", rfl⟩, rfl, by rintro list ⟨⟩; rfl⟩
  sound := rfl

theorem linked_pairedCourses : pairedCourses.Linked .courses ⟨Peer.rosterEndpoint, 0, 0⟩ rosterDestination where
  service := rfl
  role := rfl
  link := rfl
  endpoint := rfl
  sibling := rfl
  leads := ⟨⟨"http://students", rfl⟩, rfl, by rintro list ⟨⟩; rfl⟩
  sound := rfl

theorem meets_pairedStudents (now : Instant) : Peer.Meets pairedNetwork rosterDestination now pairedStudents 2 3 := by
  refine ⟨fun _ _ => .silent, Service.Overlap.inMay, "made-up", fun id url requestId a hurl ha => ?_⟩
  have hhost : url.host = some (.domain "students") := by
    rw [← Except.ok.inj hurl]
    rfl
  simp only [pairedNetwork, hhost, if_true, ha]

theorem meets_pairedCourses (now : Instant) : Peer.Meets pairedNetwork Peer.courseDestination now pairedCourses 2 3 := by
  refine ⟨fun _ _ => .silent, Service.Overlap.inMay, "made-up", fun id url requestId a hurl ha => ?_⟩
  have hhost : url.host ≠ some (.domain "students") := by
    rw [← Except.ok.inj hurl]
    change Peer.courseDestination.base.host ≠ some (.domain "students")
    decide
  simp only [pairedNetwork, hhost, if_false, ha]

/-- Both services tell the two students of the first course, and the second course is not found. -/
theorem siblings_agree_paired :
    let context := Context.opened 1 "courses" "get_course_students" 0 10 (some "r-1")
    let ada : Student := ⟨1, "Ada \"Countess\"", ⟨2010, 4, 12, by decide⟩, 0, 5551234⟩
    let grace : Student := ⟨2, "Grace", ⟨-44, 3, 15, by decide⟩, 11, -1⟩
    (Desk.finish (.across pairedNetwork pairedCourses.sibling) Service.Overlap.inMay none 0
      (pairedCourses.desk.start (.across pairedNetwork pairedCourses.sibling) none 0 Service.Overlap.inMay context .fresh
        (.getCourseStudents "+1"))).ending = .returned (.ok (.students [ada, grace])) ∧
    (∃ d', pairedStudents.desk.start (.across pairedNetwork pairedStudents.sibling) none 0 Service.Overlap.inMay context .fresh
      (.getCourseStudents "1") = (.ended (.returned (.ok (.students [ada, grace]))), d')) ∧
    ∃ s', Peer.call ⟨Peer.courseEndpoint, 0, 0⟩
        (Peer.exchange pairedNetwork Peer.courseEndpoint Peer.courseDestination : Peer.Transport Course) none .fresh 0 context "2"
        pairedStudents.desk.stage = (.returned (.error (.notFound "course" "2")), 5, s') := by
  intro context ada grace
  have hentries : pairedCourses.desk.backend.store.courses.entries = [(1, ⟨1, "Proofs\n"⟩)] := by decide +kernel
  have hkeyed : ∀ key row, pairedCourses.desk.backend.store.course? key = some row → row.id = key := by
    intro key row hrow
    by_cases hkey : 1 = key
    · simp [Store.course?, Table.get?, hentries, hkey] at hrow
      rw [← hrow, ← hkey]
    · simp [Store.course?, Table.get?, hentries, hkey] at hrow
  obtain ⟨hroster, hcourse⟩ := siblings_agree pairedNetwork linked_pairedStudents linked_pairedCourses hkeyed
  have hreachable : Peer.Reachable .fresh none context (0 + (2 + 3)) := ⟨by decide, rfl, by decide, by simp⟩
  have hlink : (pairedCourses.desk.enter? 0 (.getCourseStudents "+1")).all (fun r =>
      (startCall 0 (Peer.Link.call ⟨Peer.rosterEndpoint, 0, 0⟩ "1") (Peer.Link.chain ⟨Peer.rosterEndpoint, 0, 0⟩) r.2).1.isOk) =
      true := by
    decide +kernel
  have henters : (pairedCourses.desk.enter? 0 (.getCourseStudents "+1")).isSome = true := by decide +kernel
  obtain ⟨⟨frames, s⟩, henter⟩ := Option.isSome_iff_exists.mp henters
  rw [henter, Option.all_some] at hlink
  have hrow : pairedCourses.desk.backend.store.course? 1 = some ⟨1, "Proofs\n"⟩ := by decide +kernel
  have hlist : pairedRecords.roster 1 Service.relationPage = [ada, grace] := roster_pairedRecords
  have hrecords : pairedStudents.desk.backend.store = pairedRecords := rfl
  have hmissing : pairedCourses.desk.backend.store.course? 2 = none := by decide +kernel
  obtain ⟨hremote, hlocal⟩ := hroster "+1" 1 ⟨1, "Proofs\n"⟩ .fresh none context 0 Service.Overlap.inMay 2 3 frames s
    (by rfl) hrow rfl henter
    ⟨by rintro url ⟨⟩; decide, hlink, meets_pairedStudents 0, by decide +kernel, hreachable⟩
  obtain ⟨d', hlocal⟩ := hlocal pairedStudents.desk (.across pairedNetwork pairedStudents.sibling) none 0 Service.Overlap.inMay
    context .fresh "1" rfl rfl (by rfl) rfl (by decide +kernel)
  obtain ⟨s', hcall⟩ := hcourse 2 .fresh none context 0 2 3 pairedStudents.desk.stage (by decide)
    ⟨by rintro url ⟨⟩; decide, by decide +kernel, meets_pairedCourses 0, by decide +kernel, hreachable⟩
  rw [hrecords, hlist] at hremote hlocal
  rw [hmissing] at hcall
  exact ⟨hremote, ⟨d', hlocal⟩, s', hcall⟩

end Campus
