import Campus.Node
import Campus.Proofs.Desk.Entry
import Campus.Proofs.Desk.Passing
import Campus.Proofs.Peer.Refusal
import Campus.Proofs.Store.Rows

/-! # All courses of a student

A call for the courses of a student that nothing turns down gives a course for each enrollment that is read, in the order of the
enrollments. No more than a thousand are read: a student with more gets the courses of the first thousand, and is not told of the
others.
-/
namespace Campus

open FanOut FanOut.Job Pipeline

namespace Desk

/-- When the courses of some enrollments are asked for, so many at once, of a peer that takes its time for each. -/
def askingTimes (delay : Instant → String → Span) (rows : List Enrollment) (bound : Nat) (now : Instant) : Timetable :=
  .ofDelays (fun t i => delay t ((courseIds rows).getD i "")) (capacity bound rows.length) now

theorem delay_askingTimes (delay : Instant → String → Span) {rows : List Enrollment} (bound : Nat) (now : Instant) {k : Nat}
    {id : String} (hid : (courseIds rows)[k]? = some id) :
    (askingTimes delay rows bound now).delay k = delay ((askingTimes delay rows bound now).start k) id := by
  rw [askingTimes, Timetable.delay_ofDelays, List.getD_eq_getElem?_getD, hid, Option.getD_some]

/-- Requests for the courses of some enrollments that are sent as a timetable has it, all let through, and answered in time. -/
structure AllAnswered (transport : Peer.Transport Course) (context : Context) (ts : Tokens) (rows : List Enrollment)
    (delay : Instant → String → Span) (course : String → Course) (T : Timetable) (bucket : Bucket Float) (breaker : Breaker) :
    Prop where
  alive : ts.isCancelled context.token = false
  answers : Peer.Answers transport context.requestId (courseIds rows) delay fun _ id => course id
  delays : ∀ {k : Nat} {id : String}, (courseIds rows)[k]? = some id → T.delay k = delay (T.start k) id
  bucket : bucket.Admits T.start rows.length
  breaker : breaker.Admits T rows.length
  inTime : ∀ i < rows.length, T.finish i < context.deadline

def courseAt (course : String → Course) (rows : List Enrollment) (k : Nat) : Course := course ((courseIds rows).getD k "")

/-- The request for the course of the `k`-th enrollment. -/
def flightAt (link : Peer.Link) (breaker : Breaker) (T : Timetable) (course : String → Course) (rows : List Enrollment)
    (k : Nat) : Peer.Flight Course :=
  ⟨link.frames (link.call ((courseIds rows).getD k "")) (breaker.permitFor k) (T.start k),
    .returned (.ok (courseAt course rows k))⟩

theorem map_courseAt (course : String → Course) (rows : List Enrollment) :
    (List.range rows.length).map (courseAt course rows) = rows.map fun e => course (toString e.courseId.toInt) := by
  refine List.ext_getElem (by simp) fun i hi hi' => ?_
  simp [courseAt, courseIds, List.getElem?_eq_getElem (by simpa using hi' : i < rows.length)]

namespace AllAnswered

variable {link : Peer.Link} {transport : Peer.Transport Course} {context : Context} {ts : Tokens} {rows : List Enrollment}
  {delay : Instant → String → Span} {course : String → Course} {T : Timetable} {bucket : Bucket Float} {breaker : Breaker}

/-- What the peer answers to a request for the course of an enrollment. -/
theorem sent (h : AllAnswered transport context ts rows delay course T bucket breaker) {k : Nat} {u : Waiting}
    (hu : (unitsOf context (courseIds rows) ts)[k]? = some u) :
    transport (T.start k) none (tokensOf context (courseIds rows) ts) (u.context.forMethod link.endpoint.method) u.id =
      ⟨true, T.delay k, .returned (.ok (course u.id))⟩ := by
  have halive := (isCancelled_unitsOf _ _ _ (List.mem_of_getElem? hu)).trans h.alive
  rw [getElem?_unitsOf] at hu
  obtain ⟨id, hid, rfl⟩ := Option.map_eq_some_iff.mp hu
  have hk : k < rows.length := by
    rw [← length_courseIds]
    exact (List.getElem?_eq_some_iff.mp hid).1
  have htime := h.inTime k hk
  have hdelay := h.delays hid
  rw [Timetable.finish, hdelay] at htime
  rw [hdelay]
  exact h.answers _ _ _ id (List.mem_of_getElem? hid) rfl halive htime

/-- A unit asks for the course of the enrollment in its place. -/
theorem unit_at {k : Nat} {u : Waiting} (hu : (unitsOf context (courseIds rows) ts)[k]? = some u) :
    k < rows.length ∧ u.id ≠ "" ∧ u.id = (courseIds rows).getD k "" := by
  rw [getElem?_unitsOf] at hu
  obtain ⟨id, hid, rfl⟩ := Option.map_eq_some_iff.mp hu
  refine ⟨?_, mem_courseIds_ne_empty (List.mem_of_getElem? hid), ?_⟩
  · rw [← length_courseIds]
    exact (List.getElem?_eq_some_iff.mp hid).1
  · rw [List.getD_eq_getElem?_getD, hid, Option.getD_some]

/-- Requests that nothing turns down keep to their timetable. -/
theorem keeps (h : AllAnswered transport context ts rows delay course T bucket breaker) :
    Keeps (Peer.worker link transport none (tokensOf context (courseIds rows) ts)) T (unitsOf context (courseIds rows) ts)
      (fun k => .returned (.ok (courseAt course rows k))) (flightAt link breaker T course rows)
      (fun running k s => ∃ b, link.Passing bucket breaker T running k b s) where
  ends := by
    rintro running k s u hu hfree hdelays hdelay ⟨b, hpassing⟩
    obtain ⟨hk, hne, hid⟩ := unit_at hu
    obtain ⟨b', s', hstart, hnext⟩ := hpassing.ends h.breaker h.bucket hk hfree hdelays hne (h.sent hu) hdelay
    rw [courseAt, ← hid]
    exact ⟨s', hstart, b', hnext⟩
  begins := by
    rintro running k s u hu hfree hdelays hdelay ⟨b, hpassing⟩
    obtain ⟨hk, hne, hid⟩ := unit_at hu
    obtain ⟨b', s', hstart, hnext⟩ := hpassing.begins h.breaker h.bucket hk hfree hdelays hne (h.sent hu) hdelay
    rw [flightAt, courseAt, ← hid]
    exact ⟨s', hstart, b', hnext⟩
  finishes := by
    rintro before after i k s hi ⟨b, hpassing⟩
    obtain ⟨b', s', hfinish, hnext⟩ := hpassing.finishes hi (link.call ((courseIds rows).getD i "")) (courseAt course rows i)
    exact ⟨s', hfinish, b', hnext⟩

/-- A fan-out whose requests nothing turns down gives the courses of the enrollments in their order. -/
theorem ending {peers : Peers} (h : AllAnswered peers.course context ts rows delay course T bucket breaker) {bound : Nat}
    (hcapacity : T.capacity = capacity bound rows.length) (seed : String) (wall : Moment) {d : Desk}
    (hguards : link.Guards d.stage bucket breaker) (hrows : rows ≠ []) :
    (finish peers wall none T.now (settle T.now [] context none (Desk.gather peers none T.now link
        (Job.create context seed (courseIds rows) bound ts).1 (tokensOf context (courseIds rows) ts) d))).ending =
      .returned (.ok (.courses (rows.map fun e => course (toString e.courseId.toInt)))) := by
  have hpos : 0 < T.capacity := hcapacity ▸ capacity_pos (List.length_pos_iff.mpr hrows)
  have hserves : Serves (Peer.worker link peers.course none (tokensOf context (courseIds rows) ts)) _ T.capacity _ _ _ :=
    h.keeps.serves hpos index_unitsOf
  rw [hcapacity, ← length_courseIds] at hserves
  have hfirst : link.Passing bucket breaker T [] 0 breaker d.stage :=
    ⟨hguards, fun _ => rfl, fun h0 => absurd h0 (Nat.lt_irrefl 0)⟩
  have hstands := hserves.stands_create seed (Timed.first ⟨breaker, hfirst⟩)
  have hall : ∀ i < (unitsOf context (courseIds rows) ts).length,
      entity? (.returned (.ok (courseAt course rows i)) : Ending Course) ≠ none := fun _ _ => Option.some_ne_none _
  have hgathered : Gathered _ _ _ _ d (finish peers wall none T.now (settle T.now [] context none (Desk.gather peers none T.now
      link (Job.create context seed (courseIds rows) bound ts).1 (tokensOf context (courseIds rows) ts) d))) :=
    gathered_finish hserves hall hstands (by simp [create_eq, left])
  generalize finish peers wall none T.now _ = r at hgathered
  cases hgathered with
  | complete length entities inv =>
    rw [length_unitsOf, length_courseIds] at length entities
    have hlist := eq_map_range length entities fun _ _ => rfl
    rw [hlist, map_courseAt]

end AllAnswered

end Desk

/-! ## A peer with the courses -/

/-- A peer on a network gives the course for each of some ids: its answer is a success that is read as that course. -/
def Peer.Supplies (network : Peer.Network) (d : Peer.Destination) (requestId : Option String) (ids : List String)
    (delay : Instant → String → Span) (course : String → Course) : Prop :=
  ∀ id ∈ ids, ∃ url, d.path.resolve d.base id = .ok url ∧ Peer.isSendable url.withoutCredentials = true ∧
    ∀ t, ∃ status location body, network t ⟨url, requestId⟩ = .answered (delay t id) status location body ∧
      Http.isSuccess status = true ∧ Wire.decodeGlyphs (Text.Utf8.places body) = .ok (course id)

theorem Peer.Supplies.answers {network : Peer.Network} {d : Peer.Destination} {requestId : Option String} {ids : List String}
    {delay : Instant → String → Span} {course : String → Course} (h : Peer.Supplies network d requestId ids delay course)
    (e : Peer.Endpoint) (hrequest : requestId.all Http.isHeaderValue = true) :
    Peer.Answers (Peer.exchange network e d) requestId ids delay fun _ id => course id := by
  intro t ts context id hid hcontext halive htime
  obtain ⟨url, hurl, hsendable, hanswers⟩ := h id hid
  obtain ⟨status, location, body, hanswer, hsuccess, hbody⟩ := hanswers t
  subst hcontext
  have hread : Peer.interpret e id status body = .ok (course id) := by rw [Peer.interpret, if_pos hsuccess, hbody]
  rw [← hread]
  exact Peer.exchange_answered hurl hsendable hrequest halive hanswer (Http.isRedirect_of_isSuccess hsuccess) htime (by simp)

/-! ## The enrollments of a student -/

def Store.everyEnrollmentOf (s : Store) (student : Int64) : List Enrollment :=
  (s.enrollments.rows.filter fun e => e.studentId = student).mergeSort fun a b => a.id ≤ b.id

namespace Store

variable (s : Store) (student : Int64)

theorem everyEnrollmentOf_perm :
    (s.everyEnrollmentOf student).Perm (s.enrollments.rows.filter fun e => e.studentId = student) :=
  List.mergeSort_perm _ _

theorem everyEnrollmentOf_sorted : (s.everyEnrollmentOf student).Pairwise fun a b => a.id ≤ b.id := Table.rows_sorted _ _

theorem enrollmentsOf_relationPage : s.enrollmentsOf student Service.relationPage = (s.everyEnrollmentOf student).take 1000 := rfl

end Store

/-! ## The call -/

namespace Desk

theorem Asks.perform_none {d : Desk} {link : Peer.Link} {id : String} {student : Student} (h : Asks d link id student [])
    (peers : Peers) (now : Instant) (wall : Moment) (context : Context) (ts : Tokens) :
    Desk.perform peers none now wall context (.getStudentCourses id) ts d =
      (.over (.returned (.ok (.courses []))) [], ts, d) := by
  have hhandle := h.handle wall context.method
  obtain ⟨hkind, hlink, -, -⟩ := h
  cases d
  subst hkind hlink
  simp only [Desk.perform, Option.isSome_some, hhandle, List.map_nil, if_true]

/-- A call for the courses of some enrollments that nothing stands in the way of. Its chain lets it in, the link lets all requests
through, and the sibling answers each of them in time. -/
structure Unhindered (network : Peer.Network) (sibling : Peer.Destination) (d : Desk) (link : Peer.Link) (id : String)
    (rows : List Enrollment) (now : Instant) (context : Context) (ts : Tokens) (delay : Instant → String → Span)
    (course : String → Course) : Prop where
  method : context.method = "get_student_courses"
  token : context.token < ts.nodes.size
  alive : ts.isCancelled context.token = false
  requestId : context.requestId.all Http.isHeaderValue = true
  enters : ∃ frames s bucket breaker, d.enter? now (.getStudentCourses id) = some (frames, s) ∧ link.Guards s bucket breaker ∧
    bucket.Admits (askingTimes delay rows d.fanOut now).start rows.length ∧
    breaker.Admits (askingTimes delay rows d.fanOut now) rows.length
  supplies : Peer.Supplies network sibling context.requestId (courseIds rows) delay course
  inTime : ∀ i < rows.length, (askingTimes delay rows d.fanOut now).finish i < context.deadline

section Courses

variable {network : Peer.Network} {sibling : Peer.Destination} {d : Desk} {link : Peer.Link} {id : String} {student : Student}
  {rows : List Enrollment} {now : Instant} {context : Context} {ts : Tokens} {delay : Instant → String → Span}
  {course : String → Course}

/-- The courses of the enrollments that are asked for come back in their order. -/
theorem Unhindered.ending (h : Unhindered network sibling d link id rows now context ts delay course) (wall : Moment)
    (hasks : Asks d link id student rows) (hlimit : d.fanOut ≤ maxPermits ∨ rows = []) :
    (finish (.across network (some sibling)) wall none now
        (d.start (.across network (some sibling)) none now wall context ts (.getStudentCourses id))).ending =
      .returned (.ok (.courses (rows.map fun e => course (toString e.courseId.toInt)))) := by
  obtain ⟨frames, s, bucket, breaker, henter, hguards, hbucket, hbreaker⟩ := h.enters
  have hasks' : Asks { d with stage := s } link id student rows := ⟨hasks.kind, hasks.link, hasks.found, hasks.enrolled⟩
  rw [start_of_enter? henter h.method, ending_finish_frames]
  by_cases hrows : rows = []
  · subst hrows
    rw [hasks'.perform_none]
    rfl
  rw [hasks'.perform hrows (hlimit.resolve_right hrows) h.token h.alive _ now wall]
  have hanswered : AllAnswered (Peers.across network (some sibling)).course context ts rows delay course
      (askingTimes delay rows d.fanOut now) bucket breaker :=
    ⟨h.alive, h.supplies.answers Peer.courseEndpoint h.requestId, delay_askingTimes delay d.fanOut now, hbucket, hbreaker,
      h.inTime⟩
  exact hanswered.ending rfl id wall hguards hrows

/-- A call for the courses of a student that nothing turns down gives the course of every enrollment, oldest first, unless there
are more than a thousand: then it gives the courses of the first thousand and leaves the others out. A bound on what is asked for
at once that is beyond the most permits breaks the call down. -/
theorem getStudentCourses_complete (hkind : d.kind = .students) (hlink : d.link = some link) (hsound : d.backend.outage = none)
    (hfound : Service.findStudent d.backend id = .ok student)
    (h : Unhindered network sibling d link id (d.backend.store.enrollmentsOf student.id Service.relationPage) now context ts delay
      course) (wall : Moment) :
    let every := d.backend.store.everyEnrollmentOf student.id
    let coursesOf := fun (list : List Enrollment) => list.map fun e => course (toString e.courseId.toInt)
    let ending := (finish (.across network (some sibling)) wall none now
      (d.start (.across network (some sibling)) none now wall context ts (.getStudentCourses id))).ending
    every.Perm (d.backend.store.enrollments.rows.filter fun e => e.studentId = student.id) ∧
      every.Pairwise (fun a b => a.id ≤ b.id) ∧
      (d.fanOut ≤ maxPermits ∨ every = [] →
        (every.length ≤ 1000 → ending = .returned (.ok (.courses (coursesOf every)))) ∧
        (1000 < every.length → ∃ read unread, every = read ++ unread ∧ read.length = 1000 ∧ unread ≠ [] ∧
          ending = .returned (.ok (.courses (coursesOf read))))) ∧
      (maxPermits < d.fanOut → every ≠ [] → ending = .panicked (some tooManyPermits)) := by
  intro every coursesOf ending
  have hasks : Asks d link id student (d.backend.store.enrollmentsOf student.id Service.relationPage) :=
    ⟨hkind, hlink, hfound, by rw [Backend.read, hsound]⟩
  have hread : d.backend.store.enrollmentsOf student.id Service.relationPage = every.take 1000 :=
    d.backend.store.enrollmentsOf_relationPage student.id
  rw [hread] at h hasks
  refine ⟨Store.everyEnrollmentOf_perm _ _, Store.everyEnrollmentOf_sorted _ _, fun hlimit => ?_, fun hlimit hsome => ?_⟩
  · have hending : ending = .returned (.ok (.courses (coursesOf (every.take 1000)))) :=
      h.ending wall hasks (hlimit.imp_right fun hnone => by rw [hnone, List.take_nil])
    refine ⟨fun hfew => ?_, fun hmany => ?_⟩
    · rwa [List.take_of_length_le hfew] at hending
    · refine ⟨every.take 1000, every.drop 1000, (List.take_append_drop 1000 every).symm, ?_, ?_, hending⟩
      · rw [List.length_take, Nat.min_eq_left (Nat.le_of_lt hmany)]
      · rw [ne_eq, List.drop_eq_nil_iff]
        omega
  · obtain ⟨frames, s, bucket, breaker, henter, -⟩ := h.enters
    have hasks' : Asks { d with stage := s } link id student (every.take 1000) :=
      ⟨hasks.kind, hasks.link, hasks.found, hasks.enrolled⟩
    have htaken : every.take 1000 ≠ [] := by simpa [List.take_eq_nil_iff] using hsome
    simp only [ending]
    rw [start_of_enter? henter h.method, hasks'.perform_beyond htaken hlimit]
    rfl

end Courses

/-! ## A student who takes a course twice -/

def twoCourses (id : String) : Course := if id = "7" then ⟨7, "Proofs\n"⟩ else ⟨8, "Sets"⟩

def slowFirst (_ : Instant) (id : String) : Span := if id = "7" then 5 else 2

def twoCoursesNetwork : Peer.Network := fun now out =>
  let asked := ["7", "8"].find? fun id =>
    (Peer.courseDestination.path.resolve Peer.courseDestination.base id).toOption = some out.url
  match asked with
  | some id => .answered (slowFirst now id) 200 none (Text.utf8Bytes (Wire.write (twoCourses id)))
  | none => Peer.Network.deserted now out

/-- One student, who takes the first course again after the second. -/
def retakenRecords : Store :=
  ([7, 8, 7] : List Int64).foldl (fun s c => (s.createEnrollment 1 c schoolStart).2)
    (Store.empty.createStudent ⟨"Ada", ⟨2011, 8, 30, by decide⟩, 5, 87000000001⟩).2

def thriceEnrolled : Desk :=
  let d := bare .students (.sound retakenRecords) 2
  (d.linkWith (.full 1.0 5 0) (.fresh "courses" .standard Fault.isDependencyFailure)).registerAll .standard 0

theorem supplies_twoCourses :
    Peer.Supplies twoCoursesNetwork Peer.courseDestination none ["7", "8", "7"] slowFirst twoCourses := by
  have hfinds : ∀ id ∈ ["7", "8", "7"], ∃ url, Peer.courseDestination.path.resolve Peer.courseDestination.base id = .ok url ∧
      Peer.isSendable url.withoutCredentials = true ∧
      (["7", "8"].find? fun id => (Peer.courseDestination.path.resolve Peer.courseDestination.base id).toOption = some url) =
        some id := by
    simp only [List.forall_mem_cons, List.not_mem_nil, false_implies, implies_true, and_true]
    exact ⟨⟨_, rfl, by decide, by decide +kernel⟩, ⟨_, rfl, by decide, by decide +kernel⟩, ⟨_, rfl, by decide, by decide +kernel⟩⟩
  intro id hid
  obtain ⟨url, hurl, hsendable, hfind⟩ := hfinds id hid
  refine ⟨url, hurl, hsendable, fun t => ⟨200, none, _, ?_, rfl, Wire.decodeGlyphs_places_utf8Bytes (twoCourses id)⟩⟩
  simp only [twoCoursesNetwork, hfind]

def retakenRows : List Enrollment := [⟨1, 1, 7, schoolStart⟩, ⟨2, 1, 8, schoolStart⟩, ⟨3, 1, 7, schoolStart⟩]

theorem everyEnrollmentOf_retaken : retakenRecords.everyEnrollmentOf 1 = retakenRows := by
  have hrows : (retakenRecords.enrollments.rows.filter fun e => e.studentId = 1) = retakenRows := by decide +kernel
  rw [Store.everyEnrollmentOf, hrows]
  exact List.mergeSort_of_pairwise (by decide)

/-- Nothing stands in the way of the call: the link has five tokens, and its breaker is closed. -/
theorem unhindered_thriceEnrolled :
    Unhindered twoCoursesNetwork Peer.courseDestination thriceEnrolled ⟨Peer.courseEndpoint, 0, 0⟩ "1" retakenRows 0
      (.opened 1 "students" "get_student_courses" 0 10 none) .fresh slowFirst twoCourses := by
  have hroom : (thriceEnrolled.enter? 0 (.getStudentCourses "1")).any (fun r : List Frame × Stage =>
      r.2.buckets[0]?.any (fun bucket => decide (bucket.Admits (askingTimes slowFirst retakenRows 2 0).start 3)) &&
      r.2.breakers[0]?.any fun breaker => decide (breaker.phase = .closed)) = true := by decide +kernel
  obtain ⟨⟨frames, s⟩, henter, hroom⟩ := (Option.any_eq_true _ _).mp hroom
  obtain ⟨hbuckets, hbreakers⟩ := Bool.and_eq_true_iff.mp hroom
  obtain ⟨bucket, hbucket, hadmits⟩ := (Option.any_eq_true _ _).mp hbuckets
  obtain ⟨breaker, hbreaker, hclosed⟩ := (Option.any_eq_true _ _).mp hbreakers
  have hids : courseIds retakenRows = ["7", "8", "7"] := by decide +kernel
  refine ⟨rfl, by decide, by decide, rfl, ?_, hids ▸ supplies_twoCourses, by decide +kernel⟩
  exact ⟨frames, s, bucket, breaker, henter, ⟨hbucket, hbreaker⟩, of_decide_eq_true hadmits, .closed (of_decide_eq_true hclosed)⟩

/-- The course that is taken twice comes twice, and in its places, though the other course is there first. -/
theorem getStudentCourses_thriceEnrolled :
    (finish (.across twoCoursesNetwork (some Peer.courseDestination)) schoolStart none 0
      (thriceEnrolled.start (.across twoCoursesNetwork (some Peer.courseDestination)) none 0 schoolStart
        (.opened 1 "students" "get_student_courses" 0 10 none) .fresh (.getStudentCourses "1"))).ending =
      .returned (.ok (.courses [⟨7, "Proofs\n"⟩, ⟨8, "Sets"⟩, ⟨7, "Proofs\n"⟩])) := by
  have hrecords : thriceEnrolled.backend.store = retakenRecords := rfl
  have hfound : Service.findStudent thriceEnrolled.backend "1" = .ok ⟨1, "Ada", ⟨2011, 8, 30, by decide⟩, 5, 87000000001⟩ := by
    rfl
  have hrows : thriceEnrolled.backend.store.enrollmentsOf 1 Service.relationPage = retakenRows := by
    rw [hrecords, Store.enrollmentsOf_relationPage, everyEnrollmentOf_retaken]
    rfl
  obtain ⟨-, -, hgiven, -⟩ := getStudentCourses_complete rfl rfl rfl hfound (hrows ▸ unhindered_thriceEnrolled) schoolStart
  have hall := (hgiven (.inl (by decide))).1
  rw [hrecords, everyEnrollmentOf_retaken] at hall
  exact hall (by decide)

end Desk

end Campus
