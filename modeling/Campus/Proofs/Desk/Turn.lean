import Campus.Desk

/-! # Turns of an operation

All that can come of an operation before its first wait. Its service settles it, or it is up to the peer: nobody is there without a link,
a single request ends at once or waits, and a fan-out does not begin or goes as far as it can.
-/
namespace Campus.Desk

inductive Performs (peers : Peers) (stop : Option Instant) (now : Instant) (wall : Moment) (context : Context) (ts : Tokens)
    (d : Desk) : Service.Step → Turn × Tokens × Desk → Prop
  | replied (result : Except Fault Response) :
    Performs peers stop now wall context ts d (.reply result) (.over (.returned result) [], ts, d)
  | alone {step : Service.Step} (hlink : d.link = none) :
    Performs peers stop now wall context ts d step (.over .dropped [], ts, d)
  | confirmed {student course : Int64} {link : Peer.Link} {ending : Ending Course} {stage : Pipeline.Stage}
    (hlink : d.link = some link)
    (hstart : Peer.start link peers.course stop ts now context (toString course.toInt) d.stage = (.ended ending, stage)) :
    Performs peers stop now wall context ts d (.confirmCourse student course)
      (.over (confirmed { d with stage } student course wall ending).1 [], ts,
        (confirmed { d with stage } student course wall ending).2)
  | confirming {student course : Int64} {link : Peer.Link} {due : Instant} {flight : Peer.Flight Course}
    {stage : Pipeline.Stage} (hlink : d.link = some link)
    (hstart : Peer.start link peers.course stop ts now context (toString course.toInt) d.stage = (.running due flight, stage)) :
    Performs peers stop now wall context ts d (.confirmCourse student course)
      (.waiting (.confirming student course due flight), ts, { d with stage })
  | answered {course : Int64} {link : Peer.Link} {ending : Ending (List Student)} {stage : Pipeline.Stage}
    (hlink : d.link = some link)
    (hstart : Peer.start link peers.roster stop ts now context (toString course.toInt) d.stage = (.ended ending, stage)) :
    Performs peers stop now wall context ts d (.askRoster course) (.over (rosterReply ending) [], ts, { d with stage })
  | asking {course : Int64} {link : Peer.Link} {due : Instant} {flight : Peer.Flight (List Student)} {stage : Pipeline.Stage}
    (hlink : d.link = some link)
    (hstart : Peer.start link peers.roster stop ts now context (toString course.toInt) d.stage = (.running due flight, stage)) :
    Performs peers stop now wall context ts d (.askRoster course) (.waiting (.roster due flight), ts, { d with stage })
  | unbegun {seed : String} {courses : List Int64} {ending : Ending Response} {ts' : Tokens}
    (h : ending ∈ [.returned (.ok (.courses [])), .panicked (some FanOut.tooManyPermits), .returned (.error .cancelled)]) :
    Performs peers stop now wall context ts d (.askCourses seed courses) (.over ending [], ts', d)
  | gathering {seed : String} {courses : List Int64} {link : Peer.Link} {ids : List String} {ts' : Tokens}
    (hlink : d.link = some link) :
    Performs peers stop now wall context ts d (.askCourses seed courses)
      (gather peers stop now link (FanOut.Job.create context seed ids d.fanOut ts).1 ts' d)

/-- Whatever the service of an operation has to say, that comes of it. -/
theorem performs (peers : Peers) (stop : Option Instant) (now : Instant) (wall : Moment) (context : Context) (op : Operation)
    (ts : Tokens) (d : Desk) :
    ∃ step backend, Service.handle d.kind d.link.isSome wall context.method op d.backend = (step, backend) ∧
      Performs peers stop now wall context ts { d with backend } step (perform peers stop now wall context op ts d) := by
  obtain ⟨kind, backend, endpoints, link, fanOut, stage⟩ := d
  unfold perform
  dsimp only
  rcases Service.handle kind link.isSome wall context.method op backend with ⟨step, backend⟩
  refine ⟨step, backend, rfl, ?_⟩
  rcases link with _ | link
  · cases step with
    | reply result => exact .replied result
    | _ => exact .alone rfl
  cases step with
  | reply result => exact .replied result
  | confirmCourse student course =>
    dsimp only
    split
    case h_1 hended => exact .confirmed rfl hended
    case h_2 hrunning => exact .confirming rfl hrunning
  | askRoster course =>
    dsimp only
    split
    case h_1 hended => exact .answered rfl hended
    case h_2 hrunning => exact .asking rfl hrunning
  | askCourses seed courses =>
    dsimp only
    split
    · exact .unbegun (by simp)
    split
    · exact .unbegun (by simp)
    split
    · exact .unbegun (by simp)
    · exact .gathering rfl

end Campus.Desk
