import Campus.Proofs.Pipeline.Refinement

/-! # Logging and metrics are transparent

What logging and metrics leave behind are frames that wait for the end of a call, and entries in the journal. Without them
every operation of a run does the same: taking away what they left and going on comes to the same as going on and taking it away.
So a chain without its loggers and meters gives every call the same end, lets the same calls through, and leaves its limiters
and breakers in the same states.
-/
namespace Campus

def Entry.isWatch : Entry → Bool
  | notice n => n.isCallLine
  | e => e.isMetric

namespace Pipeline

def Decorator.isWatch : Decorator → Bool
  | logging | metrics => true
  | _ => false

def Frame.isWatch : Frame → Bool
  | log _ _ _ | timer _ _ => true
  | permit _ _ => false

/-- A guard room whose journal tells nothing of how calls ended. -/
def Stage.unwatched (s : Stage) : Stage := { s with journal := s.journal.filter fun e => !e.isWatch }

def unwatched (frames : List Frame) : List Frame := frames.filter fun f => !f.isWatch

def Flight.unwatched {α : Type} (f : Flight α) : Flight α := { f with frames := Pipeline.unwatched f.frames }

def Unasked.unwatched (u : Unasked) : Unasked := { u with frames := Pipeline.unwatched u.frames }

def Run.unwatched {α : Type} (r : Run α) : Run α where
  decorators := r.decorators.filter fun d => !d.isWatch
  stage := r.stage.unwatched
  now := r.now
  flights := r.flights.map Flight.unwatched
  ended := r.ended

/-! ## Frames and journals -/

namespace Stage

variable (s : Stage)

@[simp] theorem unwatched_unwatched : s.unwatched.unwatched = s.unwatched := by
  simp [unwatched]

@[simp] theorem buckets_unwatched : s.unwatched.buckets = s.buckets := rfl

@[simp] theorem breakers_unwatched : s.unwatched.breakers = s.breakers := rfl

@[simp] theorem invocations_unwatched : s.unwatched.journal.invocations = s.journal.invocations := List.count_filter rfl

theorem unwatched_write {e : Entry} (h : e.isWatch = false) : (s.write e).unwatched = s.unwatched.write e := by
  simp [unwatched, write, h]

theorem unwatched_write_watch {e : Entry} (h : e.isWatch = true) : (s.write e).unwatched = s.unwatched := by
  simp [unwatched, write, h]

theorem unwatched_note {ns : List Notice} (h : ns.filter Notice.isCallLine = []) :
    (s.note ns).unwatched = s.unwatched.note ns := by
  have hkept : (ns.map Entry.notice).filter (fun e => !e.isWatch) = ns.map Entry.notice := by
    rw [List.filter_eq_self]
    intro e he
    obtain ⟨n, hn, rfl⟩ := List.mem_map.mp he
    simpa [Entry.isWatch] using List.filter_eq_nil_iff.mp h n hn
  simp [unwatched, note, hkept]

theorem unwatched_note_line (v : Verdict) (call : CallInfo) (elapsed : Span) :
    (s.note [v.line call elapsed]).unwatched = s.unwatched := by
  simp [unwatched, note, Entry.isWatch, v.isCallLine_line call elapsed]

end Stage

/-- A frame of a watcher leaves nothing but its entries; any other does what it does without them. -/
theorem Frame.unwatched_leave (now : Instant) (v : Verdict) (s : Stage) (f : Frame) :
    (Frame.leave now v s f).unwatched = if !f.isWatch then Frame.leave now v s.unwatched f else s.unwatched := by
  cases f with
  | log method fields since =>
    rw [Frame.leave_log now since v s ⟨method, fields⟩]
    exact s.unwatched_note_line v _ _
  | timer method since =>
    rw [Frame.leave_timer, Stage.unwatched_write_watch _ rfl, Stage.unwatched_write_watch _ rfl]
    rfl
  | permit i p =>
    have hkept : s.unwatched.breakers[i]? = s.breakers[i]? := rfl
    cases h : s.breakers[i]? with
    | none => simp [Frame.leave, h, isWatch]
    | some b =>
      rw [Frame.leave_permit h, Stage.unwatched_note _ (b.callLines_conclude now p v)]
      exact (Frame.leave_permit (hkept.trans h) now v p).symm

theorem unwatched_leave (now : Instant) (v : Verdict) (frames : List Frame) (s : Stage) :
    (leave now v frames s).unwatched = leave now v (unwatched frames) s.unwatched := by
  rw [leave, leave, unwatched, List.foldl_filter]
  exact (List.foldl_hom Stage.unwatched fun s f => (Frame.unwatched_leave now v s f).symm).symm

theorem unwatched_enter (now : Instant) (call : CallInfo) (decorators : List Decorator) (frames : List Frame) (s : Stage) :
    enter now call (decorators.filter fun d => !d.isWatch) (unwatched frames) s.unwatched =
      ((unwatched (enter now call decorators frames s).1.1, (enter now call decorators frames s).1.2),
        (enter now call decorators frames s).2.unwatched) := by
  induction decorators generalizing frames s with
  | nil => rfl
  | cons d inner ih =>
    cases d with
    | logging => exact ih (.log call.method call.fields now :: frames) s
    | metrics => exact ih (.timer call.method now :: frames) s
    | mark name =>
      have hpassed := ih frames (s.write (.passed name))
      rw [s.unwatched_write rfl] at hpassed
      exact hpassed
    | rateLimit endpoint i =>
      have hchain : (Decorator.rateLimit endpoint i :: inner).filter (fun d => !d.isWatch) =
          .rateLimit endpoint i :: inner.filter fun d => !d.isWatch := rfl
      simp only [hchain, enter, Stage.buckets_unwatched]
      cases hb : s.buckets[i]? with
      | none => exact ih frames s
      | some b =>
        rcases ht : b.take now with ⟨_ | _, b'⟩
        · have hnoted : (Stage.note { s with buckets := s.buckets.set i b' } [.rateLimited endpoint]).unwatched = _ :=
            Stage.unwatched_note _ rfl
          simp only [ht, Bool.false_eq_true, if_false, hnoted]
          rfl
        · simp only [ht, if_true]
          exact ih frames { s with buckets := s.buckets.set i b' }
    | breaker i =>
      have hchain : (Decorator.breaker i :: inner).filter (fun d => !d.isWatch) =
          .breaker i :: inner.filter fun d => !d.isWatch := rfl
      simp only [hchain, enter, Stage.breakers_unwatched]
      cases hb : s.breakers[i]? with
      | none => exact ih frames s
      | some b =>
        have hquiet := b.callLines_acquire now
        rcases ha : b.acquire now with ⟨permit, b', ns⟩
        rw [ha] at hquiet
        have hnoted : (Stage.note { s with breakers := s.breakers.set i b' } ns).unwatched =
            Stage.note { s.unwatched with breakers := s.breakers.set i b' } ns := Stage.unwatched_note _ hquiet
        simp only [ha, ← hnoted]
        cases permit with
        | none => rfl
        | some p => exact ih (.permit i p :: frames) _

/-! ## Runs -/

section Flights

variable {α : Type} (f : Flight α)

@[simp] theorem Flight.due_unwatched : f.unwatched.due = f.due := rfl

@[simp] theorem Flight.ending_unwatched : f.unwatched.ending = f.ending := rfl

@[simp] theorem Flight.unwatched_unwatched : f.unwatched.unwatched = f.unwatched := by
  simp [unwatched, Pipeline.unwatched]

@[simp] theorem map_unwatched_unasked (us : List Unasked) :
    (us.map Unasked.unwatched).map Unasked.unwatched = us.map Unasked.unwatched := by
  simp [Unasked.unwatched, Pipeline.unwatched]

end Flights

namespace Run

variable {α : Type} (r : Run α)

@[simp] theorem now_unwatched : r.unwatched.now = r.now := rfl

@[simp] theorem ended_unwatched : r.unwatched.ended = r.ended := rfl

@[simp] theorem stage_unwatched : r.unwatched.stage = r.stage.unwatched := rfl

@[simp] theorem length_flights_unwatched : r.unwatched.flights.length = r.flights.length := List.length_map ..

@[simp] theorem unwatched_unwatched : r.unwatched.unwatched = r.unwatched := by
  simp [unwatched, Function.comp_def]

theorem nextDue?_unwatched : r.unwatched.nextDue? = r.nextDue? := by
  simp only [nextDue?, unwatched, List.map_map]
  rfl

theorem find?_unwatched (handle : String) : (r.unwatched.flights.find? fun f => f.handle == handle) =
    (r.flights.find? fun f => f.handle == handle).map Flight.unwatched := by
  simp only [unwatched, List.find?_map]
  rfl

theorem dueFlights_unwatched : r.unwatched.dueFlights = r.dueFlights.map Flight.unwatched := by
  simp only [dueFlights, unwatched, List.filter_map]
  exact (List.map_mergeSort (f := Flight.unwatched) fun _ _ _ _ => rfl).symm

variable [Summarize α]

theorem unwatched_finish (f : Flight α) (ending : Ending α) :
    (r.finish f ending).unwatched = r.unwatched.finish f.unwatched ending := by
  simp only [finish, unwatched, unwatched_leave, List.filter_map]
  rfl

omit [Summarize α] in
theorem unwatched_make (handle : String) (call : CallInfo) :
    r.unwatched.make handle call = ((r.make handle call).1.unwatched, (r.make handle call).2.unwatched) := by
  have henter := unwatched_enter r.now call r.decorators [] r.stage
  rcases h : enter r.now call r.decorators [] r.stage with ⟨⟨frames, refusal⟩, s⟩
  rw [h] at henter
  have hentered : enter r.unwatched.now call r.unwatched.decorators [] r.unwatched.stage = _ := henter
  simp only [make, h, hentered]
  cases refusal with
  | some fault => rfl
  | none => simp [unwatched, Unasked.unwatched, Stage.unwatched_write s (e := .invoked) rfl]

theorem unwatched_ask (u : Unasked) (behaviour : Behaviour α) :
    (r.ask u behaviour).unwatched = r.unwatched.ask u.unwatched behaviour := by
  obtain ⟨handle, call, frames, _ | fault⟩ := u
  · have hflight : Run.unwatched { r with flights := r.flights ++ [⟨handle, frames, r.now + behaviour.delay, behaviour.ending⟩] } =
        { r.unwatched with
          flights := r.unwatched.flights ++
            [⟨handle, Pipeline.unwatched frames, r.now + behaviour.delay, behaviour.ending⟩] } := by
      simp [unwatched, Flight.unwatched]
    simp only [ask, Unasked.unwatched, now_unwatched]
    split
    · rw [unwatched_finish, hflight]
      rfl
    · exact hflight
  · simp only [ask, Unasked.unwatched, unwatched, unwatched_leave]

omit [Summarize α] in
theorem unwatched_discard (u : Unasked) : (r.discard u).unwatched = r.unwatched.discard u.unwatched := by
  simp only [discard, Unasked.unwatched, unwatched, unwatched_leave]

theorem enterCall_eq_ask (handle : String) (call : CallInfo) (behaviour : Behaviour α) :
    r.enterCall handle call behaviour = (r.make handle call).2.ask (r.make handle call).1 behaviour := by
  rcases h : enter r.now call r.decorators [] r.stage with ⟨⟨frames, _ | fault⟩, s⟩
  · simp only [enterCall, startCall_of_entered h, make, h, ask]
    rfl
  · simp only [enterCall, startCall_of_refused h, make, h, ask]
    rfl

theorem unwatched_enterCall (handle : String) (call : CallInfo) (behaviour : Behaviour α) :
    (r.enterCall handle call behaviour).unwatched = r.unwatched.enterCall handle call behaviour := by
  rw [enterCall_eq_ask, unwatched_ask, enterCall_eq_ask, unwatched_make]

theorem unwatched_settle : r.settle.unwatched = r.unwatched.settle := by
  rw [settle, settle, dueFlights_unwatched, List.foldl_map]
  exact (List.foldl_hom Run.unwatched fun r f => (r.unwatched_finish f f.ending).symm).symm

theorem unwatched_start (handle : String) (call : CallInfo) (behaviour : Behaviour α) :
    (r.start handle call behaviour).unwatched = r.unwatched.start handle call behaviour := by
  rw [start, unwatched_enterCall, unwatched_settle, start]

theorem unwatched_jump (t : Instant) : (r.jump t).unwatched = r.unwatched.jump t := unwatched_settle _

theorem unwatched_passTo (limit : Instant) (fuel : Nat) :
    (r.passTo limit fuel).unwatched = r.unwatched.passTo limit fuel := by
  induction fuel generalizing r with
  | zero => rfl
  | succ fuel ih =>
    simp only [passTo, nextDue?_unwatched]
    cases r.nextDue? with
    | none => rfl
    | some t =>
      by_cases ht : t < limit
      · simp only [ht, if_true, ih, unwatched_jump]
      · simp only [ht, if_false]

theorem unwatched_abort (handle : String) : (r.abort handle).unwatched = r.unwatched.abort handle := by
  simp only [abort, find?_unwatched]
  cases r.flights.find? fun f => f.handle == handle with
  | none => rfl
  | some f =>
    simp only [Option.map_some, unwatched_settle]
    congr 1
    simp only [now_unwatched, Flight.due_unwatched]
    by_cases hdue : f.due ≤ r.now
    · simp only [hdue, if_true, unwatched, List.map_map]
      congr 1
      refine List.map_congr_left fun g _ => ?_
      simp only [Function.comp_apply]
      rw [apply_ite Flight.unwatched]
      rfl
    · simp only [hdue, if_false, unwatched, List.map_append, List.filter_map]
      rfl

theorem unwatched_join (handle : String) : (r.join handle).unwatched = r.unwatched.join handle := by
  simp only [join, find?_unwatched]
  cases r.flights.find? fun f => f.handle == handle with
  | none => rfl
  | some f =>
    simp only [Option.map_some, unwatched_jump, unwatched_passTo, length_flights_unwatched, Flight.due_unwatched]

theorem unwatched_call (handle : String) (info : CallInfo) (behaviour : Behaviour α) (within : Option Span) :
    (r.call handle info behaviour within).unwatched = r.unwatched.call handle info behaviour within := by
  simp only [call, ← unwatched_enterCall, find?_unwatched]
  generalize r.enterCall handle info behaviour = r'
  cases r'.flights.find? fun f => f.handle == handle with
  | none => rfl
  | some f =>
    simp only [Option.map_some, unwatched_finish, now_unwatched, length_flights_unwatched, Flight.due_unwatched,
      Flight.ending_unwatched, ← unwatched_passTo]
    rfl

theorem unwatched_step_finish (handle : String) (ending : Ending α) :
    (r.step (.finish handle ending)).unwatched = r.unwatched.step (.finish handle ending) := by
  simp only [step, find?_unwatched]
  cases r.flights.find? fun f => f.handle == handle with
  | none => rfl
  | some f => exact r.unwatched_finish f ending

end Run

/-! ## Every run -/

inductive Command where
  /-- A call is made, and nobody asks for it yet. -/
  | make (handle : String) (call : CallInfo)
  /-- A call that was made is asked for, for the first time. -/
  | ask (handle : String)
  /-- A call that nobody has asked for is dropped. -/
  | discard (handle : String)
  /-- A call begins in the background. -/
  | start (handle : String) (call : CallInfo)
  /-- A call is made and waited for, for at most a given span; then it is dropped. -/
  | call (handle : String) (call : CallInfo) (within : Option Span)
  /-- The operation of a call ends, whenever it was due. -/
  | finish (handle : String)
  | abort (handle : String)
  | join (handle : String)
  | jump (t : Instant)

/-- A run, the calls that have reached the operation, in order, each with the instant at which it was made, and the calls that nobody
has asked for. -/
structure Bench (α : Type) where
  run : Run α
  reached : List (Instant × String × CallInfo)
  unasked : List Unasked

/-- An operation: how it behaves for a call, and how it ends when it does not keep to that. It sees all that happened but what
logging and metrics left. -/
structure BaseOperation (α : Type) where
  behaviour : Bench α → String → CallInfo → Behaviour α
  ending : Bench α → String → Ending α

namespace Bench

variable {α : Type}

def fresh (decorators : List Decorator) (stage : Stage) : Bench α := ⟨.fresh decorators stage, [], []⟩

/-- What the operation and the guards know: all but what logging and metrics left. -/
def unwatched (b : Bench α) : Bench α := ⟨b.run.unwatched, b.reached, b.unasked.map Unasked.unwatched⟩

/-- Goes on with a run in which a call was made. The call has reached the operation if that was invoked. -/
def enter (b : Bench α) (handle : String) (call : CallInfo) (run : Run α) : Bench α :=
  { b with
    run := run
    reached := if b.run.stage.journal.invocations < run.stage.journal.invocations then
      b.reached ++ [(b.run.now, handle, call)] else b.reached }

/-- Goes on with the call under a handle that nobody has asked for, if there is one. -/
def resume (b : Bench α) (handle : String) (go : Unasked → Run α) : Bench α :=
  match b.unasked.find? fun u => u.handle == handle with
  | none => b
  | some u => { b with run := go u, unasked := b.unasked.filter fun v => v.handle != handle }

theorem unwatched_enter (b : Bench α) (handle : String) (call : CallInfo) (run : Run α) :
    (b.enter handle call run).unwatched = b.unwatched.enter handle call run.unwatched := by
  simp only [enter, unwatched, Run.stage_unwatched, Stage.invocations_unwatched, Run.now_unwatched]

theorem unwatched_resume (b : Bench α) (handle : String) {go go' : Unasked → Run α}
    (hgo : ∀ u, (go u).unwatched = go' u.unwatched) : (b.resume handle go).unwatched = b.unwatched.resume handle go' := by
  have hfind : (b.unwatched.unasked.find? fun u => u.handle == handle) =
      (b.unasked.find? fun u => u.handle == handle).map Unasked.unwatched := by
    simp only [unwatched, List.find?_map]
    rfl
  simp only [resume, hfind]
  cases b.unasked.find? fun u => u.handle == handle with
  | none => rfl
  | some u =>
    simp only [Option.map_some, unwatched, hgo, List.filter_map]
    rfl

@[simp] theorem reached_unwatched (b : Bench α) : b.unwatched.reached = b.reached := rfl

@[simp] theorem unwatched_unwatched (b : Bench α) : b.unwatched.unwatched = b.unwatched := by
  simp only [unwatched, Run.unwatched_unwatched, map_unwatched_unasked]

theorem unwatched_fresh (decorators : List Decorator) (stage : Stage) :
    (fresh decorators stage : Bench α).unwatched =
      (fresh (decorators.filter fun d => !d.isWatch) stage : Bench α).unwatched := by
  simp [fresh, Run.fresh, unwatched, Run.unwatched]

variable [Summarize α] (op : BaseOperation α)

/-- What a command does. A call that begins in the background comes behind what is due, and the operation is asked after that. -/
def step (b : Bench α) : Command → Bench α
  | .make handle call =>
    let (u, run) := b.run.make handle call
    let entered := b.enter handle call run
    { entered with unasked := entered.unasked ++ [u] }
  | .ask handle => b.resume handle fun u => b.run.ask u (op.behaviour b.unwatched handle u.call)
  | .discard handle => b.resume handle fun u => b.run.discard u
  | .start handle call =>
    let settled : Bench α := { b with run := b.run.settle }
    b.enter handle call (b.run.start handle call (op.behaviour settled.unwatched handle call))
  | .call handle call within => b.enter handle call (b.run.call handle call (op.behaviour b.unwatched handle call) within)
  | .finish handle => { b with run := b.run.step (.finish handle (op.ending b.unwatched handle)) }
  | .abort handle => { b with run := b.run.abort handle }
  | .join handle => { b with run := b.run.join handle }
  | .jump t => { b with run := b.run.jump t }

def after (b : Bench α) (commands : List Command) : Bench α := commands.foldl (step op) b

/-- A command does the same without what logging and metrics left. -/
theorem unwatched_step (b : Bench α) (c : Command) : (b.step op c).unwatched = b.unwatched.step op c := by
  cases c with
  | make handle call =>
    have hentered := b.unwatched_enter handle call (b.run.make handle call).2
    have hmade : b.unwatched.run.make handle call = _ := b.run.unwatched_make handle call
    simp only [step, hmade, ← hentered]
    simp [unwatched]
  | ask handle =>
    refine b.unwatched_resume handle fun u => ?_
    rw [Run.unwatched_ask, unwatched_unwatched]
    rfl
  | discard handle => exact b.unwatched_resume handle b.run.unwatched_discard
  | start handle call =>
    simp only [step, unwatched_enter, Run.unwatched_start]
    simp only [unwatched, ← Run.unwatched_settle, Run.unwatched_unwatched, map_unwatched_unasked]
  | call handle call within =>
    simp only [step, unwatched_enter, Run.unwatched_call]
    simp only [unwatched, Run.unwatched_unwatched, map_unwatched_unasked]
  | finish handle =>
    simp only [step, unwatched_unwatched]
    exact congrArg (Bench.mk · b.reached (b.unasked.map Unasked.unwatched)) (b.run.unwatched_step_finish handle _)
  | abort handle => exact congrArg (Bench.mk · b.reached (b.unasked.map Unasked.unwatched)) (b.run.unwatched_abort handle)
  | join handle => exact congrArg (Bench.mk · b.reached (b.unasked.map Unasked.unwatched)) (b.run.unwatched_join handle)
  | jump t => exact congrArg (Bench.mk · b.reached (b.unasked.map Unasked.unwatched)) (b.run.unwatched_jump t)

theorem unwatched_after (b : Bench α) (commands : List Command) :
    (b.after op commands).unwatched = b.unwatched.after op commands :=
  (List.foldl_hom unwatched fun b c => (b.unwatched_step op c).symm).symm

/-- Two runs are alike for all who read neither the log lines nor the measurements of calls: the calls that have ended, those that have
reached the operation and those that are on their way are the same, and so are the guards and all else that is written. -/
structure Alike (b b' : Bench α) : Prop where
  ended : b.run.ended = b'.run.ended
  reached : b.reached = b'.reached
  now : b.run.now = b'.run.now
  buckets : b.run.stage.buckets = b'.run.stage.buckets
  breakers : b.run.stage.breakers = b'.run.stage.breakers
  flights : b.run.flights.map Flight.unwatched = b'.run.flights.map Flight.unwatched
  unasked : b.unasked.map Unasked.unwatched = b'.unasked.map Unasked.unwatched
  journal : b.run.stage.unwatched.journal = b'.run.stage.unwatched.journal

omit [Summarize α] in
theorem alike_of_unwatched {b b' : Bench α} (h : b.unwatched = b'.unwatched) : b.Alike b' := by
  have hrun : b.run.unwatched = b'.run.unwatched := congrArg run h
  have hstage : b.run.stage.unwatched = b'.run.stage.unwatched := congrArg Run.stage hrun
  exact {
    ended := by simpa using congrArg Run.ended hrun
    reached := by simpa using congrArg reached h
    now := by simpa using congrArg Run.now hrun
    buckets := by simpa using congrArg Stage.buckets hstage
    breakers := by simpa using congrArg Stage.breakers hstage
    flights := congrArg Run.flights hrun
    unasked := congrArg unasked h
    journal := congrArg Stage.journal hstage }

/-- Logging and metrics are transparent: a chain of any decorators, over guards that may be shared, and the same chain without its
loggers and meters give every call of every run the same end, let the same calls through in the same order at the same instants,
and leave every limiter and every breaker in the same state, though calls overlap, are asked for late and are dropped midway or before
anyone has asked for them. -/
theorem watchers_transparent (decorators : List Decorator) (stage : Stage) (commands : List Command) :
    let whole := (fresh decorators stage).after op commands
    let bare := (fresh (decorators.filter fun d => !d.isWatch) stage).after op commands
    bare.Alike whole := by
  intro whole bare
  refine alike_of_unwatched ?_
  rw [unwatched_after, unwatched_after, ← unwatched_fresh]

end Bench

end Pipeline

end Campus
