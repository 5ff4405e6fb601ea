import Campus.Proofs.Pipeline.Driven
import Campus.Proofs.Pipeline.Timers

/-! # Every call is counted once

A call goes through the decorators as soon as it is made, and from then on it is held until it ends: it comes to a result, breaks
down, or is dropped, perhaps before anyone has asked for what it came to. Its frames are left then and only then, so its timers
tell of it once. Calls may overlap, and between their steps anything may happen to the guards.
-/
namespace Campus.Pipeline

/-- A call that has not ended: the frames that wait for its end, and the fault that it was turned away with. -/
structure Held where
  made : Made
  frames : List Frame
  refusal : Option Fault

structure Past (α : Type) where
  made : Made
  ending : Ending α
  ended : Instant

section

variable {α : Type}

/-- How a call ends when it is to end in some way. One that was turned away has its fault already, but can still be dropped. -/
def Held.comesTo (h : Held) : Ending α → Ending α
  | .dropped => .dropped
  | ending =>
    match h.refusal with
    | some f => .returned (.error f)
    | none => ending

/-- What is to be told of a call that has ended: each meter that it got to tells of it once. -/
def Past.measures (p : Past α) : List Measure :=
  p.made.meters.map fun _ => ⟨p.made.call.method, p.ending.outcome, p.ended - p.made.since⟩

end

/-! ## Calls one after the other -/

/-- The calls of chains that share a guard room: the room, the time, the calls that were made, those that are held, and those that
have ended. -/
structure Calls (α : Type) where
  stage : Stage
  now : Instant
  made : List Made
  held : List Held
  past : List (Past α)

namespace Calls

inductive Act (α : Type) where
  /-- A call of a chain is made under a handle that no call is held under. -/
  | make (handle : String) (call : CallInfo) (chain : List Decorator)
  /-- A call that is held ends, or is dropped. -/
  | finish (handle : String) (ending : Ending α)
  | wait (span : Span)
  /-- Others leave the guards in some state, and write what is no measurement. -/
  | others (buckets : List (Bucket Float)) (breakers : List Breaker) (entries : { j : Journal // j.metrics = [] })

variable {α : Type}

def fresh (stage : Stage) : Calls α := ⟨stage, 0, [], [], []⟩

/-- Takes a call through its chain, and on to the operation if no decorator turns it away. -/
def make (c : Calls α) (handle : String) (call : CallInfo) (chain : List Decorator) : Calls α :=
  let m : Made := ⟨handle, call, chain, c.now, c.stage⟩
  let ((frames, refusal), stage) := enter c.now call chain [] c.stage
  { c with
    stage := if refusal.isNone then stage.write .invoked else stage
    made := c.made ++ [m]
    held := c.held ++ [⟨m, frames, refusal⟩] }

def finish [Summarize α] (c : Calls α) (h : Held) (ending : Ending α) : Calls α :=
  { c with
    stage := leave c.now ending.verdict h.frames c.stage
    held := c.held.filter fun g => g.made.handle != h.made.handle
    past := c.past ++ [⟨h.made, ending, c.now⟩] }

def step [Summarize α] (c : Calls α) : Act α → Calls α
  | .make handle call chain => if c.held.any fun h => h.made.handle == handle then c else c.make handle call chain
  | .finish handle ending =>
    match c.held.find? fun h => h.made.handle == handle with
    | some h => c.finish h (h.comesTo ending)
    | none => c
  | .wait span => { c with now := c.now + span }
  | .others buckets breakers entries => 
    { c with stage := { c.stage with buckets, breakers, journal := c.stage.journal ++ entries } }

def after [Summarize α] (c : Calls α) (acts : List (Act α)) : Calls α := acts.foldl step c

/-- Every call that was made is held or has ended, and the frames of those that are held are the ones that they came in with. -/
structure Sound (c : Calls α) : Prop where
  distinct : (c.held.map fun h => h.made.handle).Nodup
  made : c.made.Perm (c.held.map Held.made ++ c.past.map Past.made)
  frames : ∀ h ∈ c.held, (enter h.made.since h.made.call h.made.chain [] h.made.room).1 = (h.frames, h.refusal)

/-- From one state to another some calls end, and the meters tell of these and of no others. -/
structure Tells (c c' : Calls α) (ended : List (Past α)) : Prop where
  past : c'.past = c.past ++ ended
  measured : c.stage.Measured c'.stage (ended.flatMap Past.measures)

variable {c c' c'' : Calls α} {handle : String} {h : Held}

theorem Tells.trans {ended later : List (Past α)} (ht : c.Tells c' ended) (ht' : c'.Tells c'' later) :
    c.Tells c'' (ended ++ later) where
  past := by rw [ht'.past, ht.past, List.append_assoc]
  measured := by
    rw [List.flatMap_append]
    exact ht.measured.trans ht'.measured

/-- As long as no call ends nothing is to be told. -/
theorem tells_nil (hpast : c'.past = c.past) (hmeasured : c.stage.Measured c'.stage []) : c.Tells c' [] :=
  ⟨hpast.trans (List.append_nil _).symm, hmeasured⟩

theorem sound_fresh (stage : Stage) : (fresh stage : Calls α).Sound where
  distinct := List.nodup_nil
  made := .nil
  frames _ hh := by cases hh

theorem Sound.make (hc : c.Sound) (hfree : ∀ h ∈ c.held, h.made.handle ≠ handle) (call : CallInfo)
    (chain : List Decorator) : (c.make handle call chain).Sound where
  distinct := by
    simpa [Calls.make, List.nodup_append] using ⟨hc.distinct, hfree⟩
  made := by
    simp only [Calls.make, List.map_append, List.map_cons, List.map_nil, List.append_assoc]
    refine (hc.made.append_right [⟨handle, call, chain, c.now, c.stage⟩]).trans ?_
    rw [List.append_assoc]
    exact List.perm_append_comm.append_left _
  frames h hh := by
    rcases List.mem_append.mp hh with hold | hnew
    · exact hc.frames h hold
    · rw [List.mem_singleton.mp hnew]

theorem tells_make (c : Calls α) (handle : String) (call : CallInfo) (chain : List Decorator) :
    c.Tells (c.make handle call chain) [] := by
  have hentered := measured_enter c.now call chain [] c.stage
  refine tells_nil rfl ?_
  simp only [make]
  split
  · exact hentered.trans (Stage.measured_write _ rfl)
  · exact hentered

theorem Sound.held_perm (hc : c.Sound) (hh : h ∈ c.held) :
    c.held.Perm ((c.held.filter fun g => g.made.handle != h.made.handle) ++ [h]) := by
  have hnodup : c.held.Nodup := hc.distinct.of_map _
  have hothers : ((c.held.filter fun g => g.made.handle != h.made.handle) ++ [h]).Nodup := by
    refine List.nodup_append.mpr ⟨hnodup.filter _, List.nodup_singleton h, ?_⟩
    rintro g hg _ hlast rfl
    rw [List.mem_singleton.mp hlast] at hg
    simpa using (List.mem_filter.mp hg).2
  refine (List.perm_ext_iff_of_nodup hnodup hothers).mpr fun g => ?_
  by_cases hsame : g.made.handle = h.made.handle
  · have heq : g ∈ c.held ↔ g = h :=
      ⟨fun hg => List.inj_on_of_nodup_map hc.distinct hg hh hsame, fun heq => heq ▸ hh⟩
    simp [heq, hsame]
  · have hne : g ≠ h := fun heq => hsame (by rw [heq])
    simp [hsame, hne]

theorem Sound.find? (hc : c.Sound) (hh : h ∈ c.held) : (c.held.find? fun g => g.made.handle == h.made.handle) = some h := by
  cases hfound : c.held.find? fun g => g.made.handle == h.made.handle with
  | none => simpa using List.find?_eq_none.mp hfound h hh
  | some g =>
    have hsame : g.made.handle = h.made.handle := by simpa using List.find?_some hfound
    rw [List.inj_on_of_nodup_map hc.distinct (List.mem_of_find?_eq_some hfound) hh hsame]

variable [Summarize α]

theorem Sound.step_finish (hc : c.Sound) (hh : h ∈ c.held) (ending : Ending α) :
    c.step (.finish h.made.handle ending) = c.finish h (h.comesTo ending) := by
  rw [Calls.step, hc.find? hh]

theorem Sound.finish (hc : c.Sound) (hh : h ∈ c.held) (ending : Ending α) : (c.finish h ending).Sound where
  distinct := hc.distinct.sublist (List.filter_sublist.map _)
  made := by
    have hheld := ((hc.held_perm hh).map Held.made).append_right (c.past.map Past.made)
    simp only [List.map_append, List.append_assoc] at hheld
    refine (hc.made.trans hheld).trans ?_
    simp only [Calls.finish, List.map_append]
    exact List.perm_append_comm.append_left _
  frames g hg := hc.frames g (List.mem_filter.mp hg).1

/-- A call that ends is told of by each meter that it got to when it was made. -/
theorem Sound.tells_finish (hc : c.Sound) (hh : h ∈ c.held) (ending : Ending α) :
    c.Tells (c.finish h ending) [⟨h.made, ending, c.now⟩] where
  past := rfl
  measured := by
    have hframes : (enter h.made.since h.made.call h.made.chain [] h.made.room).1.1 = h.frames :=
      congrArg Prod.fst (hc.frames h hh)
    have hleft := measured_leave c.now ending.verdict h.frames c.stage
    rw [← hframes, Made.measures_enter, Ending.outcome_verdict, hframes] at hleft
    simpa [Past.measures, Made.meters, Calls.finish] using hleft

/-- Whatever happens, something is told only of the calls that end by it. -/
theorem Sound.step (hc : c.Sound) (a : Act α) : (c.step a).Sound ∧ ∃ ended, c.Tells (c.step a) ended := by
  have hidle : c.Tells c [] := tells_nil rfl c.stage.measured_refl
  cases a with
  | make handle call chain =>
    by_cases hused : (c.held.any fun h => h.made.handle == handle) = true
    · simp only [Calls.step, hused, if_true]
      exact ⟨hc, [], hidle⟩
    · simp only [Calls.step, hused]
      exact ⟨hc.make (by simpa using hused) call chain, [], c.tells_make handle call chain⟩
  | finish handle ending =>
    cases hfound : c.held.find? fun h => h.made.handle == handle with
    | none =>
      simp only [Calls.step, hfound]
      exact ⟨hc, [], hidle⟩
    | some h =>
      simp only [Calls.step, hfound]
      have hh := List.mem_of_find?_eq_some hfound
      exact ⟨hc.finish hh _, _, hc.tells_finish hh _⟩
  | wait span => exact ⟨⟨hc.distinct, hc.made, hc.frames⟩, [], tells_nil rfl c.stage.measured_refl⟩
  | others buckets breakers entries =>
    have hquiet : c.stage.Measured { c.stage with buckets, breakers, journal := c.stage.journal ++ entries } [] :=
      Stage.measured_of_metrics rfl entries.2
    exact ⟨⟨hc.distinct, hc.made, hc.frames⟩, [], tells_nil rfl hquiet⟩

theorem Sound.after (hc : c.Sound) (acts : List (Act α)) : (c.after acts).Sound ∧ ∃ ended, c.Tells (c.after acts) ended := by
  induction acts generalizing c with
  | nil => exact ⟨hc, [], tells_nil rfl c.stage.measured_refl⟩
  | cons a acts ih =>
    obtain ⟨hnext, ended, htells⟩ := hc.step a
    obtain ⟨hlast, later, htells'⟩ := ih hnext
    exact ⟨hlast, ended ++ later, htells.trans htells'⟩

theorem after_append (c : Calls α) (first rest : List (Act α)) :
    c.after (first ++ rest) = (c.after first).after rest := List.foldl_append

/-! ## Runs -/

/-- The calls of a run. A run ends a call that is turned away at once. -/
structure Shows (c : Calls α) (r : Run α) : Prop where
  stage : r.stage = c.stage
  now : r.now = c.now
  flights : r.flights.map (fun f => (f.handle, f.frames)) = c.held.map fun h => (h.made.handle, h.frames)
  let_in : ∀ h ∈ c.held, h.refusal = none
  ended : r.ended = (c.past.map fun p => (p.made.handle, p.ending)).reverse

variable {r : Run α} {f : Flight α}

omit [Summarize α] in
theorem comesTo_of_let_in (hin : h.refusal = none) (ending : Ending α) : h.comesTo ending = ending := by
  cases ending <;> simp [Held.comesTo, hin]

theorem Shows.finish (hs : c.Shows r) (hhandle : f.handle = h.made.handle) (hframes : f.frames = h.frames) (ending : Ending α) :
    (c.finish h ending).Shows (r.finish f ending) where
  stage := by simp only [Calls.finish, Run.finish, hs.stage, hs.now, hframes]
  now := hs.now
  flights := by
    have hothers := congrArg (List.filter fun x => x.1 != h.made.handle) hs.flights
    simpa [List.filter_map, Function.comp_def, Calls.finish, Run.finish, hhandle] using hothers
  let_in g hg := hs.let_in g (List.mem_filter.mp hg).1
  ended := by simp [Calls.finish, Run.finish, hs.ended, hhandle]

/-- A call that is turned away leaves its frames as soon as it is asked for what it came to. -/
theorem Shows.refuse (hs : c.Shows r) (hfree : ∀ h ∈ c.held, h.made.handle ≠ handle) {call : CallInfo} {frames : List Frame}
    {fault : Fault} {s : Stage} (henter : enter c.now call r.decorators [] c.stage = ((frames, some fault), s)) :
    let h : Held := ⟨⟨handle, call, r.decorators, c.now, c.stage⟩, frames, some fault⟩
    ((c.make handle call r.decorators).finish h (.returned (.error fault))).Shows
      { r with
        stage := leave r.now (.failed fault) frames s
        ended := (handle, .returned (.error fault)) :: r.ended } := by
  intro h
  have hothers : (c.held.filter fun h => h.made.handle != handle) = c.held :=
    List.filter_eq_self.mpr fun h hh => by simpa using hfree h hh
  simp only [h, Calls.make, Calls.finish, henter, List.filter_append, hothers]
  exact { hs with
    stage := by simp [hs.now, Ending.verdict]
    flights := by simp [hs.flights]
    let_in := by simpa using hs.let_in
    ended := by simp [hs.ended] }

omit [Summarize α] in
theorem Shows.letIn (hs : c.Shows r) (handle : String) {call : CallInfo} {frames : List Frame} {s : Stage}
    (henter : enter c.now call r.decorators [] c.stage = ((frames, none), s)) (due : Instant) (ending : Ending α) :
    (c.make handle call r.decorators).Shows
      { r with
        stage := s.write .invoked
        flights := r.flights ++ [⟨handle, frames, due, ending⟩] } := by
  simp only [Calls.make, henter]
  exact { hs with
    stage := rfl
    flights := by simp [hs.flights]
    let_in := List.forall_mem_append.mpr ⟨hs.let_in, by simp⟩ }

theorem step_make (hfree : ∀ h ∈ c.held, h.made.handle ≠ handle) (call : CallInfo)
    (chain : List Decorator) : c.step (.make handle call chain) = c.make handle call chain := by
  have hunused : (c.held.any fun h => h.made.handle == handle) = false := by simpa using hfree
  simp only [Calls.step, hunused]
  rfl

/-- A call that has just been made is the one that is held under its handle. -/
theorem after_make_finish (hfree : ∀ h ∈ c.held, h.made.handle ≠ handle) {call : CallInfo} {chain : List Decorator}
    {frames : List Frame} {refusal : Option Fault} {s : Stage}
    (henter : enter c.now call chain [] c.stage = ((frames, refusal), s)) (ending : Ending α) :
    let h : Held := ⟨⟨handle, call, chain, c.now, c.stage⟩, frames, refusal⟩
    c.after [.make handle call chain, .finish handle ending] = (c.make handle call chain).finish h (h.comesTo ending) := by
  intro h
  have hnone : (c.held.find? fun h => h.made.handle == handle) = none := by simpa using hfree
  have hfound : ((c.make handle call chain).held.find? fun h => h.made.handle == handle) = some h := by
    simp [Calls.make, henter, List.find?_append, hnone, h]
  rw [after, List.foldl_cons, step_make hfree, List.foldl_cons, List.foldl_nil, Calls.step, hfound]

theorem Shows.enterCall (hs : c.Shows r) (hfree : ∀ h ∈ c.held, h.made.handle ≠ handle) (call : CallInfo)
    (behaviour : Behaviour α) : ∃ acts, (c.after acts).Shows (r.enterCall handle call behaviour) := by
  rcases henter : enter c.now call r.decorators [] c.stage with ⟨⟨frames, _ | fault⟩, s⟩
  · have hstart : startCall r.now call r.decorators r.stage = (.ok frames, s) := by
      rw [hs.now, hs.stage]
      exact startCall_of_entered henter
    have hin := hs.letIn handle henter (r.now + behaviour.delay) behaviour.ending
    simp only [Run.enterCall, hstart]
    split
    · refine ⟨[.make handle call r.decorators, .finish handle behaviour.ending], ?_⟩
      rw [after_make_finish hfree henter, comesTo_of_let_in rfl]
      exact hin.finish rfl rfl behaviour.ending
    · refine ⟨[.make handle call r.decorators], ?_⟩
      rw [after, List.foldl_cons, step_make hfree]
      exact hin
  · have hstart : startCall r.now call r.decorators r.stage = (.error fault, leave r.now (.failed fault) frames s) := by
      rw [hs.now, hs.stage]
      exact startCall_of_refused henter
    refine ⟨[.make handle call r.decorators, .finish handle (.returned (.error fault))], ?_⟩
    rw [after_make_finish hfree henter]
    simp only [Run.enterCall, hstart]
    exact hs.refuse hfree henter

theorem Shows.step (hs : c.Shows r) (e : Event α) : ∃ acts, (c.after acts).Shows (r.step e) := by
  cases e with
  | arrive handle call behaviour =>
    have hused : (r.flights.any fun f => f.handle == handle) = c.held.any fun h => h.made.handle == handle := by
      have hany := congrArg (List.any · fun x => x.1 == handle) hs.flights
      simpa [List.any_map, Function.comp_def] using hany
    by_cases hfree : (c.held.any fun h => h.made.handle == handle) = true
    · have hidle : r.step (.arrive handle call behaviour) = r := by simp [Run.step, hused, hfree]
      exact ⟨[], by rw [hidle]; exact hs⟩
    · obtain ⟨acts, hacts⟩ := hs.enterCall (by simpa using hfree) call behaviour
      exact ⟨acts, by simpa [Run.step, hused, hfree] using hacts⟩
  | finish handle ending =>
    have hfound := congrArg (List.find? fun x => x.1 == handle) hs.flights
    simp only [List.find?_map, Function.comp_def] at hfound
    cases hh : c.held.find? fun h => h.made.handle == handle with
    | none =>
      have hf : (r.flights.find? fun f => f.handle == handle) = none := by simpa [hh] using hfound
      have hidle : r.step (.finish handle ending) = r := by simp [Run.step, hf]
      exact ⟨[], by rw [hidle]; exact hs⟩
    | some h =>
      obtain ⟨f, hf, heq⟩ := Option.map_eq_some_iff.mp (hfound.trans (congrArg _ hh))
      have hin := hs.let_in h (List.mem_of_find?_eq_some hh)
      have hout := hs.finish (congrArg Prod.fst heq) (congrArg Prod.snd heq) ending
      exact ⟨[.finish handle ending], by simpa [Run.step, hf, after, Calls.step, hh, comesTo_of_let_in hin] using hout⟩
  | wait span => exact ⟨[.wait span], { hs with now := congrArg (· + span) hs.now }⟩

theorem Shows.after (hs : c.Shows r) (events : List (Event α)) : ∃ acts, (c.after acts).Shows (r.after events) := by
  induction events generalizing c r with
  | nil => exact ⟨[], hs⟩
  | cons e events ih =>
    obtain ⟨first, hfirst⟩ := hs.step e
    obtain ⟨rest, hrest⟩ := ih hfirst
    exact ⟨first ++ rest, by rw [after_append]; exact hrest⟩

omit [Summarize α] in
theorem shows_fresh (decorators : List Decorator) (stage : Stage) :
    (fresh stage : Calls α).Shows (Run.fresh decorators stage) where
  stage := rfl
  now := rfl
  flights := rfl
  let_in _ hh := by cases hh
  ended := rfl

/-- Every call is counted once. Whatever happens to the calls of chains over one guard room, each call that was made is held or has
ended. Those that have ended are all that the meters tell of, in the order in which they ended: for each of them, each meter that
it got to counted it under the outcome of its end and at once observed how long it took, and no other meter did. This is done when
the call ends. The runs of each chain are among these. -/
theorem counted_once (stage : Stage) (acts : List (Act α)) :
    let c : Calls α := (fresh stage).after acts
    c.made.Perm (c.held.map Held.made ++ c.past.map Past.made) ∧
    stage.Measured c.stage (c.past.flatMap Past.measures) ∧
    (∀ h ∈ c.held, ∀ ending, c.Tells (c.step (.finish h.made.handle ending)) [⟨h.made, h.comesTo ending, c.now⟩]) ∧
    (∀ m : Made, m.meters.Nodup ∧ ∀ i, i ∈ m.meters ↔ m.chain[i]? = some .metrics ∧ m.passes (m.chain.take i) = true) ∧
    ∀ decorators events, ∃ acts, ((fresh stage : Calls α).after acts).Shows ((Run.fresh decorators stage).after events) := by
  intro c
  obtain ⟨hc, ended, htells⟩ := (sound_fresh stage : (fresh stage : Calls α).Sound).after acts
  have hpast : c.past = ended := htells.past.trans (List.nil_append _)
  refine ⟨hc.made, hpast ▸ htells.measured, fun h hh ending => ?_, fun m => ⟨m.nodup_meters, fun i => m.mem_meters⟩,
    fun decorators => (shows_fresh decorators stage).after⟩
  rw [hc.step_finish hh]
  exact hc.tells_finish hh _

/-- What commands do to a run comes down to acts, too, so its calls are counted once. -/
theorem shows_of_driven {decorators : List Decorator} {stage : Stage} {r : Run α} (h : (Run.fresh decorators stage).Driven r) :
    ∃ acts, ((fresh stage : Calls α).after acts).Shows r := by
  obtain ⟨events, rfl⟩ := h.reaches (Run.distinct_fresh _ _)
  exact (shows_fresh decorators stage).after events

end Calls

/-- A meter on either side of a breaker that opens at the first failure. The first call fails, the second breaks down, and the breaker
rejects the others. Of these the meter inside never learns: two are told of once, though one of them is dropped before it is asked
for its fault, and the third, of a chain without the meter outside, is not counted at all. -/
example :
    let breaker := Breaker.fresh "courses" ⟨1, 1000⟩ Fault.isDependencyFailure
    let late := Fault.aggregate "1" "10" (.remoteTimeout "courses" 7)
    let inside : List Decorator := [.breaker 0, .metrics]
    let around := .metrics :: inside
    let c := (Calls.fresh ⟨[], [breaker], [], []⟩ : Calls Course).after
      [.make "a" ⟨"get_course", ""⟩ around, .make "b" ⟨"list_courses", ""⟩ around, .wait 7,
        .finish "a" (.returned (.error late)), .make "c" ⟨"get_course", ""⟩ around, .make "d" ⟨"get_course", ""⟩ around,
        .make "e" ⟨"get_course", ""⟩ inside, .wait 1, .finish "e" .dropped, .finish "d" .dropped,
        .finish "c" (.returned (.ok ⟨10, "Algebra"⟩)), .finish "b" (.panicked none)]
    c.stage.journal.metrics =
      [.counted "get_course" (.failed .remoteTimeout), .observed "get_course" 7,
        .counted "get_course" (.failed .remoteTimeout), .observed "get_course" 7,
        .counted "get_course" .aborted, .observed "get_course" 1,
        .counted "get_course" (.failed .circuitOpen), .observed "get_course" 1,
        .counted "list_courses" .aborted, .observed "list_courses" 8,
        .counted "list_courses" .aborted, .observed "list_courses" 8] := by
  decide

end Campus.Pipeline
