import Campus.Proofs.Desk.Layout

/-! # Endpoints beside each other

All calls of a desk, of any methods and overlapping in any way. What a call of one method meets with is the bucket and the breaker of
that method and nothing else, so a door with those two things does what the whole desk does for the method, and it hears only of
the calls of that method.
-/
namespace Campus

open Pipeline Desk

deriving instance DecidableEq for Ending

namespace Pipeline.Stage

def at? (s : Stage) (i : Nat) : Option (Bucket Float) × Option Breaker := (s.buckets[i]?, s.breakers[i]?)

theorem Holds.at? {s : Stage} {i : Nat} {bucket : Bucket Float} {breaker : Breaker} (h : s.Holds i bucket breaker) :
    s.at? i = (some bucket, some breaker) := Prod.ext h.bucket h.breaker

end Pipeline.Stage

namespace Desk

/-- What the chain of its method makes of a call, and the guard room after that. -/
def enterChain (d : Desk) (now : Instant) (context : Context) (op : Operation) : Except Fault (List Frame) × Stage :=
  match d.endpoints.find? fun e => e.1 = context.method with
  | none => (.error (.unknownMethod context.method), d.stage)
  | some (_, chain) => startCall now ⟨context.method, op.fields⟩ chain d.stage

/-- What happens to a call that waits: its wait is over, its token is cancelled, or it is given up. -/
inductive Move where
  | proceed (peers : Peers) (now : Instant) (wall : Moment)
  | cancel (now : Instant)
  | abandon (now : Instant)

namespace Move

def now : Move → Instant
  | proceed _ now _ | cancel now | abandon now => now

def apply (p : Pending) (d : Desk) : Move → Progress × Desk
  | proceed peers now wall => Desk.proceed peers now wall p d
  | cancel now => Desk.cancel now p d
  | abandon now => (.ended .dropped, Desk.abandon now p d)

theorem fixtures_apply (p : Pending) (d : Desk) (move : Move) : (move.apply p d).2.fixtures = d.fixtures := by
  cases move with
  | proceed peers now wall => exact fixtures_proceed p d
  | cancel now => exact fixtures_cancel p d
  | abandon now => exact fixtures_abandon p d

/-- Whatever happens to a waiting call, its end settles the permits that it holds, and without an end they stay with it. -/
theorem holds_apply {p : Pending} {d : Desk} {i : Nat} {bucket : Bucket Float} {breaker : Breaker} {permits : List Permit}
    (hp : p.Keeps i permits) (h : d.stage.Holds i bucket breaker) (move : Move) :
    (move.apply p d).2.stage.Holds i bucket ((move.apply p d).1.settled move.now permits breaker) ∧
      ∀ q, (move.apply p d).1 = .waiting q → q.Keeps i permits := by
  cases move with
  | proceed peers now wall => exact holds_proceed peers now wall hp h
  | cancel now => exact holds_cancel now hp h
  | abandon now => exact ⟨holds_abandon now hp h, by rintro q ⟨⟩⟩

end Move

end Desk

/-- A desk at work. A call is known by its method and by its number among the calls of that method, counted from zero. -/
structure Traffic where
  desk : Desk
  /-- How many calls of each method have come. -/
  came : String → Nat
  waiting : String → Nat → Option Pending
  /-- The calls that their chains let in. -/
  admitted : List (String × Nat)
  /-- How calls ended. -/
  results : List (String × Nat × Ending Response)

namespace Traffic

def opened (d : Desk) : Traffic := ⟨d, fun _ => 0, fun _ _ => none, [], []⟩

/-- What happens at a desk: a call comes in, something happens to one that waits, or what was torn down is swept. -/
inductive Event where
  | call (peers : Peers) (stop : Option Instant) (now : Instant) (wall : Moment) (context : Context) (tokens : Tokens)
    (op : Operation)
  | move (method : String) (number : Nat) (move : Move)
  | sweep (now : Instant)

def note (r : Traffic) (method : String) (number : Nat) (progress : Progress × Desk) : Traffic :=
  let put (p : Option Pending) : String → Nat → Option Pending := fun m n =>
    if m = method ∧ n = number then p else r.waiting m n
  match progress with
  | (.ended ending, desk) =>
    { r with desk, waiting := put none, results := r.results ++ [(method, number, ending)] }
  | (.waiting p, desk) => { r with desk, waiting := put (some p) }

def register (r : Traffic) (now : Instant) (context : Context) (op : Operation) : Traffic :=
  { r with
    came := fun m => if m = context.method then r.came m + 1 else r.came m
    admitted := match (r.desk.enterChain now context op).1 with
      | .ok _ => r.admitted ++ [(context.method, r.came context.method)]
      | .error _ => r.admitted }

def step (r : Traffic) : Event → Traffic
  | .call peers stop now wall context tokens op =>
    (r.register now context op).note context.method (r.came context.method)
      (start peers stop now wall context tokens op r.desk)
  | .move method number move =>
    match r.waiting method number with
    | some p => r.note method number (move.apply p r.desk)
    | none => r
  | .sweep now => { r with desk := r.desk.sweep now }

def after (r : Traffic) (events : List Event) : Traffic := events.foldl step r

section

variable (r : Traffic) (method : String) (number : Nat) (x : Progress × Desk)

theorem desk_note : (r.note method number x).desk = x.2 := by
  obtain ⟨_ | _, d⟩ := x <;> rfl

theorem came_note : (r.note method number x).came = r.came := by
  obtain ⟨_ | _, d⟩ := x <;> rfl

theorem admitted_note : (r.note method number x).admitted = r.admitted := by
  obtain ⟨_ | _, d⟩ := x <;> rfl

theorem waiting_note_of_ne {m : String} {n : Nat} (h : ¬(m = method ∧ n = number)) :
    (r.note method number x).waiting m n = r.waiting m n := by
  obtain ⟨_ | _, d⟩ := x <;> exact if_neg h

end

theorem of_waiting_note {r : Traffic} {method : String} {number : Nat} {x : Progress × Desk} {m : String} {n : Nat} {p : Pending}
    (h : (r.note method number x).waiting m n = some p) : r.waiting m n = some p ∨ x.1 = .waiting p := by
  by_cases hown : m = method ∧ n = number
  · obtain ⟨ending | q, d⟩ := x
    · cases (if_pos hown).symm.trans h
    · exact .inr (congrArg Desk.Progress.waiting (Option.some.inj ((if_pos hown).symm.trans h)))
  · exact .inl ((waiting_note_of_ne r method number x hown).symm.trans h)

/-! ## What is seen of one method -/

/-- What the door of one method sees: a call comes, or the operation of a call that was let in ends. -/
inductive Sighting where
  | came (now : Instant)
  | ended (number : Nat) (now : Instant) (ending : Ending Response)
  deriving DecidableEq

def departure (number : Nat) (now : Instant) : Progress → List Sighting
  | .ended ending => [.ended number now ending]
  | .waiting _ => []

/-- What an event lets the door of a method see. -/
def sightings (method : String) (r : Traffic) : Event → List Sighting
  | .call peers stop now wall context tokens op =>
    if context.method = method then
      .came now :: match (r.desk.enterChain now context op).1 with
        | .ok _ => departure (r.came method) now (start peers stop now wall context tokens op r.desk).1
        | .error _ => []
    else []
  | .move other number move =>
    if other = method then
      match r.waiting method number with
      | some p => departure number move.now (move.apply p r.desk).1
      | none => []
    else []
  | .sweep _ => []

def allSightings (method : String) (r : Traffic) : List Event → List Sighting
  | [] => []
  | e :: events => r.sightings method e ++ (r.step e).allSightings method events

def admittedOf (r : Traffic) (method : String) : List Nat :=
  r.admitted.filterMap fun c => if c.1 = method then some c.2 else none

def resultsOf (r : Traffic) (method : String) : List (Nat × Ending Response) :=
  r.results.filterMap fun c => if c.1 = method then some c.2 else none

theorem resultsOf_note_of_ne (r : Traffic) (number : Nat) (x : Progress × Desk) {other method : String} (hne : other ≠ method) :
    (r.note other number x).resultsOf method = r.resultsOf method := by
  obtain ⟨ending | p, d⟩ := x
  · simp [note, resultsOf, hne]
  · rfl

def guards (r : Traffic) (method : String) : Option (Bucket Float) × Option Breaker := r.desk.stage.at? (r.desk.place method)

/-- The bucket and the breaker of a method while a call is between its chain and its operation. -/
def between (method : String) (r : Traffic) : Event → List (Option (Bucket Float) × Option Breaker)
  | .call _ _ now _ context _ op => [(r.desk.enterChain now context op).2.at? (r.desk.place method)]
  | .move _ _ _ | .sweep _ => []

/-- The bucket and the breaker of a method all along a run. -/
def allGuards (method : String) (r : Traffic) : List Event → List (Option (Bucket Float) × Option Breaker)
  | [] => [r.guards method]
  | e :: events => r.guards method :: (r.between method e ++ (r.step e).allGuards method events)

/-! ## Doors -/

/-- The door of one method: its bucket and its breaker, the permits of the calls inside by their numbers, and what became of all
calls so far. -/
structure Door where
  bucket : Bucket Float
  breaker : Breaker
  came : Nat
  inside : Nat → Option Permit
  admitted : List Nat
  results : List (Nat × Ending Response)

namespace Door

def fresh (bucket : Bucket Float) (breaker : Breaker) : Door := ⟨bucket, breaker, 0, fun _ => none, [], []⟩

def put (door : Door) (number : Nat) (permit : Option Permit) : Nat → Option Permit := fun n =>
  if n = number then permit else door.inside n

def step (method : String) (door : Door) : Sighting → Door
  | .came now =>
    match letIn method now door.bucket door.breaker with
    | (.error fault, bucket, breaker) =>
      { door with
        bucket, breaker
        came := door.came + 1
        inside := door.put door.came none
        results := door.results ++ [(door.came, .returned (.error fault))] }
    | (.ok permit, bucket, breaker) =>
      { door with
        bucket, breaker
        came := door.came + 1
        inside := door.put door.came (some permit)
        admitted := door.admitted ++ [door.came] }
  | .ended number now ending =>
    match door.inside number with
    | some permit =>
      { door with
        breaker := (door.breaker.conclude now permit ending.verdict).1
        inside := door.put number none
        results := door.results ++ [(number, ending)] }
    | none => door

def after (method : String) (door : Door) (seen : List Sighting) : Door := seen.foldl (step method) door

def guards (door : Door) : Option (Bucket Float) × Option Breaker := (some door.bucket, some door.breaker)

def allGuards (method : String) (door : Door) : List Sighting → List (Option (Bucket Float) × Option Breaker)
  | [] => [door.guards]
  | s :: seen => door.guards :: (door.step method s).allGuards method seen

end Door

/-- A call of a method waits at the desk if it is inside at the door, and holds the permit that the door gave it. -/
inductive Stands (i : Nat) : Option Pending → Option Permit → Prop
  | out : Stands i none none
  | inside {p : Pending} {permit : Permit} (h : p.Keeps i [permit]) : Stands i (some p) (some permit)

/-- The books on a method at a desk and at its door agree, but for one call at most. -/
structure Agrees (method : String) (but : Nat → Prop) (r : Traffic) (door : Door) : Prop where
  arranged : r.desk.Arranged
  known : method ∈ Service.methods r.desk.kind
  came : r.came method = door.came
  stands {n : Nat} : ¬but n → Stands (r.desk.place method) (r.waiting method n) (door.inside n)
  others {other : String} {n : Nat} {p : Pending} : other ≠ method → r.waiting other n = some p →
    p.Keeps (r.desk.place method) []
  admitted : r.admittedOf method = door.admitted
  results : r.resultsOf method = door.results

/-- A door does what the desk does for a method. -/
structure Mirrors (method : String) (r : Traffic) (door : Door) : Prop extends Agrees method (fun _ => False) r door where
  holds : r.desk.stage.Holds (r.desk.place method) door.bucket door.breaker

section

variable {method : String} {r : Traffic} {door : Door}

theorem Mirrors.guards (h : Mirrors method r door) : r.guards method = door.guards := h.holds.at?

theorem Agrees.but {but : Nat → Prop} (h : Agrees method (fun _ => False) r door) : Agrees method but r door :=
  { h with stands := fun _ => h.stands not_false }

theorem Agrees.guarded {but : Nat → Prop} (h : Agrees method but r door) (bucket : Bucket Float) (breaker : Breaker) :
    Agrees method but r { door with bucket, breaker } :=
  ⟨h.arranged, h.known, h.came, h.stands, h.others, h.admitted, h.results⟩

theorem Agrees.note_ended {number : Nat} (h : Agrees method (· = number) r door) {ending : Ending Response} {d : Desk}
    (hfixtures : d.fixtures = r.desk.fixtures) (hstage : d.stage.Holds (r.desk.place method) door.bucket door.breaker) :
    Mirrors method (r.note method number (.ended ending, d))
      { door with inside := door.put number none, results := door.results ++ [(number, ending)] } := by
  have hplace : d.place method = r.desk.place method := place_of_fixtures hfixtures method
  refine ⟨⟨h.arranged.of_fixtures hfixtures, kind_of_fixtures hfixtures ▸ h.known, h.came, ?_, ?_, h.admitted, ?_⟩, ?_⟩
  · intro n _
    by_cases hn : n = number
    · simpa [note, Door.put, hn] using Stands.out
    · simpa [note, Door.put, hn, hplace] using h.stands hn
  · intro other n q hne hq
    simp only [note, hne, false_and, if_false] at hq
    simpa only [note, hplace] using h.others hne hq
  · simp only [note, resultsOf, List.filterMap_append]
    exact congrArg₂ (· ++ ·) h.results (by simp)
  · simpa only [note, hplace] using hstage

theorem Agrees.note_waiting {number : Nat} (h : Agrees method (· = number) r door) {permit : Permit}
    (hinside : door.inside number = some permit) {p : Pending} {d : Desk} (hfixtures : d.fixtures = r.desk.fixtures)
    (hstage : d.stage.Holds (r.desk.place method) door.bucket door.breaker)
    (hkeeps : p.Keeps (r.desk.place method) [permit]) : Mirrors method (r.note method number (.waiting p, d)) door := by
  have hplace : d.place method = r.desk.place method := place_of_fixtures hfixtures method
  refine ⟨⟨h.arranged.of_fixtures hfixtures, kind_of_fixtures hfixtures ▸ h.known, h.came, ?_, ?_, h.admitted, h.results⟩, ?_⟩
  · intro n _
    by_cases hn : n = number
    · simpa [note, hn, hinside, hplace] using Stands.inside hkeeps
    · simpa [note, hn, hplace] using h.stands hn
  · intro other n q hne hq
    simp only [note, hne, false_and, if_false] at hq
    simpa only [note, hplace] using h.others hne hq
  · simpa only [note, hplace] using hstage

/-- A step of a call that is inside is seen at the door if the call is over, and not otherwise. -/
theorem Agrees.note_inside {number : Nat} (h : Agrees method (· = number) r door) {now : Instant} {permit : Permit}
    (hinside : door.inside number = some permit) {x : Progress × Desk} (hfixtures : x.2.fixtures = r.desk.fixtures)
    (hx : x.2.stage.Holds (r.desk.place method) door.bucket (x.1.settled now [permit] door.breaker) ∧
      ∀ p, x.1 = .waiting p → p.Keeps (r.desk.place method) [permit]) :
    Mirrors method (r.note method number x) (door.after method (departure number now x.1)) := by
  obtain ⟨progress, d⟩ := x
  cases progress with
  | waiting p => exact h.note_waiting hinside hfixtures hx.1 (hx.2 p rfl)
  | ended ending =>
    have hdoor : door.after method (departure number now (.ended ending)) =
        { door with
          breaker := (door.breaker.conclude now permit ending.verdict).1
          inside := door.put number none
          results := door.results ++ [(number, ending)] } := by
      simp only [departure, Door.after, List.foldl_cons, List.foldl_nil, Door.step, hinside]
    rw [hdoor]
    exact (h.guarded door.bucket (door.breaker.conclude now permit ending.verdict).1).note_ended hfixtures hx.1

/-- Taking note of a call of another method does not touch the books on this one. -/
theorem Mirrors.note_other (h : Mirrors method r door) {other : String} (hne : other ≠ method) {number : Nat}
    {x : Progress × Desk} (hfixtures : x.2.fixtures = r.desk.fixtures)
    (hx : x.2.stage.Holds (r.desk.place method) door.bucket door.breaker ∧
      ∀ p, x.1 = .waiting p → p.Keeps (r.desk.place method) []) : Mirrors method (r.note other number x) door := by
  obtain ⟨hstage, hkeeps⟩ := hx
  have hplace : x.2.place method = r.desk.place method := place_of_fixtures hfixtures method
  refine ⟨⟨?_, ?_, ?_, fun {n} _ => ?_, fun {another n q} hanother hq => ?_, ?_, ?_⟩, ?_⟩
  · rw [desk_note]
    exact h.arranged.of_fixtures hfixtures
  · rw [desk_note, kind_of_fixtures hfixtures]
    exact h.known
  · rw [came_note]
    exact h.came
  · rw [desk_note, hplace, waiting_note_of_ne _ _ _ _ fun hown => hne hown.1.symm]
    exact h.stands not_false
  · rw [desk_note, hplace]
    rcases of_waiting_note hq with hwaited | hwaits
    · exact h.others hanother hwaited
    · exact hkeeps q hwaits
  · rw [admittedOf, admitted_note]
    exact h.admitted
  · rw [resultsOf_note_of_ne r number x hne]
    exact h.results
  · rw [desk_note, hplace]
    exact hstage

/-! ## Calls that come in -/

/-- What the chain of its method makes of a call at a desk is what the door makes of it. -/
theorem Mirrors.enterChain (h : Mirrors method r door) (now : Instant) {context : Context} (hmethod : context.method = method)
    (op : Operation) :
    ∃ s, r.desk.enterChain now context op =
        ((letIn method now door.bucket door.breaker).1.map
          (endpointFrames (r.desk.place method) ⟨method, op.fields⟩ now), s) ∧
      s.Holds (r.desk.place method) (letIn method now door.bucket door.breaker).2.1
        (letIn method now door.bucket door.breaker).2.2 := by
  obtain ⟨s, hstart, hstage⟩ := startCall_endpoint h.holds now ⟨method, op.fields⟩ method
  refine ⟨s, ?_, hstage⟩
  have hchain := h.arranged.chain h.known
  simp only [Desk.enterChain, hmethod, hchain, hstart]

theorem Agrees.register_refused (h : Agrees method (fun _ => False) r door) {now : Instant} {context : Context}
    {op : Operation} (hmethod : context.method = method) {fault : Fault}
    (hrefused : (r.desk.enterChain now context op).1 = .error fault) :
    Agrees method (· = door.came) (r.register now context op) { door with came := door.came + 1 } where
  arranged := h.arranged
  known := h.known
  came := by simp [register, hmethod, h.came]
  stands _ := h.stands not_false
  others := h.others
  admitted := by simpa [register, hrefused, admittedOf] using h.admitted
  results := h.results

theorem Agrees.register_admitted (h : Agrees method (fun _ => False) r door) {now : Instant} {context : Context}
    {op : Operation} (hmethod : context.method = method) {frames : List Frame}
    (hadmitted : (r.desk.enterChain now context op).1 = .ok frames) (permit : Permit) :
    Agrees method (· = door.came) (r.register now context op)
      { door with
        came := door.came + 1
        inside := door.put door.came (some permit)
        admitted := door.admitted ++ [door.came] } where
  arranged := h.arranged
  known := h.known
  came := by simp [register, hmethod, h.came]
  stands {n} hn := by
    have hsame : door.put door.came (some permit) n = door.inside n := if_neg hn
    have hstands := h.stands (n := n) not_false
    rw [← hsame] at hstands
    exact hstands
  others := h.others
  admitted := by
    simp only [register, hadmitted, admittedOf, List.filterMap_append]
    exact congrArg₂ (· ++ ·) h.admitted (by simp [hmethod, h.came])
  results := h.results

/-- A call of the method is seen at the door when it comes, and again if it is let in and over at once. -/
theorem Mirrors.step_call (h : Mirrors method r door) {peers : Peers} {stop : Option Instant} {now : Instant} {wall : Moment}
    {context : Context} {tokens : Tokens} {op : Operation} (hmethod : context.method = method) :
    Mirrors method (r.step (.call peers stop now wall context tokens op))
      (door.after method (r.sightings method (.call peers stop now wall context tokens op))) := by
  have hown := holds_start_own peers stop now wall context tokens op (h.arranged.spares_link method) h.holds
    (by rw [hmethod]; exact h.arranged.chain h.known)
  have hfixtures : (start peers stop now wall context tokens op r.desk).2.fixtures = r.desk.fixtures := fixtures_start r.desk
  obtain ⟨s, henter, -⟩ := h.enterChain now hmethod op
  simp only [step, sightings, hmethod, if_true, h.came]
  rw [hmethod] at hown
  -- Between the registering of the call and the note of how far it is, the books agree but for this call.
  rcases hdoor : letIn method now door.bucket door.breaker with ⟨fault | permit, bucket, breaker⟩
  · rw [hdoor] at hown henter
    obtain ⟨hended, hstage⟩ := hown
    have hrefused : (r.desk.enterChain now context op).1 = .error fault := by rw [henter]; rfl
    rcases hstart : start peers stop now wall context tokens op r.desk with ⟨progress, d⟩
    rw [hstart] at hended hstage hfixtures
    obtain rfl : progress = .ended (.returned (.error fault)) := hended
    have hagrees := (h.toAgrees.register_refused hmethod hrefused).guarded bucket breaker
    simp only [henter, Except.map, Door.after, List.foldl_cons, List.foldl_nil, Door.step, hdoor]
    exact hagrees.note_ended hfixtures hstage
  · rw [hdoor] at hown henter
    have hadmitted : (r.desk.enterChain now context op).1 =
      .ok (endpointFrames (r.desk.place method) ⟨method, op.fields⟩ now permit) := by rw [henter]; rfl
    have hagrees := (h.toAgrees.register_admitted hmethod hadmitted permit).guarded bucket breaker
    have hinside : door.put door.came (some permit) door.came = some permit := if_pos rfl
    simp only [henter, Except.map, Door.after, List.foldl_cons, Door.step, hdoor]
    exact hagrees.note_inside hinside hfixtures hown

/-- What happens to a call of another method is not seen at the door. -/
theorem Mirrors.step_other (h : Mirrors method r door) {peers : Peers} {stop : Option Instant} {now : Instant} {wall : Moment}
    {context : Context} {tokens : Tokens} {op : Operation} (hmethod : context.method ≠ method) :
    Mirrors method (r.step (.call peers stop now wall context tokens op)) door := by
  have hother := holds_start_other peers stop now wall context tokens op (h.arranged.spares_link method) h.holds
    fun _ he => h.arranged.spares_chain h.known hmethod he
  have hagrees : Mirrors method (r.register now context op) door := by
    refine ⟨⟨h.arranged, h.known, ?_, h.stands, h.others, ?_, h.results⟩, h.holds⟩
    · have hown : ¬method = context.method := fun heq => hmethod heq.symm
      simpa [register, hown] using h.came
    · simp only [register, admittedOf]
      split
      · simpa [hmethod, admittedOf] using h.admitted
      · exact h.admitted
  exact hagrees.note_other hmethod (fixtures_start r.desk) hother

/-- Whatever happens at a desk, the door of a method does the same with what it sees of it. -/
theorem Mirrors.step (h : Mirrors method r door) (e : Event) :
    Mirrors method (r.step e) (door.after method (r.sightings method e)) := by
  cases e with
  | call peers stop now wall context tokens op =>
    by_cases hmethod : context.method = method
    · exact h.step_call hmethod
    · have hunseen : r.sightings method (.call peers stop now wall context tokens op) = [] := if_neg hmethod
      rw [hunseen]
      exact h.step_other hmethod
  | move other number move =>
    by_cases hmethod : other = method
    · subst hmethod
      simp only [Traffic.step, sightings, if_true]
      have hstands := h.stands (n := number) not_false
      rcases hwaiting : r.waiting other number with _ | p
      · exact h
      · rw [hwaiting] at hstands
        generalize hinside : door.inside number = permit? at hstands
        cases hstands with
        | inside hkeeps => exact h.toAgrees.but.note_inside hinside (move.fixtures_apply p _) (move.holds_apply hkeeps h.holds)
    · have hunseen : r.sightings method (.move other number move) = [] := if_neg hmethod
      rw [hunseen]
      simp only [Traffic.step]
      split
      case h_1 p hp =>
        have hmove := move.holds_apply (h.others hmethod hp) h.holds
        rw [Progress.settled_nil] at hmove
        exact h.note_other hmethod (move.fixtures_apply p _) hmove
      case h_2 => exact h
  | sweep now =>
    exact ⟨⟨h.arranged.of_fixtures (fixtures_sweep r.desk), h.known, h.came, h.stands, h.others, h.admitted, h.results⟩,
      h.holds.sweep now⟩

theorem Mirrors.after (h : Mirrors method r door) (events : List Event) :
    Mirrors method (r.after events) (door.after method (r.allSightings method events)) := by
  induction events generalizing r door with
  | nil => exact h
  | cons e events ih =>
    rw [allSightings, Door.after, List.foldl_append]
    exact ih (h.step e)

theorem mirrors_opened {config : ServerConfig} {backend : Backend} {now : Instant} {d : Desk}
    (h : Built config backend now d) (hknown : method ∈ Service.methods d.kind) :
    Mirrors method (.opened d) (.fresh (freshBucket config now) (freshBreaker config method)) :=
  ⟨⟨h.toArranged, hknown, rfl, fun _ => .out, by rintro other n p _ ⟨⟩, rfl, rfl⟩, h.holds hknown⟩

/-! ## States on the way -/

/-- What is seen goes through a path: the same states in the same order, each for one moment or more. -/
inductive GoesThrough {α : Type} : List α → List α → Prop
  | done : GoesThrough [] []
  | next {a : α} {path seen : List α} (h : GoesThrough path seen) : GoesThrough (a :: path) (a :: seen)
  | stay {a : α} {path seen : List α} (h : GoesThrough (a :: path) seen) : GoesThrough (a :: path) (a :: seen)

theorem Door.allGuards_cons (method : String) (door : Door) (seen : List Sighting) :
    ∃ path, door.allGuards method seen = door.guards :: path := by
  cases seen <;> exact ⟨_, rfl⟩

/-- As long as nothing is seen at a door, nothing changes there. -/
theorem Door.goesThrough_stay {seen : List Sighting} {states : List (Option (Bucket Float) × Option Breaker)}
    (h : GoesThrough (door.allGuards method seen) states) :
    GoesThrough (door.allGuards method seen) (door.guards :: states) := by
  obtain ⟨path, hpath⟩ := door.allGuards_cons method seen
  rw [hpath] at h ⊢
  exact h.stay

/-- At the end of a call the door goes on, and stays as it is without one. -/
theorem Door.goesThrough_departure {number : Nat} {now : Instant} {progress : Progress} {seen : List Sighting}
    {states : List (Option (Bucket Float) × Option Breaker)}
    (h : GoesThrough ((door.after method (departure number now progress)).allGuards method seen) states) :
    GoesThrough (door.allGuards method (departure number now progress ++ seen)) (door.guards :: states) := by
  cases progress with
  | ended ending => exact h.next
  | waiting p => exact goesThrough_stay h

theorem Mirrors.between (h : Mirrors method r door) {now : Instant} {context : Context} (hmethod : context.method = method)
    (op : Operation) :
    (r.desk.enterChain now context op).2.at? (r.desk.place method) = (door.step method (.came now)).guards := by
  obtain ⟨s, henter, hstage⟩ := h.enterChain now hmethod op
  rw [henter, hstage.at?]
  simp only [Door.step]
  rcases letIn method now door.bucket door.breaker with ⟨fault | permit, bucket, breaker⟩ <;> rfl

theorem Mirrors.between_other (h : Mirrors method r door) {now : Instant} {context : Context}
    (hmethod : context.method ≠ method) (op : Operation) :
    (r.desk.enterChain now context op).2.at? (r.desk.place method) = door.guards := by
  have hholds : (r.desk.enterChain now context op).2.Holds (r.desk.place method) door.bucket door.breaker := by
    unfold Desk.enterChain
    split
    case h_1 => exact h.holds
    case h_2 e chain he => exact (startCall_spares now _ (h.arranged.spares_chain h.known hmethod he) h.holds).1
  exact hholds.at?

/-- What is seen of the bucket and the breaker of a method goes through the states of its door, with one event more in front. -/
theorem Mirrors.goesThrough_step (h : Mirrors method r door) (e : Event) {seen : List Sighting}
    {states : List (Option (Bucket Float) × Option Breaker)}
    (hrest : GoesThrough ((door.after method (r.sightings method e)).allGuards method seen) states) :
    GoesThrough (door.allGuards method (r.sightings method e ++ seen))
      (r.guards method :: (r.between method e ++ states)) := by
  rw [h.guards]
  cases e with
  | call peers stop now wall context tokens op =>
    by_cases hmethod : context.method = method
    · simp only [Traffic.between, h.between hmethod, List.cons_append, List.nil_append]
      simp only [sightings, hmethod, if_true] at hrest ⊢
      split at hrest
      · exact (Door.goesThrough_departure hrest).next
      · exact (Door.goesThrough_stay hrest).next
    · simp only [Traffic.between, h.between_other hmethod, List.cons_append, List.nil_append]
      simp only [sightings, hmethod, if_false] at hrest ⊢
      exact Door.goesThrough_stay (Door.goesThrough_stay hrest)
  | move other number move =>
    simp only [Traffic.between, List.nil_append]
    simp only [sightings] at hrest ⊢
    split
    case isFalse hmethod =>
      rw [if_neg hmethod] at hrest
      exact Door.goesThrough_stay hrest
    case isTrue hmethod =>
      rw [if_pos hmethod] at hrest
      split at hrest
      · exact Door.goesThrough_departure hrest
      · exact Door.goesThrough_stay hrest
  | sweep now => exact Door.goesThrough_stay hrest

theorem Mirrors.goesThrough (h : Mirrors method r door) (events : List Event) :
    GoesThrough (door.allGuards method (r.allSightings method events)) (r.allGuards method events) := by
  induction events generalizing r door with
  | nil =>
    rw [allSightings, allGuards, h.guards]
    exact .next .done
  | cons e events ih => exact h.goesThrough_step e (ih (h.step e))

/-! ## Scripts -/

/-- Whether a sighting happens where only some calls are let in: the others have no operation that could end. -/
def Sighting.concerns (admitted : List Nat) : Sighting → Bool
  | .came _ => true
  | .ended number _ _ => admitted.contains number

/-- A run plays a script for a method: its calls come when the script says, and those that are let in end when and as the script
says. -/
def Plays (method : String) (r : Traffic) (events : List Event) (script : List Sighting) : Prop :=
  r.allSightings method events = script.filter (Sighting.concerns ((r.after events).admittedOf method))

instance (method : String) (r : Traffic) (events : List Event) (script : List Sighting) :
    Decidable (Plays method r events script) :=
  inferInstanceAs (Decidable (_ = _))

namespace Door

def Sound (door : Door) : Prop := ∀ number permit, door.inside number = some permit → number ∈ door.admitted

theorem sound_fresh (bucket : Bucket Float) (breaker : Breaker) : (fresh bucket breaker).Sound := by rintro number permit ⟨⟩

theorem sound_step (h : door.Sound) (s : Sighting) : (door.step method s).Sound := by
  cases s with
  | came now =>
    simp only [step]
    rcases letIn method now door.bucket door.breaker with ⟨fault | permit, bucket, breaker⟩
    · intro n p hn
      simp only [put] at hn
      split at hn
      · cases hn
      · exact h n p hn
    · intro n p hn
      simp only [put] at hn
      split at hn
      case isTrue heq => exact heq ▸ List.mem_append_right _ List.mem_cons_self
      case isFalse => exact List.mem_append_left _ (h n p hn)
  | ended number now ending =>
    simp only [step]
    split
    · intro n p hn
      simp only [put] at hn
      split at hn
      · cases hn
      · exact h n p hn
    · exact h

theorem admitted_step (method : String) (door : Door) (s : Sighting) : door.admitted <+: (door.step method s).admitted := by
  cases s with
  | came now =>
    simp only [step]
    rcases letIn method now door.bucket door.breaker with ⟨fault | permit, bucket, breaker⟩
    · exact List.prefix_rfl
    · exact List.prefix_append _ _
  | ended number now ending =>
    simp only [step]
    split <;> exact List.prefix_rfl

theorem admitted_after (method : String) (door : Door) (seen : List Sighting) :
    door.admitted <+: (door.after method seen).admitted := by
  induction seen generalizing door with
  | nil => exact List.prefix_rfl
  | cons s seen ih => exact (admitted_step method door s).trans (ih (door.step method s))

/-- A door takes no notice of the ends of calls that were not let in. -/
theorem after_filter (hsound : door.Sound) {admitted : List Nat} {script : List Sighting}
    (hadmitted : ∀ n ∈ (door.after method (script.filter (Sighting.concerns admitted))).admitted, n ∈ admitted) :
    door.after method (script.filter (Sighting.concerns admitted)) = door.after method script := by
  -- The list of those let in only grows, so a call that is inside at any time is in the final list, and its end is not filtered out.
  induction script generalizing door with
  | nil => rfl
  | cons s script ih =>
    by_cases hs : s.concerns admitted = true
    · rw [List.filter_cons_of_pos hs] at hadmitted ⊢
      exact ih (sound_step hsound s) hadmitted
    · rw [List.filter_cons_of_neg hs] at hadmitted ⊢
      have hsame : door.step method s = door := by
        cases s with
        | came now => exact absurd rfl hs
        | ended number now ending =>
          have hout : door.inside number = none := by
            rw [Option.eq_none_iff_forall_ne_some]
            intro permit hin
            have hmem := hadmitted number ((admitted_after method door _).subset (hsound number permit hin))
            exact hs (by simpa [Sighting.concerns] using hmem)
          simp only [step, hout]
      rw [ih hsound hadmitted, after, after, List.foldl_cons, hsame]

end Door

theorem Mirrors.after_script (h : Mirrors method r door) (hsound : door.Sound) {events : List Event} {script : List Sighting}
    (hplays : Plays method r events script) :
    Mirrors method (r.after events) (door.after method script) := by
  have hafter := h.after events
  have hadmitted := hafter.admitted
  rw [hplays] at hafter hadmitted
  rwa [Door.after_filter hsound fun n hn => hadmitted ▸ hn] at hafter

end

/-- Two runs at a desk in which the calls of one method come at the same instants, and end at the same instants and in the same way if they
are let in, are the same for that method, however different they are otherwise: each call has the same result, and the bucket and
the breaker of the method go through the same states. -/
theorem endpoints_apart (config : ServerConfig) (backend : Backend) (now : Instant) (d : Desk)
    (sibling : Option Peer.Destination) (hbuild : Desk.build config backend now = .ok (d, sibling)) (method : String)
    (hknown : method ∈ Service.methods d.kind) (script : List Sighting) (events more : List Event)
    (hevents : Plays method (opened d) events script) (hmore : Plays method (opened d) more script) :
    ((opened d).after events).resultsOf method = ((opened d).after more).resultsOf method ∧
      ∃ path, GoesThrough path ((opened d).allGuards method events) ∧
        GoesThrough path ((opened d).allGuards method more) := by
  have hopened := mirrors_opened (Desk.built_build hbuild) hknown
  have hsound := Door.sound_fresh (freshBucket config now) (freshBreaker config method)
  have hfirst := hopened.after_script hsound hevents
  have hsecond := hopened.after_script hsound hmore
  have hsame : (opened d).allSightings method events = (opened d).allSightings method more := by
    rw [hevents, hmore, hfirst.admitted, hsecond.admitted]
  refine ⟨hfirst.results.trans hsecond.results.symm, _, hopened.goesThrough events, ?_⟩
  rw [hsame]
  exact hopened.goesThrough more

def accountsConfig : ServerConfig := { ServerConfig.standard with service := .accounts }

def accountsDesk : Desk := (Desk.bare .accounts (.sound .empty) standardFanOut).registerAll accountsConfig 0

def accountsCall (now : Instant) (op : Operation) : Event :=
  .call (.across (fun _ _ => .silent) none) none now ⟨Moment.epoch, 27000, 125000000, by decide, by decide⟩
    (.opened 1 "accounts" op.method now 5000000000 none) Tokens.fresh op

/-- Someone asks twice for an account that is not there, and has a token once. The second time the script has an end that never comes. -/
theorem endpoints_apart_accounts :
    let asked : List Event := [accountsCall 3 (.getAccount "ada"), accountsCall 4 (.getAccount "ada")]
    let busy : List Event := [accountsCall 1 (.createAccount ⟨"bob", "Bob", "bob@example.com"⟩),
      accountsCall 3 (.getAccount "ada"), accountsCall 3 (.updateAccount "bob" ⟨some "Robert", none⟩),
      accountsCall 4 (.getAccount "ada"), accountsCall 5 (.createAccount ⟨"ada", "Ada", "ada@example.com"⟩)]
    ((opened accountsDesk).after asked).resultsOf "get_account" = ((opened accountsDesk).after busy).resultsOf "get_account" ∧
      ∃ path, GoesThrough path ((opened accountsDesk).allGuards "get_account" asked) ∧
        GoesThrough path ((opened accountsDesk).allGuards "get_account" busy) := by
  intro asked busy
  let missing : Ending Response := .returned (.error (.notFound "account" "ada"))
  exact endpoints_apart accountsConfig (.sound .empty) 0 accountsDesk none rfl "get_account" (by decide)
    [.came 3, .ended 0 3 missing, .came 4, .ended 1 9 missing] asked busy (by decide +kernel) (by decide +kernel)

end Traffic

end Campus
