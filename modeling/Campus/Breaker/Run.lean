import Campus.Breaker

/-! # Runs of a breaker

What happens to a breaker over time: permits are given out and kept under a name until they are settled or dropped, and time
passes. Any number of permits may be out at once.
-/
namespace Campus.Breaker

/-- One thing that happens to a breaker. -/
inductive Event where
  /-- A call asks for a permit, which is kept under a name. -/
  | acquire (name : String)
  /-- The call that holds a permit ended, with a fault or without. -/
  | record (name : String) (fault : Option Fault)
  /-- The call that holds a permit was given up. -/
  | drop (name : String)
  | wait (span : Span)
  deriving DecidableEq, Repr

/-- A breaker, the time, and the permits that are out. -/
structure Run where
  breaker : Breaker
  now : Instant
  permits : List (String × Permit)

namespace Run

def fresh (b : Breaker) : Run := ⟨b, 0, []⟩

def permit? (r : Run) (name : String) : Option Permit := (r.permits.find? fun p => p.1 == name).map (·.2)

def without (r : Run) (name : String) : List (String × Permit) := r.permits.filter fun p => p.1 != name

/-- What an event does, and what the breaker reports. A permit given out under a name in use takes the place of the other,
which is dropped. -/
def step (r : Run) : Event → Run × List Notice
  | .acquire name =>
    match r.breaker.acquire r.now with
    | (none, breaker, ns) => ({ r with breaker }, ns)
    | (some p, breaker, ns) =>
      let (breaker, dropped) := match r.permit? name with
        | some old => breaker.drop r.now old
        | none => (breaker, [])
      ({ r with breaker, permits := (name, p) :: r.without name }, ns ++ dropped)
  | .record name fault =>
    match r.permit? name with
    | some p =>
      let (breaker, ns) := r.breaker.record r.now p fault
      ({ r with breaker, permits := r.without name }, ns)
    | none => (r, [])
  | .drop name =>
    match r.permit? name with
    | some p =>
      let (breaker, ns) := r.breaker.drop r.now p
      ({ r with breaker, permits := r.without name }, ns)
    | none => (r, [])
  | .wait span => ({ r with now := r.now + span }, [])

def after (r : Run) (events : List Event) : Run := events.foldl (fun r e => (r.step e).1) r

end Run

end Campus.Breaker
