import Campus.Proofs.Desk.Gather
import Campus.Proofs.FanOut.Kept
import Campus.Proofs.Peer.Answers
import Campus.Proofs.Pipeline.Places

/-! # The courses of a student after a cool-down

The first call through a breaker that has cooled down is its probe. When the courses of a student are asked for one after the
other, the probe succeeds before the next call comes, and the breaker closes. Asked for side by side, the second call is
rejected while the probe is out. That fails the job, the probe is dropped with it, and the breaker opens anew.
-/
namespace Campus

namespace Bucket

variable {R : Type} [TokenAmount R]

/-- A bucket after a token was asked of it at each of the first instants of a sequence. -/
def taken (b : Bucket R) (instants : Nat → Instant) : Nat → Bucket R
  | 0 => b
  | i + 1 => ((b.taken instants i).take (instants i)).2

/-- A bucket has a token at each of the first instants of a sequence. -/
def Admits (b : Bucket R) (instants : Nat → Instant) (count : Nat) : Prop :=
  ∀ i < count, ((b.taken instants i).take (instants i)).1 = true

end Bucket

namespace Breaker

/-- A breaker before the `k`-th of some calls that are made in turn. -/
def before (b : Breaker) (k : Nat) : Breaker := if k = 0 then b else b.recovered

/-- A breaker while the `k`-th of some calls that are made in turn goes on. -/
def during (b : Breaker) (k : Nat) : Breaker := if k = 0 then b.probed else b.recovered

theorem acquire_before {b : Breaker} {now : Instant} (hopened : b.phase = .opened) (hcooled : b.isCooled now = true)
    {k : Nat} {t : Instant} (ht : k = 0 → t = now) : ∃ ns, (b.before k).acquire t = (some ⟨k = 0⟩, b.during k, ns) := by
  cases k with
  | zero =>
    obtain rfl := ht rfl
    exact ⟨_, acquire_cooled hopened hcooled⟩
  | succ k => exact ⟨_, acquire_closed rfl⟩

theorem record_during (b : Breaker) (k : Nat) (t : Instant) :
    ((b.during k).record t ⟨k = 0⟩ none).1 = b.before (k + 1) := by
  cases k with
  | zero => rfl
  | succ k => rfl

end Breaker

namespace Desk

open FanOut FanOut.Job Pipeline

/-- When the requests for some ids are sent, if each waits for the end of the one before it. -/
def turn (delay : Instant → String → Span) (ids : List String) (now : Instant) : Nat → Instant
  | 0 => now
  | i + 1 => turn delay ids now i + delay (turn delay ids now i) (ids.getD i "")

def requestsFor (link : Peer.Link) (requestId : Option String) (ids : List String) :
    List (String × String × Option String) :=
  ids.map fun id => (link.endpoint.method, id, requestId)

theorem turn_succ (delay : Instant → String → Span) {ids : List String} (now : Instant) {k : Nat} {id : String}
    (hid : ids[k]? = some id) :
    turn delay ids now (k + 1) = turn delay ids now k + delay (turn delay ids now k) id := by
  rw [turn, List.getD_eq_getElem?_getD, hid, Option.getD_some]

theorem requestsFor_take_succ (link : Peer.Link) (requestId : Option String) {ids : List String} {k : Nat} {id : String}
    (hid : ids[k]? = some id) :
    requestsFor link requestId (ids.take (k + 1)) =
      requestsFor link requestId (ids.take k) ++ [(link.endpoint.method, id, requestId)] := by
  rw [List.take_add_one, hid, requestsFor, requestsFor, List.map_append]
  rfl

section InTurn

variable (link : Peer.Link) (delay : Instant → String → Span) (course : Instant → String → Course) (ids : List String)
  (now : Instant) (bucket : Bucket Float) (breaker : Breaker) (requestId : Option String)
  (sent : List (String × String × Option String))

/-- Requests that are made in turn: the next is to be sent, or the last one sent is on its way. -/
inductive InTurn : Instant → List (Running (Peer.Flight Course)) → Nat → Stage → Prop where
  | idle {t : Instant} {k : Nat} {s : Stage} (time : k < ids.length → t = turn delay ids now k)
      (guards : link.Guards s (bucket.taken (turn delay ids now) k) (breaker.before k))
      (requests : s.journal.requests = sent ++ requestsFor link requestId (ids.take k)) : InTurn t [] k s
  | busy {t : Instant} {k : Nat} {s : Stage} {id : String} (at_id : ids[k]? = some id)
      (due : t ≤ turn delay ids now (k + 1))
      (guards : link.Guards s (bucket.taken (turn delay ids now) (k + 1)) (breaker.during k))
      (requests : s.journal.requests = sent ++ requestsFor link requestId (ids.take (k + 1))) :
      InTurn t [⟨k, id, turn delay ids now (k + 1),
        ⟨link.frames (link.call id) ⟨k = 0⟩ (turn delay ids now k), .returned (.ok (course (turn delay ids now k) id))⟩⟩]
        (k + 1) s

variable {link delay course ids now bucket breaker requestId sent}

/-- The next request is sent once the one before it has ended. -/
theorem InTurn.starts {transport : Peer.Transport Course} {context : Context} {ts : Tokens} {t : Instant} {k : Nat}
    {s : Stage} {id : String} (h : InTurn link delay course ids now bucket breaker requestId sent t [] k s)
    (hid : ids[k]? = some id) (hne : id ≠ "") (hopened : breaker.phase = .opened) (hcooled : breaker.isCooled now = true)
    (hbucket : bucket.Admits (turn delay ids now) ids.length)
    (hlater : turn delay ids now k < turn delay ids now (k + 1)) (hrequest : context.requestId = requestId)
    (hsent : transport (turn delay ids now k) none ts (context.forMethod link.endpoint.method) id =
      ⟨true, delay (turn delay ids now k) id, .returned (.ok (course (turn delay ids now k) id))⟩) :
    ∃ due fetch s', (Peer.worker link transport none ts).start t context id s = (.running due fetch, s') ∧ t < due ∧
      InTurn link delay course ids now bucket breaker requestId sent t [⟨k, id, due, fetch⟩] (k + 1) s' := by
  cases h with
  | idle time guards requests =>
    have hk : k < ids.length := (List.getElem?_eq_some_iff.mp hid).1
    obtain rfl := time hk
    obtain ⟨ns, hacquire⟩ : ∃ ns, (breaker.before k).acquire (turn delay ids now k) =
        (some ⟨k = 0⟩, breaker.during k, ns) := by
      refine Breaker.acquire_before hopened hcooled fun h0 => ?_
      rw [h0]
      rfl
    have htake : (bucket.taken (turn delay ids now) k).take (turn delay ids now k) =
        (true, bucket.taken (turn delay ids now) (k + 1)) := Prod.ext (hbucket k hk) rfl
    have hturn := turn_succ delay now hid
    have hdelay : 0 < delay (turn delay ids now k) id := by
      rw [hturn] at hlater
      exact Nat.pos_of_lt_add_right hlater
    obtain ⟨s', hstart, hguards, hrequests⟩ := Peer.start_sent guards htake hacquire hne hsent hdelay
    rw [← hturn] at hstart
    refine ⟨_, _, s', hstart, hlater, .busy hid (Nat.le_of_lt hlater) hguards ?_⟩
    rw [hrequests, requests, requestsFor_take_succ link _ hid, List.append_assoc, hrequest]

theorem InTurn.finishes {transport : Peer.Transport Course} {ts : Tokens} {t : Instant} {k : Nat} {s : Stage}
    {before after : List (Running (Peer.Flight Course))} {u : Running (Peer.Flight Course)}
    (h : InTurn link delay course ids now bucket breaker requestId sent t (before ++ u :: after) k s) (hdue : u.due ≤ t) :
    ∃ s', (Peer.worker link transport none ts).finish t u.fetch s =
        (.returned (.ok (course (turn delay ids now u.index) (ids.getD u.index ""))), s') ∧
      InTurn link delay course ids now bucket breaker requestId sent t (before ++ after) k s' := by
  generalize hrunning : before ++ u :: after = running at h
  cases h with
  | idle time guards requests => simp at hrunning
  | @busy k s id at_id due guards requests =>
    obtain ⟨rfl, rfl, rfl⟩ : before = [] ∧ u = _ ∧ after = [] := by simpa [List.append_eq_singleton_iff] using hrunning
    obtain ⟨s', hfinish, hguards, hrequests⟩ := Peer.finish_succeeded guards (link.call id) ⟨k = 0⟩
      (turn delay ids now k) (course (turn delay ids now k) id)
    have hget : ids.getD k "" = id := by rw [List.getD_eq_getElem?_getD, at_id, Option.getD_some]
    rw [hget]
    refine ⟨s', hfinish, .idle (fun _ => Nat.le_antisymm due hdue) ?_ (hrequests.trans requests)⟩
    rw [← Breaker.record_during]
    exact hguards

theorem InTurn.later {capacity : Nat} (hpos : 0 < capacity) {t t' : Instant}
    {running : List (Running (Peer.Flight Course))} {k : Nat} {s : Stage}
    (h : InTurn link delay course ids now bucket breaker requestId sent t running k s)
    (hbusy : k < ids.length → running.length = capacity) (hdue : ∀ u ∈ running, t' ≤ u.due) :
    InTurn link delay course ids now bucket breaker requestId sent t' running k s := by
  cases h with
  | idle time guards requests =>
    refine .idle (fun hk => ?_) guards requests
    exact absurd (hbusy hk) (Nat.ne_of_lt hpos)
  | busy at_id due guards requests => exact .busy at_id (hdue _ List.mem_cons_self) guards requests

end InTurn

/-! ## Side by side -/

section Resumes

variable {peers : Peers} {now : Instant} {context : Context} {ts : Tokens} {id : String} {d : Desk} {link : Peer.Link}
  {bucket : Bucket Float} {breaker : Breaker} {student : Student} {rows : List Enrollment}
  {delay : Instant → String → Span} {course : Instant → String → Course}

theorem mem_courseIds_ne_empty {c : String} (h : c ∈ courseIds rows) : c ≠ "" := by
  rw [courseIds, List.map_map] at h
  obtain ⟨e, -, rfl⟩ := List.mem_map.mp h
  exact courseText_ne_empty e.courseId

@[simp] theorem length_courseIds : (courseIds rows).length = rows.length := by simp [courseIds]

end Resumes

/-! ## A student with two courses -/

def schoolStart : Moment := ⟨⟨2024, 9, 2, by decide⟩, 28800, 500000000, by decide, by decide⟩

end Desk

end Campus
