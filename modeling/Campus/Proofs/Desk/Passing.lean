import Campus.Proofs.Desk.Recovery
import Campus.Proofs.FanOut.Timed

/-! # Requests that are all let through

A link that has a token for each of some requests, and a breaker that is closed or whose probe ends before the second request,
lets all of them through as long as they succeed. From the end of a probe on its breaker is closed.
-/
namespace Campus

open FanOut Pipeline

instance {R : Type} [TokenAmount R] (b : Bucket R) (instants : Nat → Instant) (count : Nat) :
    Decidable (b.Admits instants count) :=
  inferInstanceAs (Decidable (∀ i < count, ((b.taken instants i).take (instants i)).1 = true))

/-! ## A breaker that lets all calls through -/

namespace Breaker

/-- A breaker lets every call of a timetable through when all of them succeed: it is closed, or it takes the first for its probe
and that one has ended when the second starts. -/
inductive Admits (b : Breaker) (T : Timetable) (count : Nat) : Prop where
  | closed (phase : b.phase = .closed)
  | probe (first : (b.acquire T.now).1 = some ⟨true⟩) (alone : count ≤ 1 ∨ T.finish 0 ≤ T.start 1)

/-- The permit that a breaker gives for a call: only the first is a probe, and only while the breaker is not closed. -/
def permitFor (b : Breaker) (i : Nat) : Permit := ⟨decide (b.phase ≠ .closed ∧ i = 0)⟩

theorem permitFor_probe {b : Breaker} {i : Nat} (h : b.phase ≠ .closed ∧ i = 0) : b.permitFor i = ⟨true⟩ := by
  rw [permitFor, decide_eq_true h]

theorem closed_record_probe (b : Breaker) (t : Instant) : (b.record t ⟨true⟩ none).1.phase = .closed := rfl

theorem closed_record {b : Breaker} (h : b.phase = .closed) (t : Instant) (p : Permit) :
    (b.record t p none).1.phase = .closed := by
  obtain ⟨_ | _⟩ := p
  · simp [record, settle_plain_ok h, h]
  · exact b.closed_record_probe t

end Breaker

/-! ## A link that lets all requests through -/

/-- How the guards of a link stand while requests that all succeed go through it: a breaker that was not closed when the first was
sent is closed once that one has ended. -/
structure Peer.Link.Passing (l : Peer.Link) (bucket : Bucket Float) (breaker : Breaker) (T : Timetable) (running : List Nat)
    (k : Nat) (b : Breaker) (s : Stage) : Prop where
  guards : l.Guards s (bucket.taken T.start k) b
  first : k = 0 → b = breaker
  later : 0 < k → b.phase = .closed ∨ breaker.phase ≠ .closed ∧ 0 ∈ running

namespace Peer.Link.Passing

variable {l : Link} {bucket : Bucket Float} {breaker b : Breaker} {T : Timetable} {running : List Nat} {k count : Nat} {s : Stage}

/-- When the second request or a later one is sent the breaker is closed. -/
theorem closed (h : l.Passing bucket breaker T running k b s) (hbreaker : breaker.Admits T count) (hk : k < count) (hpos : 0 < k)
    (hfree : running.length < T.capacity) (hdelays : ∀ i ∈ running, 0 < T.delay i) : b.phase = .closed := by
  refine (h.later hpos).resolve_right fun ⟨hphase, hmem⟩ => ?_
  cases hbreaker with
  | closed hclosed => exact hphase hclosed
  | probe first alone =>
    -- The first request still runs, so there is a second permit and the second request was sent along with it.
    have hcapacity : 1 < T.capacity := Nat.lt_of_le_of_lt (List.length_pos_of_mem hmem) hfree
    have hstart : T.start 1 = T.start 0 := by
      rw [Timetable.start_one hcapacity, Timetable.start_zero (Nat.zero_lt_of_lt hcapacity)]
    have hlater : T.start 0 < T.finish 0 := Nat.lt_add_of_pos_right (hdelays 0 hmem)
    obtain hsingle | hended := alone
    · omega
    · rw [hstart] at hended
      exact Nat.not_lt.mpr hended hlater

/-- The breaker gives each request its permit, and is closed then or has sent its probe. -/
theorem acquire (h : l.Passing bucket breaker T running k b s) (hbreaker : breaker.Admits T count) (hk : k < count)
    (hfree : running.length < T.capacity) (hdelays : ∀ i ∈ running, 0 < T.delay i) :
    ∃ b' ns, b.acquire (T.start k) = (some (breaker.permitFor k), b', ns) ∧
      (b'.phase = .closed ∨ breaker.phase ≠ .closed ∧ k = 0) := by
  obtain rfl | hpos := Nat.eq_zero_or_pos k
  · obtain rfl := h.first rfl
    have hnow : T.start 0 = T.now := Timetable.start_zero (Nat.zero_lt_of_lt hfree)
    cases hbreaker with
    | closed phase => exact ⟨b, [], by simp [Breaker.acquire_closed phase, Breaker.permitFor, phase], .inl phase⟩
    | probe first alone =>
      have hphase : b.phase ≠ .closed := by
        intro hclosed
        rw [Breaker.acquire_closed hclosed] at first
        cases first
      refine ⟨_, _, Prod.ext ?_ rfl, .inr ⟨hphase, rfl⟩⟩
      rw [hnow, first]
      simp [Breaker.permitFor, hphase]
  · have hclosed := h.closed hbreaker hk hpos hfree hdelays
    refine ⟨b, [], ?_, .inl hclosed⟩
    simp [Breaker.acquire_closed hclosed, Breaker.permitFor, Nat.ne_of_gt hpos]

section Sending

variable {transport : Transport Course} {ts : Tokens} {context : Context} {id : String} {c : Course}
  (h : l.Passing bucket breaker T running k b s) (hbreaker : breaker.Admits T count) (hbucket : bucket.Admits T.start count)
  (hk : k < count) (hfree : running.length < T.capacity) (hdelays : ∀ i ∈ running, 0 < T.delay i) (hid : id ≠ "")
  (hsent : transport (T.start k) none ts (context.forMethod l.endpoint.method) id = ⟨true, T.delay k, .returned (.ok c)⟩)

include h hbreaker hbucket hk hfree hdelays hid hsent

/-- A request that is answered at once is over with its course. -/
theorem ends (hdelay : T.delay k = 0) :
    ∃ b' s', start l transport none ts (T.start k) context id s = (.ended (.returned (.ok c)), s') ∧
      l.Passing bucket breaker T running (k + 1) b' s' := by
  obtain ⟨b', ns, hacquire, hphase⟩ := h.acquire hbreaker hk hfree hdelays
  have htake : (bucket.taken T.start k).take (T.start k) = (true, bucket.taken T.start (k + 1)) := Prod.ext (hbucket k hk) rfl
  rw [hdelay] at hsent
  obtain ⟨s', hstart, hguards⟩ := start_answered h.guards htake hacquire hid hsent
  refine ⟨_, s', hstart, hguards, fun h0 => absurd h0 (Nat.succ_ne_zero k), fun _ => .inl ?_⟩
  obtain hclosed | hprobe := hphase
  · exact Breaker.closed_record hclosed _ _
  · rw [Breaker.permitFor_probe hprobe]
    exact b'.closed_record_probe _

/-- A request that takes some time is on its way until its end in the timetable. -/
theorem begins (hdelay : 0 < T.delay k) :
    ∃ b' s', start l transport none ts (T.start k) context id s =
        (.running (T.finish k) ⟨l.frames (l.call id) (breaker.permitFor k) (T.start k), .returned (.ok c)⟩, s') ∧
      l.Passing bucket breaker T (running ++ [k]) (k + 1) b' s' := by
  obtain ⟨b', ns, hacquire, hphase⟩ := h.acquire hbreaker hk hfree hdelays
  have htake : (bucket.taken T.start k).take (T.start k) = (true, bucket.taken T.start (k + 1)) := Prod.ext (hbucket k hk) rfl
  obtain ⟨s', hstart, hguards, -⟩ := start_sent h.guards htake hacquire hid hsent hdelay
  refine ⟨b', s', hstart, hguards, fun h0 => absurd h0 (Nat.succ_ne_zero k), fun _ => hphase.imp_right ?_⟩
  rintro ⟨hnot, rfl⟩
  exact ⟨hnot, by simp⟩

end Sending

theorem finishes {before after : List Nat} {i : Nat} (h : l.Passing bucket breaker T (before ++ i :: after) k b s) (hi : i < k)
    (call : CallInfo) (c : Course) :
    ∃ b' s', Peer.finish (T.finish i) ⟨l.frames call (breaker.permitFor i) (T.start i), .returned (.ok c)⟩ s =
        (.returned (.ok c), s') ∧
      l.Passing bucket breaker T (before ++ after) k b' s' := by
  obtain ⟨s', hfinish, hguards, -⟩ : ∃ s', Peer.finish (T.finish i) _ s = _ ∧ l.Guards s' _ _ ∧ _ :=
    finish_succeeded h.guards call (breaker.permitFor i) (T.start i) c
  have hpos : 0 < k := Nat.zero_lt_of_lt hi
  refine ⟨_, s', hfinish, hguards, fun h0 => absurd h0 (Nat.ne_of_gt hpos), fun _ => ?_⟩
  obtain hclosed | ⟨hphase, hmem⟩ := h.later hpos
  · exact .inl (Breaker.closed_record hclosed _ _)
  by_cases h0 : i = 0
  · left
    rw [Breaker.permitFor_probe ⟨hphase, h0⟩]
    exact b.closed_record_probe _
  · have hother : (0 : Nat) ≠ i := Ne.symm h0
    exact .inr ⟨hphase, by simpa [hother] using hmem⟩

end Peer.Link.Passing

end Campus
