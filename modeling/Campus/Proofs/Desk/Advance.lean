import Campus.Proofs.Desk.Known
import Campus.Proofs.Pipeline.Blame

/-! # Steps of calls

What one step of a call of a method does to a desk, whether the call comes in, goes on or is given up. All that it does to the guards of
the methods is to settle the permit that it holds of its own breaker.
-/
namespace Campus.Desk

open Pipeline

def breakerPlace? (d : Desk) (method : String) : Option Nat :=
  (d.endpoints.find? fun e => e.1 = method).bind fun e => e.2.findSome? fun
    | .breaker i => some i
    | _ => none

def breaker? (d : Desk) (method : String) : Option Breaker := (d.breakerPlace? method).bind fun i => d.stage.breakers[i]?

theorem Arranged.breakerPlace? {d : Desk} (h : d.Arranged) {method : String} (hmethod : method ∈ Service.methods d.kind) :
    d.breakerPlace? method = some (d.place method) := by
  rw [Desk.breakerPlace?, h.chain hmethod]
  rfl

theorem Arranged.breaker? {d d' : Desk} (h : d.Arranged) (hfixtures : d'.fixtures = d.fixtures) {method : String}
    (hmethod : method ∈ Service.methods d.kind) {bucket : Bucket Float} {b : Breaker}
    (hstage : d'.stage.Holds (d.place method) bucket b) : d'.breaker? method = some b := by
  have hmethod' : method ∈ Service.methods d'.kind := (kind_of_fixtures hfixtures).symm ▸ hmethod
  rw [Desk.breaker?, (h.of_fixtures hfixtures).breakerPlace? hmethod', place_of_fixtures hfixtures]
  exact hstage.breaker

/-- How a call comes by the permits that it holds of its breaker, which may change with that. -/
abbrev Admission : Type := Breaker → Breaker → List Permit → Prop

/-- A call that comes in: it is throttled, or the breaker is asked for a permit. -/
inductive Admission.Entering (now : Instant) : Admission
  | throttled (b : Breaker) : Entering now b b []
  | asked (b : Breaker) : Entering now b (b.acquire now).2.1 (b.acquire now).1.toList

theorem Admission.entering_letIn (name : String) (now : Instant) (bucket : Bucket Float) (breaker : Breaker) :
    Entering now breaker (letIn name now bucket breaker).2.2 (letIn name now bucket breaker).1.toOption.toList := by
  have hasked : Entering now breaker (breaker.acquire now).2.1 (breaker.acquire now).1.toList := .asked breaker
  unfold letIn
  rcases bucket.take now with ⟨_ | _, bucket'⟩
  · exact .throttled breaker
  · rcases hacquire : breaker.acquire now with ⟨_ | permit, breaker', notices⟩
    · rwa [hacquire] at hasked
    · rwa [hacquire] at hasked

inductive Admission.Inside (permit : Permit) : Admission
  | held (b : Breaker) : Inside permit b b [permit]

/-- An admission that gives one permit at most, and leaves the rules of the breaker and its failures as they are. -/
structure Admission.Plain (a : Admission) : Prop where
  rules {b b' : Breaker} {permits : List Permit} : a b b' permits → b.SameRules b'
  failures {b b' : Breaker} {permits : List Permit} : a b b' permits → b'.failures = b.failures
  permits {b b' : Breaker} {permits : List Permit} : a b b' permits → permits.length ≤ 1

theorem Admission.plain_entering (now : Instant) : (Entering now).Plain where
  rules h := by
    cases h with
    | throttled => exact .refl _
    | asked => exact Breaker.sameRules_acquire _ now
  failures h := by
    cases h with
    | throttled => rfl
    | asked => exact Breaker.failures_acquire _ now
  permits h := by
    cases h with
    | throttled => exact Nat.zero_le _
    | asked => exact Option.length_toList_le

theorem Admission.plain_inside (permit : Permit) : (Inside permit).Plain where
  rules h := by cases h; exact .refl _
  failures h := by cases h; rfl
  permits h := by cases h; exact Nat.le_refl _

structure Advances (d : Desk) (method : String) (now : Instant) (admission : Admission) (r : Progress × Desk) : Prop where
  fixtures : r.2.fixtures = d.fixtures
  known : r.1.Known
  context {p : Pending} : r.1 = .waiting p → p.context.method = method
  own {bucket : Bucket Float} {breaker : Breaker} : d.stage.Holds (d.place method) bucket breaker →
    ∃ bucket' breaker' permits, admission breaker breaker' permits ∧
      r.2.stage.Holds (d.place method) bucket' (r.1.settled now permits breaker') ∧
      ∀ p, r.1 = .waiting p → ∃ permit, permits = [permit] ∧ p.Keeps (d.place method) [permit]
  others {other : String} {bucket : Bucket Float} {breaker : Breaker} : other ∈ Service.methods d.kind → other ≠ method →
    d.stage.Holds (d.place other) bucket breaker →
      r.2.stage.Holds (d.place other) bucket breaker ∧ ∀ p, r.1 = .waiting p → p.Keeps (d.place other) []

section

variable {d : Desk} {peers : Peers} {stop : Option Instant} {now : Instant} {wall : Moment} {context : Context} {ts : Tokens}
  {op : Operation}

theorem context_settle {frames : List Frame} {turn : Turn × Tokens × Desk} {p : Pending}
    (h : (settle now frames context stop turn).1 = .waiting p) : p.context = context := by
  obtain ⟨turn, ts, d⟩ := turn
  cases turn <;> cases h
  rfl

theorem context_start {p : Pending} (h : (start peers stop now wall context ts op d).1 = .waiting p) :
    p.context = context := by
  unfold start at h
  split at h
  case h_1 => cases h
  case h_2 =>
    split at h
    case h_1 => cases h
    case h_2 => exact context_settle h

theorem advances_start (hd : d.Arranged) (hpeers : peers.Known) (hop : op.method ∈ Service.methods d.kind)
    (hcontext : context.method = op.method) :
    Advances d op.method now (.Entering now) (start peers stop now wall context ts op d) where
  fixtures := fixtures_start d
  known := known_start hd hpeers hop hcontext
  context h := by rw [context_start h, hcontext]
  own {bucket breaker} h := by
    have hown := holds_start_own peers stop now wall context ts op (hd.spares_link op.method) h
      (by rw [hcontext]; exact hd.chain hop)
    have hentering := Admission.entering_letIn op.method now bucket breaker
    rw [hcontext] at hown
    rcases hdoor : letIn op.method now bucket breaker with ⟨fault | permit, bucket', breaker'⟩
    · rw [hdoor] at hown hentering
      obtain ⟨hended, hstage⟩ := hown
      rw [hended]
      exact ⟨bucket', breaker', [], hentering, hstage, by rintro p ⟨⟩⟩
    · rw [hdoor] at hown hentering
      obtain ⟨hstage, hkeeps⟩ := hown
      exact ⟨bucket', breaker', [permit], hentering, hstage, fun p hp => ⟨permit, rfl, hkeeps p hp⟩⟩
  others hother hne h :=
    holds_start_other peers stop now wall context ts op (hd.spares_link _) h fun _ he =>
      hd.spares_chain hother (by rwa [hcontext, ne_comm]) he

/-- A waiting call that holds a permit of its own breaker, and of no other breaker of a method. -/
structure Pending.Stands (d : Desk) (p : Pending) (permit : Permit) : Prop where
  method : p.context.method ∈ Service.methods d.kind
  known : p.wait.Known
  own : p.Keeps (d.place p.context.method) [permit]
  others {other : String} : other ∈ Service.methods d.kind → other ≠ p.context.method → p.Keeps (d.place other) []

theorem Pending.Stands.of_fixtures {d d' : Desk} {p : Pending} {permit : Permit} (h : p.Stands d permit)
    (hfixtures : d'.fixtures = d.fixtures) : p.Stands d' permit := by
  have hplace (m : String) : d'.place m = d.place m := place_of_fixtures hfixtures m
  refine ⟨?_, h.known, ?_, fun {other} hother hne => ?_⟩
  · rw [kind_of_fixtures hfixtures]
    exact h.method
  · rw [hplace]
    exact h.own
  · rw [kind_of_fixtures hfixtures] at hother
    rw [hplace]
    exact h.others hother hne

theorem Pending.Stands.advances_proceed {p : Pending} {permit : Permit} (h : p.Stands d permit) :
    Advances d p.context.method now (.Inside permit) (proceed peers now wall p d) where
  fixtures := fixtures_proceed p d
  known := known_proceed h.known
  context hwaits := by rw [context_settle hwaits]
  own {bucket breaker} hstage := by
    obtain ⟨hafter, hkeeps⟩ := holds_proceed peers now wall h.own hstage
    exact ⟨bucket, breaker, [permit], .held breaker, hafter, fun q hq => ⟨permit, rfl, hkeeps q hq⟩⟩
  others hother hne hstage := by
    have hafter := holds_proceed peers now wall (h.others hother hne) hstage
    rwa [Progress.settled_nil] at hafter

theorem Pending.Stands.advances_abandon {p : Pending} {permit : Permit} (h : p.Stands d permit) :
    Advances d p.context.method now (.Inside permit) (.ended .dropped, abandon now p d) where
  fixtures := fixtures_abandon p d
  known := by rintro method ⟨⟩
  context := by rintro q ⟨⟩
  own {bucket breaker} hstage :=
    ⟨bucket, breaker, [permit], .held breaker, holds_abandon now h.own hstage, by rintro q ⟨⟩⟩
  others hother hne hstage := ⟨holds_abandon now (h.others hother hne) hstage, by rintro q ⟨⟩⟩

namespace Advances

variable {method : String} {admission : Admission} {r : Progress × Desk}

theorem stands (h : Advances d method now admission r) (hmethod : method ∈ Service.methods d.kind)
    (hguarded : ∀ m ∈ Service.methods d.kind, ∃ bucket breaker, d.stage.Holds (d.place m) bucket breaker) {p : Pending}
    (hp : r.1 = .waiting p) : ∃ permit, p.Stands r.2 permit := by
  obtain ⟨bucket, breaker, hstage⟩ := hguarded method hmethod
  obtain ⟨_, _, _, _, _, hkeeps⟩ := h.own hstage
  obtain ⟨permit, -, hown⟩ := hkeeps p hp
  have hcontext : p.context.method = method := h.context hp
  have hknown := h.known
  rw [hp] at hknown
  have hstands : p.Stands d permit := by
    refine ⟨hcontext ▸ hmethod, hknown, hcontext ▸ hown, fun {other} hother hne => ?_⟩
    obtain ⟨bucket, breaker, hstage⟩ := hguarded other hother
    exact (h.others hother (hcontext ▸ hne) hstage).2 p hp
  exact ⟨permit, hstands.of_fixtures h.fixtures⟩

/-- In the place of any method a step keeps the rules of the breaker. Only the method of the call can have more failures then, and only
because of the end of the call. -/
theorem breaker_after (h : Advances d method now admission r) (hplain : admission.Plain) {m : String}
    (hm : m ∈ Service.methods d.kind) {bucket : Bucket Float} {breaker : Breaker}
    (hstage : d.stage.Holds (d.place m) bucket breaker) :
    ∃ bucket' breaker', r.2.stage.Holds (d.place m) bucket' breaker' ∧ breaker.SameRules breaker' ∧
      (breaker.failures < breaker'.failures → m = method ∧ ∃ entered permit ending,
        admission breaker entered [permit] ∧ r.1 = .ended ending ∧ entered.Blames permit ending.verdict) := by
  by_cases hown : m = method
  case neg =>
    exact ⟨bucket, breaker, (h.others hm hown hstage).1, .refl _, fun hlt => absurd hlt (UInt32.lt_irrefl _)⟩
  subst hown
  obtain ⟨bucket', entered, permits, hadmission, hafter, -⟩ := h.own hstage
  have hrules := hplain.rules hadmission
  have hfailures := hplain.failures hadmission
  have hlength := hplain.permits hadmission
  have hstays (hsame : r.1.settled now permits entered = entered) :
      ∃ bucket' breaker', r.2.stage.Holds (d.place m) bucket' breaker' ∧ breaker.SameRules breaker' ∧
        (breaker.failures < breaker'.failures → m = m ∧ ∃ entered permit ending,
          admission breaker entered [permit] ∧ r.1 = .ended ending ∧ entered.Blames permit ending.verdict) := by
    rw [hsame] at hafter
    exact ⟨bucket', entered, hafter, hrules, fun hlt => absurd (hfailures ▸ hlt) (UInt32.lt_irrefl _)⟩
  match permits, hlength with
  | [], _ => exact hstays (Progress.settled_nil now entered r.1)
  | [permit], _ =>
    cases hr : r.1 with
    | waiting p => exact hr ▸ hstays (by rw [hr]; rfl)
    | ended ending =>
      rw [hr] at hafter
      refine ⟨bucket', _, hafter, hrules.trans (entered.sameRules_conclude now permit ending.verdict), fun hlt => ?_⟩
      rw [← hfailures] at hlt
      exact ⟨rfl, entered, permit, ending, hadmission, rfl, Breaker.blames_of_failures_lt hlt⟩

end Advances

/-! ## Calls that need no peer -/

theorem letIn_unhurt (name : String) (now : Instant) (bucket : Bucket Float) {breaker : Breaker} (h : breaker.Unhurt) :
    (letIn name now bucket breaker).1 = .error (.throttled name) ∨ (letIn name now bucket breaker).1 = .ok ⟨false⟩ := by
  simp only [letIn, Breaker.acquire_closed h.phase]
  cases (bucket.take now).1 with
  | false => exact .inl rfl
  | true => exact .inr rfl

/-- A call of a method that never calls the peer ends at once. As long as the store is in order and the breaker of the method is unhurt,
its only faults are that there was no token, that the request is invalid or that something is missing. -/
theorem start_local (hd : d.Arranged) (hop : op.method ∈ Service.methods d.kind)
    (hlocal : op.method ∉ Service.peerMethods d.kind) (hsound : d.backend.outage = none) (hcontext : context.method = op.method)
    {bucket : Bucket Float} {breaker : Breaker} (hstage : d.stage.Holds (d.place op.method) bucket breaker)
    (hunhurt : breaker.Unhurt) :
    ∃ result, (start peers stop now wall context ts op d).1 = .ended (.returned result) ∧
      ∀ f, result = .error f → f.kind ∈ [.throttled, .validation, .notFound] := by
  have hchain := hd.chain hop
  obtain ⟨s, hstart, -⟩ := startCall_endpoint hstage now ⟨op.method, op.fields⟩ op.method
  rcases letIn_unhurt op.method now bucket hunhurt with hdoor | hdoor <;> rw [hdoor] at hstart
  · refine ⟨.error (.throttled op.method), ?_, ?_⟩
    · simp only [start, hcontext, hchain, hstart]
      rfl
    · rintro f ⟨⟩
      exact List.mem_cons_self
  · obtain ⟨result, b', hhandle, hfault⟩ := Service.replied_of_local d.link.isSome wall op.method hop hlocal hsound
    refine ⟨result, ?_, fun f hf => ?_⟩
    · simp only [start, hcontext, hchain, hstart, perform, hhandle]
      rfl
    · rcases hfault f hf with hkind | hkind <;> simp [hkind]

theorem unhurt_start_local (hd : d.Arranged) (hpeers : peers.Known) (hop : op.method ∈ Service.methods d.kind)
    (hlocal : op.method ∉ Service.peerMethods d.kind) (hsound : d.backend.outage = none) (hcontext : context.method = op.method)
    {bucket : Bucket Float} {breaker : Breaker} (hstage : d.stage.Holds (d.place op.method) bucket breaker)
    (hcounts : breaker.counts = Fault.isDependencyFailure) (hunhurt : breaker.Unhurt) :
    ∃ bucket' breaker', (start peers stop now wall context ts op d).2.stage.Holds (d.place op.method) bucket' breaker' ∧
      breaker'.Unhurt := by
  have hadvances : Advances d op.method now (.Entering now) (start peers stop now wall context ts op d) :=
    advances_start hd hpeers hop hcontext
  obtain ⟨result, hended, hfaults⟩ : ∃ result, (start peers stop now wall context ts op d).1 = .ended (.returned result) ∧
      ∀ f, result = .error f → f.kind ∈ [.throttled, .validation, .notFound] :=
    start_local hd hop hlocal hsound hcontext hstage hunhurt
  obtain ⟨bucket', entered, permits, hadmission, hafter, -⟩ := hadvances.own hstage
  rw [hended] at hafter
  refine ⟨bucket', _, hafter, ?_⟩
  cases hadmission with
  | throttled => exact hunhurt
  | asked =>
    rw [Breaker.acquire_closed hunhurt.phase]
    refine hunhurt.conclude fun hblames => ?_
    cases result with
    | ok response => cases hblames
    | error f =>
      cases hblames with
      | failed hf =>
        rw [hcounts, Fault.isDependencyFailure] at hf
        -- A breaker counts none of the three kinds of faults that are left.
        have hkind := hfaults f rfl
        simp only [List.mem_cons, List.not_mem_nil, or_false] at hkind
        rcases hkind with hkind | hkind | hkind <;> rw [hkind] at hf <;> cases hf

end

end Campus.Desk
