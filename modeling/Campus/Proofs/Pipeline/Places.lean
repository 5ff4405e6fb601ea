import Campus.Proofs.Pipeline.Frames

/-! # Places of the guard room

Each place of a guard room has a bucket and a breaker. A chain asks those of its own place only: a call leaves all other places as
they are, when it enters and when its frames are left. In its own place it is throttled, rejected, or let in with a permit, and
leaving its frames settles that permit.
-/
namespace Campus

open Pipeline

namespace Breaker

/-- Settles permits one by one by what is known of the end of their call. -/
def concludeAll (b : Breaker) (now : Instant) (v : Verdict) (permits : List Permit) : Breaker :=
  permits.foldl (fun b p => (b.conclude now p v).1) b

variable (b : Breaker) (now : Instant) (v : Verdict)

@[simp] theorem concludeAll_nil : b.concludeAll now v [] = b := rfl

theorem concludeAll_append (ps qs : List Permit) :
    b.concludeAll now v (ps ++ qs) = (b.concludeAll now v ps).concludeAll now v qs := List.foldl_append

end Breaker

namespace Pipeline

def Frame.permitAt? (i : Nat) : Frame → Option Permit
  | .permit j p => if j = i then some p else none
  | _ => none

/-- The permits of the breaker in a place that frames hold, in the order in which they are left. -/
def permitsAt (i : Nat) (frames : List Frame) : List Permit := frames.filterMap (Frame.permitAt? i)

theorem permitsAt_append (i : Nat) (frames more : List Frame) :
    permitsAt i (frames ++ more) = permitsAt i frames ++ permitsAt i more := List.filterMap_append

/-- A guard room with a certain bucket and breaker in one place, and without calls that were torn down there. -/
structure Stage.Holds (s : Stage) (i : Nat) (bucket : Bucket Float) (breaker : Breaker) : Prop where
  bucket : s.buckets[i]? = some bucket
  breaker : s.breakers[i]? = some breaker
  leaving : ∀ frames ∈ s.leaving, permitsAt i frames = []

namespace Stage.Holds

variable {s : Stage} {i j : Nat} {bucket : Bucket Float} {breaker : Breaker}

theorem note (h : s.Holds i bucket breaker) (ns : List Notice) : (s.note ns).Holds i bucket breaker :=
  ⟨h.bucket, h.breaker, h.leaving⟩

theorem write (h : s.Holds i bucket breaker) (e : Entry) : (s.write e).Holds i bucket breaker :=
  ⟨h.bucket, h.breaker, h.leaving⟩

theorem setBucket (h : s.Holds i bucket breaker) (bucket' : Bucket Float) :
    ({ s with buckets := s.buckets.set i bucket' } : Stage).Holds i bucket' breaker :=
  ⟨List.getElem?_set_self (List.getElem?_eq_some_iff.mp h.bucket).1, h.breaker, h.leaving⟩

theorem setBreaker (h : s.Holds i bucket breaker) (breaker' : Breaker) :
    ({ s with breakers := s.breakers.set i breaker' } : Stage).Holds i bucket breaker' :=
  ⟨h.bucket, List.getElem?_set_self (List.getElem?_eq_some_iff.mp h.breaker).1, h.leaving⟩

theorem setBucket_of_ne (h : s.Holds i bucket breaker) (hne : j ≠ i) (other : Bucket Float) :
    ({ s with buckets := s.buckets.set j other } : Stage).Holds i bucket breaker :=
  ⟨(List.getElem?_set_ne hne).trans h.bucket, h.breaker, h.leaving⟩

theorem setBreaker_of_ne (h : s.Holds i bucket breaker) (hne : j ≠ i) (other : Breaker) :
    ({ s with breakers := s.breakers.set j other } : Stage).Holds i bucket breaker :=
  ⟨h.bucket, (List.getElem?_set_ne hne).trans h.breaker, h.leaving⟩

theorem tearDown (h : s.Holds i bucket breaker) {frames : List Frame} (hframes : permitsAt i frames = []) :
    (s.tearDown frames).Holds i bucket breaker where
  bucket := h.bucket
  breaker := h.breaker
  leaving := by
    intro fs hfs
    rcases List.mem_append.mp hfs with hold | hnew
    · exact h.leaving fs hold
    · exact List.mem_singleton.mp hnew ▸ hframes

end Stage.Holds

/-! ## Other places -/

def Decorator.Spares (i : Nat) : Decorator → Prop
  | .rateLimit _ j | .breaker j => j ≠ i
  | _ => True

section Others

variable {s : Stage} {i : Nat} {bucket : Bucket Float} {breaker : Breaker} (now : Instant) (call : CallInfo)

/-- A call enters decorators that spare a place without a trace of it there. -/
theorem enter_spares {decorators : List Decorator} (hspares : ∀ d ∈ decorators, d.Spares i) {frames : List Frame}
    (hframes : permitsAt i frames = []) (h : s.Holds i bucket breaker) :
    (enter now call decorators frames s).2.Holds i bucket breaker ∧
      permitsAt i (enter now call decorators frames s).1.1 = [] := by
  induction decorators generalizing frames s with
  | nil => exact ⟨h, hframes⟩
  | cons d inner ih =>
    have hinner : ∀ d ∈ inner, d.Spares i := fun d hd => hspares d (List.mem_cons_of_mem _ hd)
    have hspare : d.Spares i := hspares d List.mem_cons_self
    cases d with
    | logging => exact ih hinner hframes h
    | metrics => exact ih hinner hframes h
    | mark name => exact ih hinner hframes (h.write _)
    | rateLimit endpoint j =>
      cases hfound : s.buckets[j]? with
      | none => simpa only [enter, hfound] using ih hinner hframes h
      | some b =>
        have hset := h.setBucket_of_ne hspare (b.take now).2
        simp only [enter, hfound]
        split
        · exact ih hinner hframes hset
        · exact ⟨hset.note _, hframes⟩
    | breaker j =>
      cases hfound : s.breakers[j]? with
      | none => simpa only [enter, hfound] using ih hinner hframes h
      | some b =>
        have hset := (h.setBreaker_of_ne hspare (b.acquire now).2.1).note (b.acquire now).2.2
        have hother (p : Permit) : permitsAt i (.permit j p :: frames) = [] := by
          have hne : ¬j = i := hspare
          simpa [permitsAt, Frame.permitAt?, hne] using hframes
        simp only [enter, hfound]
        split
        · exact ih hinner (hother _) hset
        · exact ⟨hset, hframes⟩

theorem Frame.breaker_leave (h : s.breakers[i]? = some breaker) (v : Verdict) (f : Frame) :
    (Frame.leave now v s f).breakers[i]? = some (breaker.concludeAll now v (permitsAt i [f])) := by
  cases f with
  | log method fields since => exact h
  | timer method since => exact h
  | permit j p =>
    by_cases hj : j = i
    · subst hj
      have hpermits : permitsAt j [.permit j p] = [p] := by simp [permitsAt, permitAt?]
      rw [leave_permit h, hpermits]
      exact List.getElem?_set_self (List.getElem?_eq_some_iff.mp h).1
    · have hpermits : permitsAt i [.permit j p] = [] := by simp [permitsAt, permitAt?, hj]
      rw [hpermits]
      cases hfound : s.breakers[j]? with
      | none => simpa [leave, hfound] using h
      | some b =>
        rw [leave_permit hfound]
        exact (List.getElem?_set_ne hj).trans h

/-- Leaving the frames of a call settles the permits that they hold. -/
theorem breaker_leave (h : s.breakers[i]? = some breaker) (v : Verdict) (frames : List Frame) :
    (leave now v frames s).breakers[i]? = some (breaker.concludeAll now v (permitsAt i frames)) := by
  induction frames generalizing s breaker with
  | nil => exact h
  | cons f frames ih =>
    have hsplit : permitsAt i (f :: frames) = permitsAt i [f] ++ permitsAt i frames := permitsAt_append i [f] frames
    rw [hsplit, Breaker.concludeAll_append]
    exact ih (Frame.breaker_leave now h v f)

theorem holds_leave (h : s.Holds i bucket breaker) (v : Verdict) (frames : List Frame) :
    (leave now v frames s).Holds i bucket (breaker.concludeAll now v (permitsAt i frames)) := by
  obtain ⟨hbuckets, hleaving⟩ := rest_leave now v frames s
  exact ⟨hbuckets ▸ h.bucket, breaker_leave now h.breaker v frames, hleaving ▸ h.leaving⟩

theorem holds_leave_of_none (h : s.Holds i bucket breaker) (v : Verdict) {frames : List Frame}
    (hframes : permitsAt i frames = []) : (leave now v frames s).Holds i bucket breaker := by
  have hleft := holds_leave now h v frames
  rwa [hframes] at hleft

theorem Stage.sweep_eq_leave (s : Stage) : s.sweep now = leave now .unfinished s.leaving.flatten { s with leaving := [] } :=
  List.foldl_flatten.symm

/-- Sweeping a guard room drops the permits that the calls that were torn down hold. -/
theorem Stage.breaker_sweep (h : s.breakers[i]? = some breaker) :
    (s.sweep now).breakers[i]? = some (breaker.concludeAll now .unfinished (permitsAt i s.leaving.flatten)) := by
  rw [sweep_eq_leave]
  exact breaker_leave now (s := { s with leaving := [] }) h .unfinished _

theorem permitsAt_flatten {all : List (List Frame)} (h : ∀ frames ∈ all, permitsAt i frames = []) :
    permitsAt i all.flatten = [] := by
  induction all with
  | nil => rfl
  | cons frames rest ih =>
    obtain ⟨hfirst, hrest⟩ := List.forall_mem_cons.mp h
    rw [List.flatten_cons, permitsAt_append]
    exact List.append_eq_nil_iff.mpr ⟨hfirst, ih hrest⟩

theorem Stage.Holds.sweep (h : s.Holds i bucket breaker) : (s.sweep now).Holds i bucket breaker := by
  obtain ⟨hbuckets, hleaving⟩ := rest_leave now .unfinished s.leaving.flatten { s with leaving := [] }
  have hbreaker := Stage.breaker_sweep now h.breaker
  rw [permitsAt_flatten h.leaving] at hbreaker
  rw [Stage.sweep_eq_leave] at hbreaker ⊢
  exact ⟨(congrArg (·[i]?) hbuckets).trans h.bucket, hbreaker, by simp [hleaving]⟩

/-- A call of a chain that spares a place leaves it as it is, and holds none of its permits. -/
theorem startCall_spares {decorators : List Decorator} (hspares : ∀ d ∈ decorators, d.Spares i)
    (h : s.Holds i bucket breaker) :
    (startCall now call decorators s).2.Holds i bucket breaker ∧
      ∀ frames ∈ (startCall now call decorators s).1.toOption, permitsAt i frames = [] := by
  obtain ⟨hstage, hframes⟩ := enter_spares now call hspares (rfl : permitsAt i [] = []) h
  rcases henter : enter now call decorators [] s with ⟨⟨frames, _ | fault⟩, s'⟩
  · rw [henter] at hstage hframes
    rw [startCall_of_entered henter]
    refine ⟨hstage, ?_⟩
    rintro _ ⟨⟩
    exact hframes
  · rw [henter] at hstage hframes
    rw [startCall_of_refused henter]
    exact ⟨holds_leave_of_none now hstage _ hframes, by rintro _ ⟨⟩⟩

end Others

/-! ## The own place -/

/-- What a bucket and a breaker make of a call: without a token it is throttled, with one the breaker rejects it or gives it a permit.
Gives the bucket and the breaker after it too. -/
def letIn (name : String) (now : Instant) (bucket : Bucket Float) (breaker : Breaker) :
    Except Fault Permit × Bucket Float × Breaker :=
  let (ok, bucket) := bucket.take now
  if ok then
    let (permit, breaker, _) := breaker.acquire now
    match permit with
    | some p => (.ok p, bucket, breaker)
    | none => (.error breaker.rejection, bucket, breaker)
  else (.error (.throttled name), bucket, breaker)

def endpointFrames (i : Nat) (call : CallInfo) (since : Instant) (p : Permit) : List Frame :=
  [.log call.method call.fields since, .timer call.method since, .permit i p]

@[simp] theorem permitsAt_endpointFrames (i : Nat) (call : CallInfo) (since : Instant) (p : Permit) :
    permitsAt i (endpointFrames i call since p) = [p] := by
  simp [permitsAt, endpointFrames, List.filterMap_cons, Frame.permitAt?]

theorem spares_endpointChain {i j : Nat} (h : j ≠ i) (method : String) : ∀ d ∈ endpointChain method j j, d.Spares i := by
  simp [endpointChain, Decorator.Spares, h]

/-- At the chain of an endpoint a call meets with the bucket and the breaker in the place of that endpoint, and with nothing else. -/
theorem startCall_endpoint {s : Stage} {i : Nat} {bucket : Bucket Float} {breaker : Breaker} (h : s.Holds i bucket breaker)
    (now : Instant) (call : CallInfo) (method : String) :
    ∃ s', startCall now call (endpointChain method i i) s =
        ((letIn method now bucket breaker).1.map (endpointFrames i call now), s') ∧
      s'.Holds i (letIn method now bucket breaker).2.1 (letIn method now bucket breaker).2.2 := by
  rcases ht : bucket.take now with ⟨_ | _, bucket'⟩
  · have henter : enter now call (endpointChain method i i) [] s = (([], some (.throttled method)),
        { s with buckets := s.buckets.set i bucket' }.note [.rateLimited method]) := by
      simp [endpointChain, enter, h.bucket, ht]
    simp only [letIn, ht]
    exact ⟨_, startCall_of_refused henter, (h.setBucket bucket').note _⟩
  · rcases ha : breaker.acquire now with ⟨_ | p, breaker', ns⟩
    · have henter : enter now call (endpointChain method i i) [] s = (([], some breaker'.rejection),
          { s with buckets := s.buckets.set i bucket', breakers := s.breakers.set i breaker' }.note ns) := by
        simp [endpointChain, enter, h.bucket, h.breaker, ht, ha]
      simp only [letIn, ht, ha]
      exact ⟨_, startCall_of_refused henter, ((h.setBucket bucket').setBreaker breaker').note ns⟩
    · have henter : enter now call (endpointChain method i i) [] s = ((endpointFrames i call now p, none),
          { s with buckets := s.buckets.set i bucket', breakers := s.breakers.set i breaker' }.note ns) := by
        simp [endpointChain, endpointFrames, enter, h.bucket, h.breaker, ht, ha]
      simp only [letIn, ht, ha]
      exact ⟨_, startCall_of_entered henter, ((h.setBucket bucket').setBreaker breaker').note ns⟩

end Pipeline

end Campus
