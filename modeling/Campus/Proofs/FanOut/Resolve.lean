import Campus.Proofs.FanOut.Plan
import Campus.Proofs.FanOut.Units

/-! # What a fan-out gives

A fan-out whose fetches all succeed gives their entities in the order of the ids. One with a fetch that fails gives the fault
of the unit that fails first, counted by the timetable; what runs at that instant is given up and nothing else starts.
-/
namespace Campus.FanOut

variable {σ ρ ε : Type}

/-- How many units run at once. A bound of zero is no bound. -/
def capacity (bound count : Nat) : Nat := if bound = 0 then count else bound

theorem capacity_pos {bound count : Nat} (h : 0 < count) : 0 < capacity bound count := by
  unfold capacity
  split
  · exact h
  · exact Nat.pos_of_ne_zero ‹_›

theorem index_unitsOf {caller : Context} {ids : List String} {ts : Tokens} {k : Nat} {u : Waiting}
    (hu : (unitsOf caller ids ts)[k]? = some u) : u.index = k := by
  rw [getElem?_unitsOf] at hu
  obtain ⟨id, -, rfl⟩ := Option.map_eq_some_iff.mp hu
  rfl

namespace Job.Serves

variable {w : Worker σ ρ ε} {caller : Context} {ids : List String} {bound : Nat} {ts : Tokens} {ending : Nat → Ending ε}
  {Inv : Instant → List (Running ρ) → Nat → σ → Prop} {Ends : Instant → Nat → Prop}

/-- A job that has just been made stands as it should when its worker does. -/
theorem stands_create (h : Serves w (unitsOf caller ids ts) (capacity bound ids.length) ending Inv Ends) (seed : String)
    {now : Instant} {s : σ} (hinv : Inv now [] 0 s) :
    Stands (unitsOf caller ids ts) (capacity bound ids.length) ending Inv now (Job.create caller seed ids bound ts).1 0 s := by
  have hleft : (Job.create caller seed ids bound ts : Job ρ ε × Tokens).1.left = (unitsOf caller ids ts).map Waiting.key := rfl
  have hall : ((unitsOf caller ids ts).map Waiting.key).map Prod.fst = List.range ids.length := by
    rw [h.map_index_units, length_unitsOf]
  refine ⟨rfl, Nat.zero_le _, ?_, ?_, hinv, ?_, ?_, ?_, ?_⟩
  · rw [hleft]
  · rw [length_unitsOf]
    by_cases hb : bound = 0
    · simp [create_eq, capacity, Permits, hb]
    · simp [create_eq, capacity, Permits, hb]
  · rw [hleft]
    simp [create_eq]
  · simp [create_eq]
  · intro i hi _
    rw [length_unitsOf] at hi
    simp [create_eq, hi]
  · intro i hi hnot
    rw [length_unitsOf] at hi
    rw [hleft, hall] at hnot
    exact absurd (List.mem_range.mpr hi) hnot

/-- A whole fan-out, as far as the rule for its worker tells. -/
theorem resolve (h : Serves w (unitsOf caller ids ts) (capacity bound ids.length) ending Inv Ends) (seed : String)
    (hids : ids ≠ []) (hbound : bound ≤ maxPermits) (hcaller : caller.token < ts.nodes.size)
    (halive : ts.isCancelled caller.token = false) {now : Instant} {s : σ} (hinv : Inv now [] 0 s) :
    Driven w (unitsOf caller ids ts) (capacity bound ids.length) ending Inv Ends seed ts.nodes.size (tokensOf caller ids ts)
      (FanOut.resolve w caller seed ids bound none now ts s) := by
  have hstands := h.stands_create seed hinv
  have hfuel : (Job.create caller seed ids bound ts : Job ρ ε × Tokens).1.left.length + 1 < ids.length + 2 := by
    simp [create_eq, left]
  rw [← isCancelled_tokensOf_of_lt caller ids hcaller] at halive
  have hdriven := h.drive halive hstands hfuel
  simp only [FanOut.resolve, hids, if_false, Nat.not_lt.mpr hbound]
  exact hdriven

end Job.Serves

/-- Units known by their places are those in front when their places are. -/
theorem filter_eq_take {units : List Waiting} (hindex : ∀ {k : Nat} {u : Waiting}, units[k]? = some u → u.index = k)
    {p : Nat → Prop} [DecidablePred p] {k : Nat} (hp : ∀ i < units.length, p i ↔ i < k) :
    (units.filter fun u => p u.index) = units.take k := by
  conv => lhs; rw [← List.take_append_drop k units, List.filter_append]
  rw [List.filter_eq_self.mpr, List.filter_eq_nil_iff.mpr, List.append_nil]
  · intro u hu
    obtain ⟨i, hi⟩ := List.getElem?_of_mem hu
    rw [List.getElem?_drop] at hi
    rw [hindex hi, decide_eq_true_iff, hp _ (List.getElem?_eq_some_iff.mp hi).1]
    exact Nat.not_lt.mpr (Nat.le_add_right k i)
  · intro u hu
    obtain ⟨i, hi⟩ := List.getElem?_of_mem hu
    have hlt : i < k := Nat.lt_of_lt_of_le (List.getElem?_eq_some_iff.mp hi).1 (List.length_take_le k units)
    rw [List.getElem?_take_of_lt hlt] at hi
    rw [hindex hi]
    exact decide_eq_true ((hp i (List.getElem?_eq_some_iff.mp hi).1).mpr hlt)

/-! ## The log of a plan -/

namespace Follows

variable {T : Timetable} {units : List Waiting} {t : Instant} {running : List (Running Nat)} {k : Nat} {log : Log}

theorem mem_finishes_or_running (h : Follows T units t running k log) {i : Nat} (hi : i < k) :
    i ∈ log.finishes.map Prod.snd ∨ i ∈ running.map Running.index :=
  List.mem_append.mp (h.once.mem_iff.mpr (List.mem_range.mpr hi))

theorem finish_le_of_mem (h : Follows T units t running k log) {i : Nat} (hi : i ∈ log.finishes.map Prod.snd) :
    i < k ∧ T.finish i ≤ t := by
  have hk : i < k := List.mem_range.mp (h.once.mem_iff.mp (List.mem_append_left _ hi))
  obtain ⟨p, hp, rfl⟩ := List.mem_map.mp hi
  obtain ⟨heq, hle⟩ := h.finished p hp
  exact ⟨hk, heq ▸ hle⟩

theorem lt_finish_of_mem (h : Follows T units t running k log) (hdue : ∀ u ∈ running, t < u.due) {i : Nat}
    (hi : i ∈ running.map Running.index) : i < k ∧ t < T.finish i := by
  refine ⟨h.lt_of_running hi, ?_⟩
  obtain ⟨u, hu, rfl⟩ := List.mem_map.mp hi
  rw [← (h.due u hu).2.1]
  exact hdue u hu

section Settled

-- What was due has ended, and units wait only while every permit is taken.
variable (h : Follows T units t running k log) (hc : 0 < T.capacity)
  (hbusy : k < units.length → running.length = T.capacity) (hdue : ∀ u ∈ running, t < u.due)

include h hc hbusy hdue

theorem lt_start {i : Nat} (hk : k ≤ i) (hi : i < units.length) : t < T.start i := by
  have hlt := Nat.lt_of_le_of_lt hk hi
  have hperm := h.free hlt
  rw [hbusy hlt, Nat.sub_self, List.replicate_zero, List.nil_append] at hperm
  obtain ⟨u, hu, heq⟩ := List.mem_map.mp (hperm.mem_iff.mp (Timetable.start_mem hc k))
  refine Nat.lt_of_lt_of_le ?_ (Timetable.start_le_start hc hk)
  rw [← heq]
  exact hdue u hu

theorem start_le_iff {i : Nat} (hi : i < units.length) : T.start i ≤ t ↔ i < k := by
  constructor
  · intro hle
    refine Nat.lt_of_not_le fun hk => ?_
    exact Nat.not_lt.mpr hle (h.lt_start hc hbusy hdue hk hi)
  · exact h.begun i

theorem index_running :
    (running.map Running.index).Perm ((List.range units.length).filter fun i => T.start i ≤ t ∧ t < T.finish i) := by
  have hnodup := h.once.nodup_iff.mpr List.nodup_range
  rw [List.nodup_append] at hnodup
  refine (List.perm_ext_iff_of_nodup hnodup.2.1 (List.nodup_range.filter _)).mpr fun i => ?_
  rw [List.mem_filter, List.mem_range, decide_eq_true_iff]
  constructor
  · intro hi
    obtain ⟨hk, hlt⟩ := h.lt_finish_of_mem hdue hi
    exact ⟨Nat.lt_of_lt_of_le hk h.le_length, h.begun _ hk, hlt⟩
  · rintro ⟨hi, hstart, hlt⟩
    refine (h.mem_finishes_or_running ((h.start_le_iff hc hbusy hdue hi).mp hstart)).resolve_left fun hdone => ?_
    exact Nat.not_lt.mpr (h.finish_le_of_mem hdone).2 hlt

theorem finishes_perm :
    log.finishes.Perm (((List.range units.length).filter fun i => T.finish i ≤ t).map fun i => (T.finish i, i)) := by
  have hnodup := h.once.nodup_iff.mpr List.nodup_range
  rw [List.nodup_append] at hnodup
  have hindex : (log.finishes.map Prod.snd).Perm ((List.range units.length).filter fun i => T.finish i ≤ t) := by
    refine (List.perm_ext_iff_of_nodup hnodup.1 (List.nodup_range.filter _)).mpr fun i => ?_
    rw [List.mem_filter, List.mem_range, decide_eq_true_iff]
    constructor
    · intro hi
      obtain ⟨hk, hle⟩ := h.finish_le_of_mem hi
      exact ⟨Nat.lt_of_lt_of_le hk h.le_length, hle⟩
    · rintro ⟨hi, hle⟩
      have hk := (h.start_le_iff hc hbusy hdue hi).mp (Nat.le_trans (T.start_le_finish i) hle)
      refine (h.mem_finishes_or_running hk).resolve_right fun hrun => ?_
      exact Nat.not_lt.mpr hle (h.lt_finish_of_mem hdue hrun).2
  have hself : log.finishes = (log.finishes.map Prod.snd).map fun i => (T.finish i, i) := by
    rw [List.map_map]
    refine (List.map_id _).symm.trans (List.map_congr_left fun p hp => ?_)
    exact Prod.ext (h.finished p hp).1 rfl
  rw [hself]
  exact hindex.map _

theorem starts_eq (hindex : ∀ {k : Nat} {u : Waiting}, units[k]? = some u → u.index = k) :
    log.starts = (units.filter fun u => T.start u.index ≤ t).map fun u => (T.start u.index, u.context, u.id) := by
  rw [h.starts, filter_eq_take hindex fun i hi => h.start_le_iff hc hbusy hdue hi]

theorem finish_of_left (hindex : ∀ {k : Nat} {u : Waiting}, units[k]? = some u → u.index = k) {job : Job Nat ε}
    (hrunning : job.running = running) (hwaiting : job.waiting = units.drop k) {i : Nat}
    (hi : i ∈ job.left.map Prod.fst) : t < T.finish i := by
  rw [Job.left, hrunning, hwaiting, List.map_append, List.mem_append, List.map_map, List.map_map] at hi
  obtain hrun | hwait := hi
  · exact (h.lt_finish_of_mem hdue hrun).2
  · obtain ⟨u, hu, heq⟩ := List.mem_map.mp hwait
    obtain rfl : u.index = i := heq
    obtain ⟨j, hj⟩ := List.getElem?_of_mem hu
    rw [List.getElem?_drop] at hj
    rw [hindex hj]
    have hlt : k + j < units.length := (List.getElem?_eq_some_iff.mp hj).1
    exact Nat.lt_of_lt_of_le (h.lt_start hc hbusy hdue (Nat.le_add_right k j) hlt) (T.start_le_finish _)

theorem abandons_perm (now : Instant) :
    (running.reverse.map fun u => (now, u.fetch)).Perm
      (((List.range units.length).filter fun i => T.start i ≤ t ∧ t < T.finish i).map fun i => (now, i)) := by
  have hfetch : running.map (fun u => (now, u.fetch)) = (running.map Running.index).map fun i => (now, i) := by
    rw [List.map_map]
    refine List.map_congr_left fun u hu => ?_
    exact congrArg _ (h.due u hu).1
  rw [List.map_reverse, hfetch]
  exact (List.reverse_perm _).trans ((h.index_running hc hbusy hdue).map _)

end Settled

end Follows

theorem tearDown_planned (plan : Nat → Script ε) (now : Instant) (left : List (Running Nat)) (log : Log) :
    Job.tearDown (planned plan) now left log =
      ⟨log.starts, log.finishes, log.abandons ++ left.map fun u => (now, u.fetch)⟩ := by
  induction left generalizing log with
  | nil => simp [Job.tearDown]
  | cons u left ih =>
    have hstep : Job.tearDown (planned plan) now (u :: left) log =
        Job.tearDown (planned plan) now left ⟨log.starts, log.finishes, log.abandons ++ [(now, u.fetch)]⟩ := rfl
    rw [hstep, ih, List.map_cons, List.append_assoc, List.singleton_append]

/-! ## Success and failure -/

/-- A fetch fails with a fault of its own, or with one that carries the text with which it broke down. -/
inductive Fails : Ending ε → Fault → Prop where
  | fault (f : Fault) : Fails (.returned (.error f)) f
  | panic (text : Option String) :
      Fails (.panicked text) (.internal ("fetch panicked: " ++ text.getD "non-string panic payload"))
  | dropped : Fails .dropped .cancelled

theorem fails_iff {ending : Ending ε} {f : Fault} : Fails ending f ↔ resultOf ending = .error f := by
  constructor
  · rintro (_ | _ | _) <;> rfl
  · intro h
    cases ending with
    | returned result =>
      cases result with
      | ok e => cases h
      | error g =>
        cases h
        exact .fault f
    | panicked text =>
      cases h
      exact .panic text
    | dropped =>
      cases h
      exact .dropped

theorem Fails.entity? {ending : Ending ε} {f : Fault} (h : Fails ending f) : Job.entity? ending = none := by
  cases h <;> rfl

/-- A unit fails before all others that fail: earlier, or at the same instant with an earlier place. -/
structure FailsFirst (plan : Nat → Script ε) (T : Timetable) (count i : Nat) (f : Fault) : Prop where
  lt : i < count
  fails : Fails (plan i).ending f
  first : ∀ j < count, ∀ g, Fails (plan j).ending g → T.finish i < T.finish j ∨ T.finish i = T.finish j ∧ i ≤ j

/-- The unit whose fault decides fails first, as the others that fail come after it or have not ended. -/
theorem Follows.failsFirst {plan : Nat → Script ε} {capacity : Nat} {now : Instant} {units : List Waiting} {k i : Nat}
    {running : List (Running Nat)} {log : Log} {f : Fault} {job : Job Nat ε}
    (h : Follows (.ofPlan plan capacity now) units ((Timetable.ofPlan plan capacity now).finish i) running k log)
    (hc : 0 < capacity) (hbusy : k < units.length → running.length = capacity)
    (hdue : ∀ u ∈ running, (Timetable.ofPlan plan capacity now).finish i < u.due)
    (hindex : ∀ {k : Nat} {u : Waiting}, units[k]? = some u → u.index = k) (hrunning : job.running = running)
    (hwaiting : job.waiting = units.drop k) (hi : i < units.length) (hf : Fails (plan i).ending f)
    (hfirst : ∀ j < units.length, Job.entity? (plan j).ending = none → j ∈ job.left.map Prod.fst ∨
      (Timetable.ofPlan plan capacity now).finish j = (Timetable.ofPlan plan capacity now).finish i ∧ i ≤ j) :
    FailsFirst plan (.ofPlan plan capacity now) units.length i f := by
  refine ⟨hi, hf, fun j hj g hg => ?_⟩
  obtain hleft | ⟨hends, hle⟩ := hfirst j hj hg.entity?
  · exact .inl (h.finish_of_left hc hbusy hdue hindex hrunning hwaiting hleft)
  · exact .inr ⟨hends.symm, hle⟩

section Resolve

variable (plan : Nat → Script ε) (caller : Context) (seed : String) (ids : List String) (bound : Nat) (now : Instant)
  (ts : Tokens)

theorem driven_planned (hids : ids ≠ []) (hbound : bound ≤ maxPermits) (hcaller : caller.token < ts.nodes.size)
    (halive : ts.isCancelled caller.token = false) :
    Job.Serves.Driven (planned plan) (unitsOf caller ids ts) (capacity bound ids.length) (fun i => (plan i).ending)
      (Follows (.ofPlan plan (capacity bound ids.length) now) (unitsOf caller ids ts))
      (fun t i => (Timetable.ofPlan plan (capacity bound ids.length) now).finish i = t) seed ts.nodes.size
      (tokensOf caller ids ts) (resolve (planned plan) caller seed ids bound none now ts Log.empty) := by
  have hc : 0 < capacity bound ids.length := capacity_pos (List.length_pos_iff.mpr hids)
  have hserves : Job.Serves _ (unitsOf caller ids ts) _ _ _ _ := serves_planned plan now hc index_unitsOf
  exact hserves.resolve seed hids hbound hcaller halive (.first _)

/-- A fan-out gives the entities of all ids in their order when every fetch succeeds, whatever the delays and the bound. Each
fetch is started once, under a context that lies below the caller's, and finishes once. -/
theorem resolve_all_succeed (entity : Nat → ε) (hids : ids ≠ []) (hbound : bound ≤ maxPermits)
    (hplan : ∀ i < ids.length, (plan i).ending = .returned (.ok (entity i))) (hcaller : caller.token < ts.nodes.size)
    (halive : ts.isCancelled caller.token = false) :
    let report := resolve (planned plan) caller seed ids bound none now ts Log.empty
    report.ending = .returned (.ok ((List.range ids.length).map entity)) ∧
      report.state.starts.map Prod.snd =
        (ids.mapIdx fun i id => ({ caller with token := ts.nodes.size + 1 + i }, id)) ∧
      (∀ i < ids.length, report.tokens.Below caller.token (ts.nodes.size + 1 + i)) ∧
      (report.state.finishes.map Prod.snd).Perm (List.range ids.length) ∧ report.state.abandons = [] := by
  intro report
  have hdriven := driven_planned plan caller seed ids bound now ts hids hbound hcaller halive
  change Job.Serves.Driven _ _ _ _ _ _ _ _ _ report at hdriven
  clear_value report
  cases hdriven with
  | @failed t i m u f job s unit fault ends first waiting busy due inv =>
    have hi : i < ids.length := by
      rw [← length_unitsOf caller ids ts]
      exact (List.getElem?_eq_some_iff.mp unit).1
    rw [hplan i hi] at fault
    cases fault
  | @complete t list s length entities inv =>
    rw [length_unitsOf] at length entities inv
    have honce := inv.once
    have hlist := Job.eq_map_range length entities hplan
    have hstarts : s.starts.map Prod.snd =
        (ids.mapIdx fun i id => ({ caller with token := ts.nodes.size + 1 + i }, id)) := by
      rw [inv.starts, List.take_of_length_le (Nat.le_of_eq (length_unitsOf caller ids ts)), List.map_map]
      refine List.ext_getElem? fun i => ?_
      rw [List.getElem?_map, getElem?_unitsOf, List.getElem?_mapIdx, Option.map_map]
      rfl
    refine ⟨by rw [hlist], hstarts, ?_, ?_, inv.abandons⟩
    · intro i hi
      have hunit : (unitsOf caller ids ts)[i]? = some ⟨i, ids[i], { caller with token := ts.nodes.size + 1 + i }⟩ := by
        rw [getElem?_unitsOf, List.getElem?_eq_getElem hi]
        rfl
      exact below_tokensOf.trans (below_unitsOf caller ids ts (List.mem_of_getElem? hunit))
    · simpa using honce

/-- Three fetches for two permits, of which the first takes longest. -/
theorem resolve_all_succeed_reversed :
    (resolve (planned fun i => ⟨5 - 2 * i, .returned (.ok (10 + i))⟩) (.opened 1 "students" "GET_STUDENT_COURSES" 0 30 none)
      "1" ["7", "8", "7"] 2 none 0 Tokens.fresh Log.empty).ending = .returned (.ok [10, 11, 12]) := by
  have h := resolve_all_succeed (fun i => ⟨5 - 2 * i, .returned (.ok (10 + i))⟩)
    (.opened 1 "students" "GET_STUDENT_COURSES" 0 30 none) "1" ["7", "8", "7"] 2 0 Tokens.fresh (fun i => 10 + i)
    (by decide) (by decide) (fun _ _ => rfl) (by decide) (by decide)
  exact h.1

/-- A fan-out gives nothing but the fault of the unit that fails first, at the instant at which that unit ends. All its tokens
are cancelled then and no others. What was to end by then has ended; what still ran was given up, and nothing else started.
A bound beyond the most permits breaks it down before anything starts. -/
theorem resolve_first_failure (hwf : ts.WellFormed) (hcaller : caller.token < ts.nodes.size)
    (halive : ts.isCancelled caller.token = false) (hfail : ∃ i < ids.length, ∃ f, Fails (plan i).ending f) :
    let T := Timetable.ofPlan plan (capacity bound ids.length) now
    let report := resolve (planned plan) caller seed ids bound none now ts Log.empty
    (maxPermits < bound → report = ⟨.panicked (some tooManyPermits), now, ts, [], Log.empty⟩) ∧
      (bound ≤ maxPermits → ∃ i id f, FailsFirst plan T ids.length i f ∧ ids[i]? = some id ∧
        report.ending = .returned (.error (.aggregate seed id f)) ∧ report.now = T.finish i ∧
        (∀ u ∈ unitsOf caller ids ts, report.tokens.isCancelled u.context.token = true) ∧
        (∀ s < ts.nodes.size, report.tokens.isCancelled s = ts.isCancelled s) ∧
        report.state.starts = ((unitsOf caller ids ts).filter fun u => T.start u.index ≤ T.finish i).map
          (fun u => (T.start u.index, u.context, u.id)) ∧
        report.state.finishes.Perm
          (((List.range ids.length).filter fun j => T.finish j ≤ T.finish i).map fun j => (T.finish j, j)) ∧
        report.state.abandons.Perm
          (((List.range ids.length).filter fun j => T.start j ≤ T.finish i ∧ T.finish i < T.finish j).map
            fun j => (T.finish i, j))) := by
  intro T report
  obtain ⟨j, hj, g, hg⟩ := hfail
  have hids : ids ≠ [] := List.ne_nil_of_length_pos (Nat.zero_lt_of_lt hj)
  have hc : 0 < T.capacity := capacity_pos (List.length_pos_iff.mpr hids)
  constructor
  · intro hbound
    simp only [report, resolve, hids, if_false, hbound, if_true]
  intro hbound
  have hdriven := driven_planned plan caller seed ids bound now ts hids hbound hcaller halive
  change Job.Serves.Driven _ _ T.capacity _ (Follows T _) (fun t i => T.finish i = t) _ _ _ report at hdriven
  clear_value report
  cases hdriven with
  | @complete t list s length entities inv =>
    -- No entity stands for a unit that fails.
    have hnone := entities j (by rwa [length_unitsOf])
    rw [hg.entity?, List.getElem?_eq_none_iff, length, length_unitsOf] at hnone
    exact absurd hj (Nat.not_lt.mpr hnone)
  | @failed t i m u f job s unit fault ends first waiting busy due inv =>
    obtain rfl : T.finish i = t := ends
    have hid : ids[i]? = some u.id := by
      rw [getElem?_unitsOf] at unit
      obtain ⟨id, hid, rfl⟩ := Option.map_eq_some_iff.mp unit
      exact hid
    have hfirst : FailsFirst plan T (unitsOf caller ids ts).length i f :=
      inv.failsFirst hc busy due index_unitsOf rfl waiting (List.getElem?_eq_some_iff.mp unit).1 (fails_iff.mpr fault) first
    rw [length_unitsOf] at hfirst
    have hfinishes := inv.finishes_perm hc busy due
    have habandons := inv.abandons_perm hc busy due (T.finish i)
    rw [length_unitsOf] at hfinishes habandons
    refine ⟨i, u.id, f, hfirst, hid, rfl, rfl, ?_, ?_, ?_, ?_, ?_⟩
    · intro u hu
      exact isCancelled_cancel_job hwf hcaller hu
    · intro s hs
      exact isCancelled_cancel_job_of_lt hwf hcaller hs
    · rw [tearDown_planned]
      exact inv.starts_eq hc busy due index_unitsOf
    · rw [tearDown_planned]
      exact hfinishes
    · rw [tearDown_planned, inv.abandons, List.nil_append]
      exact habandons

/-- The third fetch waits for a permit and is still the first that fails. -/
theorem resolve_first_failure_late :
    (resolve (planned fun i => ⟨[5, 1, 2, 0][i]!, if i < 2 then .returned (.ok i) else .panicked (some "boom")⟩)
      (.opened 1 "students" "GET_STUDENT_COURSES" 0 30 none) "1" ["7", "8", "9", "7"] 2 none 0 Tokens.fresh
      Log.empty).ending = .returned (.error (.aggregate "1" "9" (.internal "fetch panicked: boom"))) := by
  have h := resolve_first_failure
    (fun i => ⟨[5, 1, 2, 0][i]!, if i < 2 then .returned (.ok i) else .panicked (some "boom")⟩)
    (.opened 1 "students" "GET_STUDENT_COURSES" 0 30 none) "1" ["7", "8", "9", "7"] 2 0 Tokens.fresh
    Tokens.wellFormed_fresh (by decide) (by decide) ⟨2, by decide, _, .panic (some "boom")⟩
  obtain ⟨i, id, f, hfirst, hid, hending, -⟩ := h.2 (by decide)
  have hlt : i < 4 := hfirst.lt
  obtain rfl | rfl | rfl | rfl : i = 0 ∨ i = 1 ∨ i = 2 ∨ i = 3 := by omega
  · have hfails : Fails (.returned (.ok 0)) f := hfirst.fails
    cases hfails
  · have hfails : Fails (.returned (.ok 1)) f := hfirst.fails
    cases hfails
  · have hfails : Fails (.panicked (some "boom") : Ending Nat) f := hfirst.fails
    obtain rfl := Option.some.inj hid
    cases hfails
    exact hending
  · have hlate := hfirst.first 2 (by decide) _ (.panic (some "boom"))
    exact absurd hlate (by decide)

end Resolve

end Campus.FanOut
