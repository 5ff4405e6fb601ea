import Campus.Proofs.FanOut.Resolve

/-! # Jobs whose books are in order

What holds of a job from its first instant to its last whatever its fetches do and whatever else happens to their state meanwhile. Each
unit that is left has a place of its own, as many remain as are left, and permits are neither lost nor made. So no outcome is put beyond
the places, a job that goes on always has a unit whose end it can wait for, and no place is empty when it is complete.
-/
namespace Campus.FanOut

namespace Job

variable {σ ρ ε : Type} {w : Worker σ ρ ε} {now : Instant} {job job' : Job ρ ε} {ts ts' : Tokens} {s s' : σ}

/-! ## Permits -/

/-- The permits of a bounded job: those that are free, and one for each unit that runs. -/
def permits (job : Job ρ ε) : Option Nat := job.free.map (· + job.running.length)

theorem permits_startWaiting (w : Worker σ ρ ε) (now : Instant) (waiting : List Waiting) (free : Option Nat) (s : σ) :
    (startWaiting w now waiting free s).1.free.map (· + (startWaiting w now waiting free s).1.running.length) = free := by
  induction waiting generalizing free s with
  | nil => simp [startWaiting]
  | cons u rest ih =>
    by_cases hfree : free = some 0
    · simp [startWaiting, hfree]
    · rcases hstart : w.start now u.context u.id s with ⟨ending | ⟨due, fetch⟩, s'⟩
      · simp only [startWaiting, hfree, if_false, hstart]
        exact ih free s'
      · simp only [startWaiting, hfree, if_false, hstart, List.length_cons]
        have hrest := congrArg (Option.map (· + 1)) (ih (free.map (· - 1)) s')
        rw [Option.map_map, Option.map_map] at hrest
        refine hrest.trans ?_
        cases free with
        | none => rfl
        | some f =>
          have hpos : f ≠ 0 := fun hzero => hfree (congrArg some hzero)
          exact congrArg some (Nat.sub_one_add_one hpos)

theorem permits_runUnits (w : Worker σ ρ ε) (now : Instant) (job : Job ρ ε) (s : σ) :
    (runUnits w now job s).1.2.permits = job.permits := by
  have hlength := length_finishDue w now job.running s
  rcases hf : finishDue w now job.running s with ⟨⟨ended, running⟩, s'⟩
  have hkept := permits_startWaiting w now job.waiting (job.free.map (· + ended.length)) s'
  rcases hs : startWaiting w now job.waiting (job.free.map (· + ended.length)) s' with ⟨r, s''⟩
  rw [hs] at hkept
  simp only [hf] at hlength
  simp only [runUnits, hf, hs, permits, List.length_append]
  have hall := congrArg (Option.map (· + running.length)) hkept
  rw [Option.map_map, Option.map_map] at hall
  refine Eq.trans ?_ (hall.trans ?_)
  all_goals
    refine Option.map_congr fun f _ => ?_
    simp only [Function.comp_apply]
    omega

/-! ## Places -/

def openPlaces (job : Job ρ ε) : List Nat := job.left.map Prod.fst

/-- The books of a job are in order: each unit that is left has a place of its own and is counted, the other places are filled, and
there are permits. -/
structure Books (job : Job ρ ε) : Prop where
  inRange : ∀ i ∈ job.openPlaces, i < job.slots.length
  apart : job.openPlaces.Nodup
  filled : ∀ i, job.slots[i]? = some none → i ∈ job.openPlaces
  remaining : job.remaining = job.left.length
  permits : job.permits ≠ some 0

/-- Whatever the units give that end together, each finds a place of its own. -/
def FindsPlaces (job : Job ρ ε) : Prop :=
  ∀ {σ : Type} (w : Worker σ ρ ε) (now : Instant) (s : σ),
    (∀ o ∈ (runUnits w now job s).1.1, o.index < job.slots.length) ∧ ((runUnits w now job s).1.1.map Outcome.index).Nodup

/-- The books of a new job are in order, even where a bound is beyond the most permits. -/
theorem books_create (caller : Context) (seed : String) (ids : List String) (bound : Nat) (ts : Tokens) :
    (create caller seed ids bound ts : Job ρ ε × Tokens).1.Books := by
  have hplaces : (create caller seed ids bound ts : Job ρ ε × Tokens).1.openPlaces = List.range ids.length := by
    simp only [openPlaces, create_eq, left, List.map_nil, List.nil_append, List.map_map]
    refine List.ext_getElem (by simp) fun i hi _ => ?_
    rw [List.length_map] at hi
    simpa [Waiting.key] using index_unitsOf (List.getElem?_eq_getElem hi)
  constructor
  · rw [hplaces]
    simp [create_eq]
  · rw [hplaces]
    exact List.nodup_range
  · intro i hi
    have hlt := (List.getElem?_eq_some_iff.mp hi).1
    rw [hplaces]
    simpa [create_eq] using hlt
  · simp [create_eq, left]
  · by_cases hbound : bound = 0 <;> simp [Job.permits, create_eq, hbound]

/-! ## One instant of a job -/

section RunUnits

variable (w : Worker σ ρ ε) (now : Instant) (job : Job ρ ε) (s : σ)

theorem index_runUnits : ((runUnits w now job s).1.1.map Outcome.index).Sublist job.openPlaces := by
  have hkeys := (sublist_runUnits w now job s).map Prod.fst
  rwa [List.map_map] at hkeys

theorem perm_places :
    ((runUnits w now job s).1.1.map Outcome.index ++ (runUnits w now job s).1.2.openPlaces).Perm job.openPlaces := by
  have hkeys := (perm_runUnits w now job s).map Prod.fst
  rwa [List.map_append, List.map_map] at hkeys

theorem free_runUnits (h : (runUnits w now job s).1.2.waiting ≠ []) : (runUnits w now job s).1.2.free = some 0 :=
  free_of_waiting w now job.waiting _ _ h

theorem outcomes_runUnits (h : ∃ u ∈ job.running, u.due ≤ now) : (runUnits w now job s).1.1 ≠ [] := by
  obtain ⟨u, hu, hdue⟩ := h
  have hended : u.key ∈ (finishDue w now job.running s).1.1.map Outcome.key := by
    rw [key_finishDue]
    exact List.mem_map_of_mem (List.mem_filter.mpr ⟨hu, decide_eq_true hdue⟩)
  have hmem : u.key ∈ (runUnits w now job s).1.1.map Outcome.key := by
    unfold runUnits
    rw [List.map_append]
    exact List.mem_append_left _ hended
  intro hnone
  rw [hnone] at hmem
  cases hmem

end RunUnits

theorem Books.findsPlaces (h : job.Books) : job.FindsPlaces := by
  intro σ w now s
  have hsub := index_runUnits w now job s
  exact ⟨fun o ho => h.inRange _ (hsub.subset (List.mem_map_of_mem ho)), h.apart.sublist hsub⟩

theorem Books.length_left_le (h : job.Books) : job.left.length ≤ job.slots.length := by
  have hplaces : job.openPlaces ⊆ List.range job.slots.length := fun i hi => List.mem_range.mpr (h.inRange i hi)
  have hlength := (List.subperm_of_subset h.apart hplaces).length_le
  rwa [List.length_range, openPlaces, List.length_map] at hlength

theorem length_left_pos (h : job.running ≠ []) : 0 < job.left.length := by
  have hrunning := List.length_pos_iff.mpr h
  simp only [left, List.length_append, List.length_map]
  omega

/-- While a unit runs there is an instant at which the next one ends. -/
theorem nextDue?_of_running (h : job.running ≠ []) : ∃ due, job.nextDue? = some due ∧ ∃ u ∈ job.running, u.due = due := by
  cases hmin : job.nextDue? with
  | none => exact absurd (List.map_eq_nil_iff.mp (List.min?_eq_none_iff.mp hmin)) h
  | some due =>
    obtain ⟨u, hu, hdue⟩ := List.mem_map.mp (List.min?_eq_some_iff.mp hmin).1
    exact ⟨due, rfl, u, hu, hdue⟩

theorem ok_of_gather {outcomes : List (Outcome ε)} {remaining : Nat} {slots : List (Option ε)} {p : Nat × List (Option ε)}
    (h : gather (outcomes.map .ok) remaining slots = .ok p) (hcount : outcomes.length ≤ remaining) :
    ∀ o ∈ outcomes, ∃ e, o.result = .ok e := by
  obtain hok | ⟨before, o, after, f, rfl, hbefore, ho⟩ := all_ok_or_first_error outcomes
  · exact hok
  · rw [List.length_append, List.length_cons] at hcount
    rw [gather_error before after o slots hbefore ho (by omega)] at h
    cases h

theorem count_runUnits (w : Worker σ ρ ε) (now : Instant) (job : Job ρ ε) (s : σ) :
    (runUnits w now job s).1.1.length + (runUnits w now job s).1.2.left.length = job.left.length := by
  have hkeys := (perm_runUnits w now job s).length_eq
  rwa [List.length_append, List.length_map] at hkeys

/-- What is known of a job when its tasks have been joined without a fault: as many units remain as are left, and a place that is empty
was empty before, and no outcome was put there. -/
structure Joined (w : Worker σ ρ ε) (now : Instant) (job : Job ρ ε) (s : σ) (remaining : Nat) (slots : List (Option ε)) : Prop where
  remaining : remaining = (runUnits w now job s).1.2.left.length
  length : slots.length = job.slots.length
  filled : ∀ i, slots[i]? = some none → i ∈ (runUnits w now job s).1.2.openPlaces

theorem Books.gather (h : job.Books) {remaining : Nat} {slots : List (Option ε)}
    (hgather : Job.gather ((runUnits w now job s).1.1.map .ok) job.remaining job.slots = .ok (remaining, slots)) :
    Joined w now job s remaining slots := by
  obtain ⟨hrange, hapart⟩ := h.findsPlaces w now s
  have hperm := perm_places w now job s
  have hcount := count_runUnits w now job s
  rw [← h.remaining] at hcount
  obtain ⟨slots', hslots', hlength, hother, hplaced⟩ :=
    gather_ok _ job.remaining job.slots (ok_of_gather hgather (Nat.le.intro hcount)) (Nat.le.intro hcount)
  obtain ⟨rfl, rfl⟩ := Prod.mk.inj (Except.ok.inj (hgather.symm.trans hslots'))
  refine ⟨by rw [← hcount, Nat.add_sub_cancel_left], hlength, fun i hi => ?_⟩
  by_cases hout : i ∈ (runUnits w now job s).1.1.map Outcome.index
  · obtain ⟨o, ho, rfl⟩ := List.mem_map.mp hout
    obtain ⟨e, -, hslot⟩ := hplaced o ho (hrange o ho) hapart
    rw [hslot] at hi
    cases hi
  · have hbefore := hperm.mem_iff.mpr (h.filled i (hother i hout ▸ hi))
    exact (List.mem_append.mp hbefore).resolve_left hout

theorem Books.running (h : job.Books) (hleft : (runUnits w now job s).1.2.left ≠ []) : (runUnits w now job s).1.2.running ≠ [] := by
  intro hidle
  have hwaiting : (runUnits w now job s).1.2.waiting ≠ [] := fun hnone => hleft (by simp [left, hidle, hnone])
  refine h.permits ?_
  rw [← permits_runUnits w now job s, Job.permits, free_runUnits w now job s hwaiting, hidle]
  rfl

structure GoesOn (now : Instant) (job job' : Job ρ ε) : Prop where
  books : job'.Books
  seed : job'.seed = job.seed
  length : job'.slots.length = job.slots.length
  running : job'.running ≠ []
  le : job'.left.length ≤ job.left.length
  shrinks : (∃ u ∈ job.running, u.due ≤ now) → job'.left.length < job.left.length

/-- How an instant of a job may end it: with the entities of all its units when none is left, or with the fault of one of them. -/
inductive EndsWith (job : Job ρ ε) : Except Fault (List ε) → List (Running ρ) → Prop where
  | entities {list : List ε} (length : list.length = job.slots.length) : EndsWith job (.ok list) []
  | fault (id : String) (f : Fault) (left : List (Running ρ)) : EndsWith job (.error (.aggregate job.seed id f)) left

/-- The books stay in order as long as a job goes on. -/
theorem Books.step (h : job.Books) (hstep : step w now job ts s = (.going job', ts', s')) : GoesOn now job job' ∧ ts' = ts := by
  have hjoins := joins_step w now job ts s
  rw [hstep] at hjoins
  have hperm := perm_places w now job s
  cases hjoins with
  | @going remaining slots hgather hleft =>
    obtain ⟨hremaining, hlength, hfilled⟩ := h.gather hgather
    refine ⟨⟨⟨fun i hi => ?_, ?_, hfilled, hremaining, ?_⟩, rfl, hlength, h.running hleft, ?_, fun hdue => ?_⟩, rfl⟩
    · show i < slots.length
      rw [hlength]
      exact h.inRange i (hperm.subset (List.mem_append_right _ hi))
    · exact (List.nodup_append.mp (hperm.nodup_iff.mpr h.apart)).2.1
    · exact fun hnone => h.permits ((permits_runUnits w now job s).symm.trans hnone)
    · exact Nat.le.intro ((Nat.add_comm _ _).trans (count_runUnits w now job s))
    · have hpos := List.length_pos_iff.mpr (outcomes_runUnits w now job s hdue)
      exact Nat.lt_of_lt_of_eq (Nat.lt_add_of_pos_left hpos) (count_runUnits w now job s)

/-- A job with its books in order is never over because a place is empty or a task has failed. -/
theorem Books.over {result : Except Fault (List ε)} {notices : List Notice} {left : List (Running ρ)} (h : job.Books)
    (hstep : Job.step w now job ts s = (.over result notices left, ts', s')) : EndsWith job result left := by
  have hjoins := joins_step w now job ts s
  rw [hstep] at hjoins
  cases hjoins with
  | failed hgather => exact .fault _ _ _
  | @ended remaining slots hgather hover =>
    obtain ⟨hremaining, hlength, hfilled⟩ := h.gather hgather
    have hleft : (runUnits w now job s).1.2.left = [] :=
      hover.elim (fun hzero => List.length_eq_zero_iff.mp (hremaining.symm.trans hzero)) id
    have hnone : none ∉ slots := by
      intro hmem
      obtain ⟨i, hi, hempty⟩ := List.getElem_of_mem hmem
      have hopen := hfilled i (hempty ▸ List.getElem?_eq_getElem hi)
      rw [openPlaces, hleft] at hopen
      cases hopen
    obtain ⟨list, hcollect, rfl⟩ := collect_of_filled hnone
    have hidle : (runUnits w now job s).1.2.running = [] := by simpa using (List.append_eq_nil_iff.mp hleft).1
    rw [hcollect, hidle]
    exact .entities (by rw [← hlength, List.length_map])

/-! ## The exits of a fan-out -/

/-- A job may be taken on often enough: once for each unit that is left, and once more as long as none of them is due. -/
def Patient (fuel : Nat) (now : Instant) (job : Job ρ ε) : Prop :=
  (∃ u ∈ job.running, u.due ≤ now) ∧ job.left.length < fuel ∨ job.left.length + 1 < fuel

theorem Patient.next {fuel : Nat} (h : Patient (fuel + 1) now job) (hle : job'.left.length ≤ job.left.length)
    (hshrinks : (∃ u ∈ job.running, u.due ≤ now) → job'.left.length < job.left.length) {due : Instant}
    (hdue : ∃ u ∈ job'.running, u.due ≤ due) : 0 < fuel ∧ Patient fuel due job' := by
  have hlt : job'.left.length < fuel := by
    rcases h with ⟨hended, hfuel⟩ | hfuel
    · exact Nat.lt_of_lt_of_le (hshrinks hended) (Nat.le_of_lt_succ hfuel)
    · exact Nat.lt_of_le_of_lt hle (Nat.lt_of_succ_lt_succ hfuel)
  exact ⟨Nat.zero_lt_of_lt hlt, .inl ⟨hdue, hlt⟩⟩

theorem drive_of_cancelled (w : Worker σ ρ ε) {caller : Context} {ts : Tokens} (h : ts.isCancelled caller.token = true)
    (stop : Option Instant) {fuel : Nat} (hfuel : 0 < fuel) (now : Instant) (job : Job ρ ε) (s : σ) :
    drive w caller stop fuel now job ts s = giveUp w now job ts s := by
  cases fuel with
  | zero => cases hfuel
  | succ fuel => simp [drive, h]

/-- With what a fan-out may end for its caller once it is under way. -/
inductive Exit (seed : String) (count : Nat) : Ending (List ε) → Prop where
  | entities {list : List ε} (length : list.length = count) : Exit seed count (.returned (.ok list))
  | fault (id : String) (f : Fault) : Exit seed count (.returned (.error (.aggregate seed id f)))
  | cancelled : Exit seed count (.returned (.error .cancelled))

theorem Books.drive (h : job.Books) {caller : Context} (stop : Option Instant) {fuel : Nat} (hfuel : Patient fuel now job)
    (hcancel : (ts.cancel caller.token).isCancelled caller.token = true) (s : σ) :
    Exit job.seed job.slots.length (Job.drive w caller stop fuel now job ts s).ending := by
  induction fuel generalizing stop now job s with
  | zero => rcases hfuel with ⟨-, hfuel⟩ | hfuel <;> cases hfuel
  | succ fuel ih =>
    by_cases hdead : ts.isCancelled caller.token = true
    · rw [drive_of_cancelled w hdead stop (Nat.succ_pos fuel)]
      exact .cancelled
    rw [Job.drive, if_neg hdead]
    rcases hstep : Job.step w now job ts s with ⟨job' | ⟨result, notices, left⟩, ts', s'⟩
    · obtain ⟨hgoes, rfl⟩ := h.step hstep
      obtain ⟨due, hdue, u, hu, hnow⟩ := nextDue?_of_running hgoes.running
      obtain ⟨hpos, hpatient⟩ := hfuel.next hgoes.le hgoes.shrinks ⟨u, hu, Nat.le_of_eq hnow⟩
      have hnext := fun stop => ih hgoes.books stop hpatient s'
      rw [hgoes.seed, hgoes.length] at hnext
      dsimp only
      rw [hdue]
      cases stop with
      | none => exact hnext none
      | some c =>
        by_cases hstop : c ≤ due
        · have hgiven := drive_of_cancelled w hcancel none hpos c job' s'
          simp only [hstop, if_true, hgiven]
          exact .cancelled
        · simp only [hstop, if_false]
          exact hnext (some c)
    · cases h.over hstep with
      | entities length => exact .entities length
      | fault id f left => exact .fault id f

end Job

/-- Whatever its fetches come to and whenever its caller is cancelled, a fan-out gives as many entities as it has ids, the fault of one
of them or the plain fault, and breaks down only where its bound is beyond the most permits. It always ends, and never because a place
is empty or a task has failed. -/
theorem resolve_exits (w : Worker σ ρ ε) (caller : Context) (seed : String) (ids : List String) (bound : Nat) (stop : Option Instant)
    (now : Instant) {ts : Tokens} (s : σ) (hwf : ts.WellFormed) (hcaller : caller.token < ts.nodes.size) :
    let report := resolve w caller seed ids bound stop now ts s
    if ids ≠ [] ∧ maxPermits < bound then report.ending = .panicked (some tooManyPermits)
    else Job.Exit seed ids.length report.ending := by
  intro report
  by_cases hids : ids = []
  · subst hids
    exact .entities rfl
  by_cases hbound : maxPermits < bound
  · simp [report, resolve, hids, hbound]
  let job : Job ρ ε := (Job.create caller seed ids bound ts).1
  have hpatient : Job.Patient (ids.length + 2) now job := .inr (by simp [job, create_eq, Job.left])
  have hexit : Job.Exit seed job.slots.length (Job.drive w caller stop (ids.length + 2) now job (tokensOf caller ids ts) s).ending :=
    (Job.books_create caller seed ids bound ts).drive stop hpatient (isCancelled_cancel_caller hwf hcaller) s
  rw [show job.slots.length = ids.length from List.length_map _] at hexit
  rw [if_neg fun h => hbound h.2]
  simp only [report, resolve, hids, if_false, hbound]
  exact hexit

end Campus.FanOut
