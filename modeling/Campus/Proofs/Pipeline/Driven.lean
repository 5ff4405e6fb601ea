import Mathlib.Data.List.Nodup
import Campus.Proofs.Pipeline.Refinement

/-! # Driven runs

A run is driven by commands: calls are started, dropped, joined or made and waited for, and time jumps. What a command does comes
down to events, as long as no two calls in flight share a handle: the flights that are due end one after the other, and in
between time passes. So a driven run stands as its gate does, too.
-/
namespace Campus.Pipeline

namespace Run

variable {α : Type} [Summarize α] {r r' r'' : Run α} {f g : Flight α} {handle : String}

/-! ## From run to run -/

/-- No two calls in flight share a handle. -/
def Distinct (r : Run α) : Prop := (r.flights.map Flight.handle).Nodup

def Reaches (r r' : Run α) : Prop := ∃ events, r' = r.after events

theorem reaches_refl (r : Run α) : r.Reaches r := ⟨[], rfl⟩

theorem reaches_step (r : Run α) (e : Event α) : r.Reaches (r.step e) := ⟨[e], rfl⟩

theorem Reaches.trans (h : r.Reaches r') (h' : r'.Reaches r'') : r.Reaches r'' := by
  obtain ⟨events, rfl⟩ := h
  obtain ⟨events', rfl⟩ := h'
  exact ⟨events ++ events', by simp [after]⟩

omit [Summarize α] in
theorem Distinct.eq_of_handle (h : r.Distinct) (hf : f ∈ r.flights) (hg : g ∈ r.flights) (heq : f.handle = g.handle) :
    f = g := List.inj_on_of_nodup_map h hf hg heq

theorem distinct_finish (h : r.Distinct) (f : Flight α) (ending : Ending α) : (r.finish f ending).Distinct :=
  h.sublist (List.filter_sublist.map _)

theorem distinct_enterCall (h : r.Distinct) (hfree : ∀ f ∈ r.flights, f.handle ≠ handle) (call : CallInfo)
    (behaviour : Behaviour α) : (r.enterCall handle call behaviour).Distinct := by
  unfold enterCall
  split
  · exact h
  · rename_i frames stage hstart
    have hentered : Distinct { r with
        stage := stage.write .invoked
        flights := r.flights ++ [⟨handle, frames, r.now + behaviour.delay, behaviour.ending⟩] } := by
      simpa [Distinct, List.nodup_append] using ⟨h, hfree⟩
    dsimp only
    split
    · exact distinct_finish hentered _ _
    · exact hentered

theorem distinct_step (h : r.Distinct) (e : Event α) : (r.step e).Distinct := by
  cases e with
  | arrive handle call behaviour =>
    by_cases hused : (r.flights.any fun f => f.handle == handle) = true
    · simpa [step, hused] using h
    · simpa [step, hused] using distinct_enterCall h (by simpa using hused) call behaviour
  | finish handle ending =>
    simp only [step]
    split
    · exact distinct_finish h _ _
    · exact h
  | wait span => exact h

theorem Reaches.distinct (hreaches : r.Reaches r') (h : r.Distinct) : r'.Distinct := by
  obtain ⟨events, rfl⟩ := hreaches
  induction events generalizing r with
  | nil => exact h
  | cons e events ih => exact ih (distinct_step h e)

/-! ## One thing at a time -/

theorem reaches_enterCall (hfree : ∀ f ∈ r.flights, f.handle ≠ handle) (call : CallInfo) (behaviour : Behaviour α) :
    r.Reaches (r.enterCall handle call behaviour) := by
  have hunused : (r.flights.any fun f => f.handle == handle) = false := by simpa using hfree
  have hstep : r.step (.arrive handle call behaviour) = r.enterCall handle call behaviour := by
    simp [step, hunused]
  rw [← hstep]
  exact reaches_step r _

theorem reaches_wait (r : Run α) (t : Instant) : r.Reaches { r with now := max r.now t } := by
  have hstep : r.step (.wait (t - r.now)) = { r with now := max r.now t } := by
    have hnow : r.now + (t - r.now) = max r.now t := by rw [Nat.add_comm, Nat.sub_add_eq_max, Nat.max_comm]
    simp only [step, hnow]
  rw [← hstep]
  exact reaches_step r _

/-- To end a flight takes its handle and its frames only. -/
theorem reaches_finish (h : r.Distinct) (hg : g ∈ r.flights) (hhandle : f.handle = g.handle)
    (hframes : f.frames = g.frames) (ending : Ending α) : r.Reaches (r.finish f ending) := by
  have hfound : (r.flights.find? fun g => g.handle == f.handle) = some g := by
    cases hfind : r.flights.find? fun g => g.handle == f.handle with
    | none => exact absurd hhandle.symm (by simpa using List.find?_eq_none.mp hfind g hg)
    | some g' =>
      have hsame : g'.handle = g.handle := by simpa [hhandle] using List.find?_some hfind
      rw [h.eq_of_handle (List.mem_of_find?_eq_some hfind) hg hsame]
  have hstep : r.step (.finish f.handle ending) = r.finish f ending := by
    rw [step, hfound]
    simp [finish, hhandle, hframes]
  rw [← hstep]
  exact reaches_step r _

/-! ## Flights that are due -/

def endAll (r : Run α) (fs : List (Flight α)) : Run α := fs.foldl (fun r f => r.finish f f.ending) r

theorem reaches_endAll {fs : List (Flight α)} (h : r.Distinct) (hdistinct : (fs.map Flight.handle).Nodup)
    (hflying : ∀ f ∈ fs, ∃ g ∈ r.flights, f.handle = g.handle ∧ f.frames = g.frames) : r.Reaches (r.endAll fs) := by
  induction fs generalizing r with
  | nil => exact reaches_refl r
  | cons f fs ih =>
    obtain ⟨hnew, hrest⟩ := List.nodup_cons.mp hdistinct
    obtain ⟨g, hg, hhandle, hframes⟩ := hflying f List.mem_cons_self
    refine (reaches_finish h hg hhandle hframes f.ending).trans (ih (distinct_finish h f f.ending) hrest ?_)
    intro f' hf'
    obtain ⟨g', hg', hhandle', hframes'⟩ := hflying f' (List.mem_cons_of_mem f hf')
    have hother : g'.handle ≠ f.handle := by
      rw [← hhandle']
      exact fun heq => hnew (heq ▸ List.mem_map_of_mem hf')
    exact ⟨g', List.mem_filter.mpr ⟨hg', by simpa using hother⟩, hhandle', hframes'⟩

theorem endAll_flights (r : Run α) (fs l : List (Flight α)) :
    endAll { r with flights := l } fs =
      { r.endAll fs with flights := l.filter fun g => fs.all fun f => g.handle != f.handle } := by
  induction fs generalizing r l with
  | nil => simp [endAll]
  | cons f fs ih =>
    have hfirst : finish { r with flights := l } f f.ending =
        { r.finish f f.ending with flights := l.filter fun g => g.handle != f.handle } := rfl
    have hrest := ih (r.finish f f.ending) (l.filter fun g => g.handle != f.handle)
    rw [← hfirst] at hrest
    simpa [endAll, List.filter_filter, Bool.and_comm] using hrest

omit [Summarize α] in
theorem dueFlights_perm (r : Run α) : r.dueFlights.Perm (r.flights.filter fun f => f.due ≤ r.now) :=
  List.mergeSort_perm _ _

omit [Summarize α] in
theorem mem_dueFlights : f ∈ r.dueFlights ↔ f ∈ r.flights ∧ f.due ≤ r.now := by
  rw [r.dueFlights_perm.mem_iff]
  simp

omit [Summarize α] in
theorem Distinct.dueFlights (h : r.Distinct) : (r.dueFlights.map Flight.handle).Nodup :=
  ((r.dueFlights_perm.map _).nodup_iff).mpr (h.sublist (List.filter_sublist.map _))

theorem reaches_settle (h : r.Distinct) : r.Reaches r.settle :=
  reaches_endAll h h.dueFlights fun f hf => ⟨f, (mem_dueFlights.mp hf).1, rfl, rfl⟩

theorem mem_flights_settle (h : r.Distinct) : f ∈ r.settle.flights ↔ f ∈ r.flights ∧ r.now < f.due := by
  have hflights : r.settle.flights = r.flights.filter fun g => r.dueFlights.all fun f => g.handle != f.handle := by
    have hended := endAll_flights r r.dueFlights r.flights
    exact congrArg flights hended
  rw [hflights, List.mem_filter, List.all_eq_true]
  refine and_congr_right fun hf => ⟨fun hleft => ?_, fun hdue g hg => ?_⟩
  · by_contra hdue
    simpa using hleft f (mem_dueFlights.mpr ⟨hf, Nat.not_lt.mp hdue⟩)
  · obtain ⟨hmem, hdue'⟩ := mem_dueFlights.mp hg
    rw [bne_iff_ne]
    intro heq
    obtain rfl := h.eq_of_handle hf hmem heq
    exact Nat.lt_irrefl _ (Nat.lt_of_lt_of_le hdue hdue')

theorem now_settle (r : Run α) : r.settle.now = r.now := by
  have hended : ∀ (fs : List (Flight α)) (r : Run α), (r.endAll fs).now = r.now := by
    intro fs
    induction fs with
    | nil => exact fun r => rfl
    | cons f fs ih => exact fun r => ih (r.finish f f.ending)
  exact hended r.dueFlights r

/-! ## What commands do -/

theorem reaches_start (h : r.Distinct) (hfree : ∀ f ∈ r.flights, f.handle ≠ handle) (call : CallInfo)
    (behaviour : Behaviour α) : r.Reaches (r.start handle call behaviour) :=
  (reaches_settle h).trans (reaches_enterCall (fun f hf => hfree f ((mem_flights_settle h).mp hf).1) call behaviour)

theorem reaches_jump (h : r.Distinct) (t : Instant) : r.Reaches (r.jump t) :=
  (reaches_wait r t).trans (reaches_settle h)

theorem reaches_passTo (h : r.Distinct) (limit : Instant) (fuel : Nat) : r.Reaches (r.passTo limit fuel) := by
  induction fuel generalizing r with
  | zero => exact reaches_refl r
  | succ fuel ih =>
    simp only [passTo]
    split
    · exact reaches_refl r
    · rename_i t ht
      split
      · have hjump := reaches_jump h t
        exact hjump.trans (ih (hjump.distinct h))
      · exact reaches_refl r

theorem reaches_join (h : r.Distinct) (handle : String) : r.Reaches (r.join handle) := by
  unfold join
  split
  · rename_i f hf
    have hpass := reaches_passTo h f.due r.flights.length
    exact hpass.trans (reaches_jump (hpass.distinct h) f.due)
  · exact reaches_refl r

/-- A flight stays in flight while the time that passes does not come to its end. -/
theorem mem_flights_passTo (h : r.Distinct) {limit : Instant} (hf : f ∈ r.flights) (hdue : r.now < f.due)
    (hlimit : limit ≤ f.due) (fuel : Nat) : f ∈ (r.passTo limit fuel).flights := by
  induction fuel generalizing r with
  | zero => exact hf
  | succ fuel ih =>
    simp only [passTo]
    split
    · exact hf
    · rename_i t ht
      split
      · rename_i hbefore
        have hlater : max r.now t < f.due := Nat.max_lt.mpr ⟨hdue, Nat.lt_of_lt_of_le hbefore hlimit⟩
        apply ih ((reaches_jump h t).distinct h)
        · exact (mem_flights_settle (r := { r with now := max r.now t }) h).mpr ⟨hf, hlater⟩
        · rw [jump, now_settle]
          exact hlater
      · exact hf

/-- A call that is in flight when it has entered takes time. -/
theorem now_lt_due_of_entered (hfree : ∀ f ∈ r.flights, f.handle ≠ handle) {call : CallInfo}
    {behaviour : Behaviour α} (hf : f ∈ (r.enterCall handle call behaviour).flights) (hhandle : f.handle = handle) :
    (r.enterCall handle call behaviour).now < f.due := by
  unfold enterCall at hf ⊢
  split at hf
  · exact absurd hhandle (hfree f hf)
  · dsimp only at hf ⊢
    by_cases hdelay : behaviour.delay = 0
    · rw [if_pos hdelay] at hf
      simpa [hhandle] using (List.mem_filter.mp hf).2
    · rw [if_neg hdelay] at hf ⊢
      rcases List.mem_append.mp hf with hold | hnew
      · exact absurd hhandle (hfree f hold)
      · rw [List.mem_singleton.mp hnew]
        exact Nat.lt_add_of_pos_right (Nat.pos_of_ne_zero hdelay)

/-- A flight that is waited for, until it is due or its caller gives up before, ends behind those that are due before. -/
theorem reaches_finish_waited (h : r.Distinct) (hf : f ∈ r.flights) (hdue : r.now < f.due) {stop : Instant}
    (hstop : stop ≤ f.due) (fuel : Nat) (ending : Ending α) :
    r.Reaches (finish { r.passTo stop fuel with now := max (r.passTo stop fuel).now stop } f ending) := by
  have hpass := reaches_passTo h stop fuel
  have hwait := reaches_wait (r.passTo stop fuel) stop
  have hlast := reaches_finish (hwait.distinct (hpass.distinct h)) (mem_flights_passTo h hf hdue hstop fuel) rfl rfl ending
  exact hpass.trans (hwait.trans hlast)

theorem reaches_call (h : r.Distinct) (hfree : ∀ f ∈ r.flights, f.handle ≠ handle) (info : CallInfo)
    (behaviour : Behaviour α) (within : Option Span) : r.Reaches (r.call handle info behaviour within) := by
  have henter := reaches_enterCall hfree info behaviour
  simp only [call]
  split
  · exact henter
  · rename_i f hfound
    have hf := List.mem_of_find?_eq_some hfound
    have hdue := now_lt_due_of_entered hfree hf (by simpa using List.find?_some hfound)
    refine henter.trans (reaches_finish_waited (henter.distinct h) hf hdue ?_ _ _)
    split
    · exact Nat.le_refl _
    · rename_i hlate
      cases within with
      | none => simp at hlate
      | some span => exact Nat.le_of_lt (by simpa using hlate)

/-- The flights of a run, in some turn, with `d` for the one under its handle. -/
structure Replaces (d : Flight α) (r : Run α) (turn : List (Flight α)) : Prop where
  distinct : (turn.map Flight.handle).Nodup
  flying : ∀ f ∈ turn, ∃ g ∈ r.flights, f.handle = g.handle ∧ f.frames = g.frames
  mem : d ∈ turn
  others : ∀ p : Flight α → Bool, (∀ g, g.handle = d.handle → p g = false) → turn.filter p = r.flights.filter p

section Replaces

variable {d : Flight α}

omit [Summarize α] in
theorem replaces_in_place (h : r.Distinct) (hf : f ∈ r.flights) (hhandle : d.handle = f.handle)
    (hframes : d.frames = f.frames) :
    Replaces d r (r.flights.map fun g => if g.handle == d.handle then d else g) where
  distinct := by
    have hhandles : (r.flights.map fun g => if g.handle == d.handle then d else g).map Flight.handle =
        r.flights.map Flight.handle := by
      rw [List.map_map]
      refine List.map_congr_left fun g _ => ?_
      by_cases hg : g.handle = d.handle <;> simp [hg]
    rw [hhandles]
    exact h
  flying f' hf' := by
    obtain ⟨g, hg, rfl⟩ := List.mem_map.mp hf'
    by_cases heq : g.handle = d.handle
    · exact ⟨f, hf, by simp [heq, hhandle], by simp [heq, hframes]⟩
    · exact ⟨g, hg, by simp [heq], by simp [heq]⟩
  mem := List.mem_map.mpr ⟨f, hf, by simp [hhandle]⟩
  others p hp := by
    induction r.flights with
    | nil => rfl
    | cons g fs ih =>
      by_cases hg : g.handle = d.handle
      · simpa [hg, hp g hg, hp d rfl] using ih
      · simp only [List.map_cons, beq_iff_eq, hg, if_false, List.filter_cons] at ih ⊢
        rw [ih]

omit [Summarize α] in
theorem replaces_at_end (h : r.Distinct) (hf : f ∈ r.flights) (hhandle : d.handle = f.handle)
    (hframes : d.frames = f.frames) :
    Replaces d r ((r.flights.filter fun g => g.handle != d.handle) ++ [d]) where
  distinct := by
    have hothers : ((r.flights.filter fun g => g.handle != d.handle).map Flight.handle).Nodup :=
      h.sublist (List.filter_sublist.map _)
    rw [List.map_append, List.nodup_append]
    refine ⟨hothers, List.nodup_singleton _, fun name hname name' hname' => ?_⟩
    obtain ⟨g, hg, rfl⟩ := List.mem_map.mp hname
    rw [List.mem_singleton.mp hname']
    simpa using (List.mem_filter.mp hg).2
  flying f' hf' := by
    rcases List.mem_append.mp hf' with hother | hnew
    · exact ⟨f', (List.mem_filter.mp hother).1, rfl, rfl⟩
    · obtain rfl := List.mem_singleton.mp hnew
      exact ⟨f, hf, hhandle, hframes⟩
  mem := List.mem_append_right _ List.mem_cons_self
  others p hp := by
    have hnone : [d].filter p = [] := by simp [hp d rfl]
    rw [List.filter_append, hnone, List.append_nil, List.filter_filter]
    refine List.filter_congr fun g _ => ?_
    by_cases hg : g.handle = d.handle
    · simp [hp g hg]
    · simp [hg]

/-- A flight that is due ends, whatever it has taken the place of. -/
theorem reaches_settle_of_replaces {turn : List (Flight α)} (h : r.Distinct) (hdue : d.due ≤ r.now)
    (hturn : Replaces d r turn) : r.Reaches { r with flights := turn }.settle := by
  have hdistinct : Distinct { r with flights := turn } := hturn.distinct
  have hends : settle { r with flights := turn } = r.endAll { r with flights := turn }.dueFlights := by
    have hgone := endAll_flights r { r with flights := turn }.dueFlights turn
    have hsame := endAll_flights r { r with flights := turn }.dueFlights r.flights
    rw [hturn.others, ← hsame] at hgone
    · exact hgone
    · intro g hg
      rw [← Bool.not_eq_true, List.all_eq_true]
      intro hall
      have hother := hall d (mem_dueFlights.mpr ⟨hturn.mem, hdue⟩)
      simp [hg] at hother
  rw [hends]
  exact reaches_endAll h hdistinct.dueFlights fun f hf => hturn.flying f (mem_dueFlights.mp hf).1

end Replaces

theorem reaches_abort (h : r.Distinct) (handle : String) : r.Reaches (r.abort handle) := by
  unfold abort
  split
  · exact reaches_refl r
  · rename_i f hfound
    have hf := List.mem_of_find?_eq_some hfound
    obtain rfl : f.handle = handle := by simpa using List.find?_some hfound
    have hgone : ({ f with due := min f.due r.now, ending := .dropped } : Flight α).due ≤ r.now := Nat.min_le_right ..
    dsimp only
    by_cases hdue : f.due ≤ r.now
    · rw [if_pos hdue]
      exact reaches_settle_of_replaces h hgone (replaces_in_place h hf rfl rfl)
    · rw [if_neg hdue]
      exact reaches_settle_of_replaces h hgone (replaces_at_end h hf rfl rfl)

/-! ## Driven runs -/

/-- The runs that commands lead to. A call takes a handle that no call in flight has. -/
inductive Driven (start : Run α) : Run α → Prop
  | idle : Driven start start
  | start {r : Run α} {handle : String} (h : Driven start r) (hfree : ∀ f ∈ r.flights, f.handle ≠ handle) (call : CallInfo)
    (behaviour : Behaviour α) : Driven start (r.start handle call behaviour)
  | call {r : Run α} {handle : String} (h : Driven start r) (hfree : ∀ f ∈ r.flights, f.handle ≠ handle) (info : CallInfo)
    (behaviour : Behaviour α) (within : Option Span) : Driven start (r.call handle info behaviour within)
  | abort {r : Run α} (h : Driven start r) (handle : String) : Driven start (r.abort handle)
  | join {r : Run α} (h : Driven start r) (handle : String) : Driven start (r.join handle)
  | jump {r : Run α} (h : Driven start r) (t : Instant) : Driven start (r.jump t)

omit [Summarize α] in
theorem distinct_fresh (decorators : List Decorator) (stage : Stage) : (fresh decorators stage : Run α).Distinct :=
  List.nodup_nil

theorem Driven.reaches {start : Run α} (hstart : start.Distinct) (h : start.Driven r) : start.Reaches r := by
  induction h with
  | idle => exact reaches_refl start
  | start h hfree call behaviour ih => exact ih.trans (reaches_start (ih.distinct hstart) hfree call behaviour)
  | call h hfree info behaviour within ih =>
    exact ih.trans (reaches_call (ih.distinct hstart) hfree info behaviour within)
  | abort h handle ih => exact ih.trans (reaches_abort (ih.distinct hstart) handle)
  | join h handle ih => exact ih.trans (reaches_join (ih.distinct hstart) handle)
  | jump h t ih => exact ih.trans (reaches_jump (ih.distinct hstart) t)

end Run

/-- Commands that drive a standard chain come down to events, after which the run stands as its gate does. -/
theorem Gate.mirrors_of_driven {α : Type} [Summarize α] (front : Front) (s : Stage) (bucket : Bucket Float) (name : String)
    (settings : BreakerSettings) (counts : Fault → Bool) {r : Run α}
    (h : (Run.fresh (front.chain s.buckets.length s.breakers.length)
      (s.add bucket (.fresh name settings counts))).Driven r) :
    ∃ events : List (Event α),
      ((fresh bucket (.fresh name settings counts) s.journal).after front events).Mirrors front s.buckets.length
        s.breakers.length r := by
  obtain ⟨events, rfl⟩ := h.reaches (Run.distinct_fresh _ _)
  exact ⟨events, (mirrors_after (mirrors_fresh ..) (orderly_fresh ..) events).1⟩

end Campus.Pipeline
