import Campus.Proofs.FanOut.Books

/-! # Fan-outs whose caller is cancelled

A job whose caller is cancelled while it goes on is given up at that instant, whatever its fetches would have come to. What had
started and ended by then stays in the log, what ran is torn down, and what waited never starts.
-/
namespace Campus.FanOut

variable {σ ρ ε : Type}

namespace Job

namespace Serves

variable {w : Worker σ ρ ε} {units : List Waiting} {capacity : Nat} {ending : Nat → Ending ε}
  {Inv : Instant → List (Running ρ) → Nat → σ → Prop} {Ends : Instant → Nat → Prop}

/-- A job that was given up at `c` as it stood then: nothing that ran was overdue. -/
inductive Halted (w : Worker σ ρ ε) (units : List Waiting) (capacity : Nat)
    (Inv : Instant → List (Running ρ) → Nat → σ → Prop) (own : Token) (ts : Tokens) (c : Instant) : Report σ ε → Prop where
  | intro {running : List (Running ρ)} {m : Nat} {s : σ} (busy : m < units.length → running.length = capacity)
      (due : ∀ v ∈ running, c ≤ v.due) (inv : Inv c running m s) :
      Halted w units capacity Inv own ts c
        ⟨.returned (.error .cancelled), c, ts.cancel own, [], tearDown w c running.reverse s⟩

/-- A job that would go on beyond the instant at which its caller is cancelled ends then. -/
theorem drive_stopped (h : Serves w units capacity ending Inv Ends) {caller : Context} {ts : Tokens}
    (halive : ts.isCancelled caller.token = false) (hcancel : (ts.cancel caller.token).isCancelled caller.token = true)
    {t c : Instant} (htc : t ≤ c) {job : Job ρ ε} {k : Nat} {s : σ} (hs : Stands units capacity ending Inv t job k s) {fuel : Nat}
    (hfuel : Patient fuel t job) (hover : c < (Job.drive w caller none fuel t job ts s).now) :
    Halted w units capacity Inv job.context.token (ts.cancel caller.token) c
      (Job.drive w caller (some c) fuel t job ts s) := by
  induction fuel generalizing t job k s with
  | zero => exact absurd hover (Nat.not_lt.mpr htc)
  | succ fuel ih =>
    have hstep := h.step hs ts
    simp only [Job.drive, halive, Bool.false_eq_true, if_false] at hover ⊢
    generalize Job.step w t job ts s = p at hstep hover ⊢
    -- A job that is over at `t` is not there any more when its caller is cancelled.
    cases hstep with
    | failed => exact absurd hover (Nat.not_lt.mpr htc)
    | complete => exact absurd hover (Nat.not_lt.mpr htc)
    | @going outcomes job' remaining slots m s' ran something stands =>
      obtain ⟨due, hdue, hlater, hall, u, hu, hud⟩ := h.exists_nextDue ran something
      obtain ⟨-, -, -, -, hle, hshrinks⟩ := h.stands_next ran something stands
      have hnext : nextDue? { job' with remaining, slots } = some due := hdue
      obtain ⟨hpos, hpatient⟩ : 0 < fuel ∧ Patient fuel due { job' with remaining, slots } :=
        hfuel.next hle hshrinks ⟨u, hu, Nat.le_of_eq hud⟩
      dsimp only at hover ⊢
      rw [hnext] at hover ⊢
      dsimp only at hover ⊢
      rw [← ran.context]
      by_cases hstop : c ≤ due
      · rw [if_pos hstop, drive_of_cancelled w hcancel none hpos]
        have hdues : ∀ v ∈ job'.running, c ≤ v.due := fun v hv => Nat.le_trans hstop (hall v hv)
        exact .intro ran.busy hdues (h.later ran.busy htc hdues ran.inv)
      · rw [if_neg hstop]
        have hstands : Stands units capacity ending Inv due { job' with remaining, slots } m s' :=
          { stands with inv := h.later ran.busy (Nat.le_of_lt hlater) hall ran.inv }
        exact ih (Nat.le_of_lt (Nat.lt_of_not_le hstop)) hstands hpatient hover

variable {caller : Context} {ids : List String} {bound : Nat} {ts : Tokens}

theorem resolve_stopped (h : Serves w (unitsOf caller ids ts) (FanOut.capacity bound ids.length) ending Inv Ends) (seed : String)
    (hids : ids ≠ []) (hbound : bound ≤ maxPermits) (hwf : ts.WellFormed) (hcaller : caller.token < ts.nodes.size)
    (halive : ts.isCancelled caller.token = false) {now c : Instant} {s : σ} (hinv : Inv now [] 0 s) (hnow : now ≤ c)
    (hover : c < (FanOut.resolve w caller seed ids bound none now ts s).now) :
    Halted w (unitsOf caller ids ts) (FanOut.capacity bound ids.length) Inv ts.nodes.size
      ((tokensOf caller ids ts).cancel caller.token) c (FanOut.resolve w caller seed ids bound (some c) now ts s) := by
  have hstands := h.stands_create seed hinv
  have hcancel : ((tokensOf caller ids ts).cancel caller.token).isCancelled caller.token = true :=
    isCancelled_cancel_caller hwf hcaller
  rw [← isCancelled_tokensOf_of_lt caller ids hcaller] at halive
  simp only [FanOut.resolve, hids, if_false, Nat.not_lt.mpr hbound] at hover ⊢
  exact h.drive_stopped halive hcancel hnow hstands (.inr (by simp [create_eq, left])) hover

end Serves

end Job

/-! ## Planned fetches -/

/-- A fan-out that was given up at an instant: its caller gets the plain fault, nothing is said of it, and all its units are
cancelled. -/
structure Report.GivenUp (report : Report σ ε) (units : List Waiting) (c : Instant) : Prop where
  ending : report.ending = .returned (.error .cancelled)
  now : report.now = c
  notices : report.notices = []
  tokens : ∀ u ∈ units, report.tokens.isCancelled u.context.token = true

variable (plan : Nat → Script ε) (caller : Context) (seed : String) (ids : List String) (bound : Nat) (now : Instant)
  (ts : Tokens)

/-- A fan-out ends with the plain fault at the instant at which its caller is cancelled, its own start included, and all its units
are cancelled then. What has ended by then is in the log, what ran was given up, and nothing starts or ends any more. A bound
beyond the most permits breaks it down even when its caller is cancelled already. -/
theorem resolve_cancelled (hids : ids ≠ []) (hwf : ts.WellFormed) (hcaller : caller.token < ts.nodes.size)
    (stop : Option Instant) :
    let T := Timetable.ofPlan plan (capacity bound ids.length) now
    let report := resolve (planned plan) caller seed ids bound stop now ts Log.empty
    (maxPermits < bound → report = ⟨.panicked (some tooManyPermits), now, ts, [], Log.empty⟩) ∧
      (bound ≤ maxPermits → ts.isCancelled caller.token = true →
        report.GivenUp (unitsOf caller ids ts) now ∧ report.state = Log.empty) ∧
      (bound ≤ maxPermits → ts.isCancelled caller.token = false →
        ∀ c, stop = some c → now ≤ c → c < (resolve (planned plan) caller seed ids bound none now ts Log.empty).now →
          (∀ i < ids.length, T.finish i ≠ c) →
          report.GivenUp (unitsOf caller ids ts) c ∧
            report.state.starts = ((unitsOf caller ids ts).filter fun u => T.start u.index ≤ c).map
              (fun u => (T.start u.index, u.context, u.id)) ∧
            report.state.finishes.Perm
              (((List.range ids.length).filter fun i => T.finish i ≤ c).map fun i => (T.finish i, i)) ∧
            report.state.abandons.Perm
              (((List.range ids.length).filter fun i => T.start i ≤ c ∧ c < T.finish i).map fun i => (c, i))) := by
  intro T report
  have hc : 0 < T.capacity := capacity_pos (List.length_pos_iff.mpr hids)
  refine ⟨fun hmany => ?_, fun hfew hdead => ?_, fun hfew halive => ?_⟩
  · simp only [report, resolve, hids, if_false, hmany, if_true]
  · have hreport : report =
        ⟨.returned (.error .cancelled), now, (tokensOf caller ids ts).cancel ts.nodes.size, [], Log.empty⟩ := by
      rw [← isCancelled_tokensOf_of_lt caller ids hcaller] at hdead
      simp only [report, resolve, hids, if_false, Nat.not_lt.mpr hfew]
      exact Job.drive_of_cancelled _ hdead _ (Nat.succ_pos _) _ _ _
    rw [hreport]
    exact ⟨⟨rfl, rfl, rfl, fun u hu => isCancelled_cancel_job hwf hcaller hu⟩, rfl⟩
  · rintro c rfl hnow hover hfree
    have hserves : Job.Serves _ (unitsOf caller ids ts) _ _ _ _ := serves_planned plan now hc index_unitsOf
    have hhalted := hserves.resolve_stopped seed hids hfew hwf hcaller halive (.first _) hnow hover
    change Job.Serves.Halted _ _ T.capacity (Follows T _) _ _ _ report at hhalted
    clear_value report
    cases hhalted with
    | @intro running m s busy due inv =>
      have hdue : ∀ v ∈ running, c < v.due := by
        intro v hv
        refine Nat.lt_of_le_of_ne (due v hv) fun heq => ?_
        have hlt := Nat.lt_of_lt_of_le (inv.lt_of_running (List.mem_map_of_mem hv)) inv.le_length
        rw [length_unitsOf] at hlt
        exact hfree v.index hlt ((inv.due v hv).2.1.symm.trans heq.symm)
      have hfinishes := inv.finishes_perm hc busy hdue
      have habandons := inv.abandons_perm hc busy hdue c
      rw [length_unitsOf] at hfinishes habandons
      rw [tearDown_planned, inv.abandons, List.nil_append]
      refine ⟨⟨rfl, rfl, rfl, fun u hu => ?_⟩, inv.starts_eq hc busy hdue index_unitsOf, hfinishes, habandons⟩
      exact isCancelled_cancel_caller_job hwf hcaller hu

/-- The caller is cancelled after the second fetch has ended and passed its permit to the third. -/
theorem resolve_cancelled_midway :
    let report := resolve (planned fun i => ⟨[5, 3, 2][i]!, .returned (.ok i)⟩)
      (.opened 1 "students" "GET_STUDENT_COURSES" 0 30 none) "1" ["7", "8", "9"] 2 (some 4) 0 Tokens.fresh Log.empty
    report.ending = .returned (.error .cancelled) ∧ report.now = 4 ∧ report.state.starts.map (·.2.2) = ["7", "8", "9"] ∧
      report.state.finishes.Perm [(3, 1)] ∧ report.state.abandons.Perm [(4, 0), (4, 2)] := by
  intro report
  have h := resolve_cancelled (fun i => ⟨[5, 3, 2][i]!, .returned (.ok i)⟩)
    (.opened 1 "students" "GET_STUDENT_COURSES" 0 30 none) "1" ["7", "8", "9"] 2 0 Tokens.fresh (by decide)
    Tokens.wellFormed_fresh (by decide) (some 4)
  obtain ⟨hgiven, -, hfinishes, habandons⟩ := h.2.2 (by decide) (by decide) 4 rfl (by decide) (by decide) (by decide)
  exact ⟨hgiven.ending, hgiven.now, by decide, hfinishes.trans (by decide), habandons.trans (by decide)⟩

end Campus.FanOut
