import Campus.Proofs.FanOut.Bookkeeping

/-! # What fetches keep

A property of the shared state that every start and every end of a fetch keeps is kept by the whole job, whatever order its units
run in. The fetches that go on have what starting a fetch gives them.
-/
namespace Campus.FanOut

variable {σ ρ ε : Type}

/-- Fetches that keep a property of the shared state. Each one that is started has a property of its own, which it needs for its
end. -/
structure Worker.Keeps (w : Worker σ ρ ε) (P : σ → Prop) (Q : ρ → Prop) : Prop where
  start (now : Instant) (context : Context) (id : String) (s : σ) : P s → P (w.start now context id s).2
  started {now : Instant} {context : Context} {id : String} {s s' : σ} {due : Instant} {fetch : ρ} :
    P s → w.start now context id s = (.running due fetch, s') → Q fetch
  finish (now : Instant) (fetch : ρ) (s : σ) : Q fetch → P s → P (w.finish now fetch s).2

def Fetching (Q : ρ → Prop) (units : List (Running ρ)) : Prop := ∀ u ∈ units, Q u.fetch

theorem fetching_nil (Q : ρ → Prop) : Fetching Q [] := by simp [Fetching]

theorem Fetching.append {Q : ρ → Prop} {units more : List (Running ρ)} (h : Fetching Q units) (hmore : Fetching Q more) :
    Fetching Q (units ++ more) := fun u hu => (List.mem_append.mp hu).elim (h u) (hmore u)

theorem Fetching.reverse {Q : ρ → Prop} {units : List (Running ρ)} (h : Fetching Q units) : Fetching Q units.reverse :=
  fun u hu => h u (List.mem_reverse.mp hu)

namespace Job

variable {w : Worker σ ρ ε} {P : σ → Prop} {Q : ρ → Prop} (now : Instant) {s : σ}

theorem keeps_finishDue (hw : w.Keeps P Q) {running : List (Running ρ)} (hrunning : Fetching Q running) (hs : P s) :
    P (finishDue w now running s).2 ∧ Fetching Q (finishDue w now running s).1.2 := by
  induction running generalizing s with
  | nil => exact ⟨hs, hrunning⟩
  | cons u rest ih =>
    have hfetch : Q u.fetch := hrunning u List.mem_cons_self
    have hrest : Fetching Q rest := fun v hv => hrunning v (List.mem_cons_of_mem _ hv)
    unfold finishDue
    split
    case isTrue => exact ih hrest (hw.finish now u.fetch s hfetch hs)
    case isFalse =>
      obtain ⟨hstate, hleft⟩ := ih hrest hs
      exact ⟨hstate, List.forall_mem_cons.mpr ⟨hfetch, hleft⟩⟩

theorem keeps_startWaiting (hw : w.Keeps P Q) (waiting : List Waiting) (free : Option Nat) (hs : P s) :
    P (startWaiting w now waiting free s).2 ∧ Fetching Q (startWaiting w now waiting free s).1.running := by
  induction waiting generalizing free s with
  | nil => exact ⟨hs, fetching_nil Q⟩
  | cons u rest ih =>
    by_cases hfree : free = some 0
    · simpa [startWaiting, hfree, Fetching] using hs
    · have hstate := hw.start now u.context u.id s hs
      rcases hstart : w.start now u.context u.id s with ⟨ending | ⟨due, fetch⟩, s'⟩
      · rw [hstart] at hstate
        simpa only [startWaiting, hfree, if_false, hstart] using ih free hstate
      · rw [hstart] at hstate
        obtain ⟨hkept, hrunning⟩ := ih (free.map (· - 1)) hstate
        simp only [startWaiting, hfree, if_false, hstart]
        exact ⟨hkept, List.forall_mem_cons.mpr ⟨hw.started hs hstart, hrunning⟩⟩

theorem keeps_runUnits (hw : w.Keeps P Q) {job : Job ρ ε} (hjob : Fetching Q job.running) (hs : P s) :
    P (runUnits w now job s).2 ∧ Fetching Q (runUnits w now job s).1.2.running := by
  obtain ⟨hended, hrunning⟩ := keeps_finishDue now hw hjob hs
  unfold runUnits
  rcases hf : finishDue w now job.running s with ⟨⟨ended, running⟩, s'⟩
  rw [hf] at hended hrunning
  obtain ⟨hstate, hstarted⟩ := keeps_startWaiting now hw job.waiting (job.free.map (· + ended.length)) hended
  exact ⟨hstate, hrunning.append hstarted⟩

def Progress.units : Progress ρ ε → List (Running ρ)
  | .going job => job.running
  | .over _ _ left => left

theorem keeps_step (hw : w.Keeps P Q) {job : Job ρ ε} (hjob : Fetching Q job.running) (ts : Tokens) (hs : P s) :
    P (step w now job ts s).2.2 ∧ Fetching Q (step w now job ts s).1.units := by
  obtain ⟨hstate, hrunning⟩ := keeps_runUnits now hw hjob hs
  have hjoins := joins_step w now job ts s
  generalize step w now job ts s = r at hjoins ⊢
  cases hjoins with
  | failed h => exact ⟨hstate, hrunning.reverse⟩
  | ended h hover => exact ⟨hstate, hrunning.reverse⟩
  | going h hleft => exact ⟨hstate, hrunning⟩

end Job

end Campus.FanOut
