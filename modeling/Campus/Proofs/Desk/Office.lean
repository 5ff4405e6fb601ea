import Campus.Proofs.Desk.Records
import Campus.Proofs.Service.Ledger

/-! # Records under many calls

Records that any number of desks work on, of any kinds, with chains and links in any state. A call may have to wait, and while it
does, others come in, go on, are cancelled or given up. Whatever the order, the records stay well-formed, no number is given out twice
and no username either.
-/
namespace Campus

open Desk

/-- The records, the calls that wait, and what was answered so far. -/
structure Office where
  backend : Backend
  waiting : List (Operation × Pending)
  answers : Answers

namespace Office

def opened : Office := ⟨.sound .empty, [], []⟩

/-- What happens to the records: a call comes in at a desk, or a call that waits goes on, is cancelled or given up. -/
inductive Event where
  | call (desk : Desk) (peers : Peers) (stop : Option Instant) (now : Instant) (wall : Moment) (context : Context)
    (tokens : Tokens) (op : Operation)
  | proceed (place : Nat) (desk : Desk) (peers : Peers) (now : Instant) (wall : Moment)
  | cancel (place : Nat) (desk : Desk) (now : Instant)
  | abandon (place : Nat) (desk : Desk) (now : Instant)

def seat (o : Office) (d : Desk) : Desk := { d with backend := o.backend }

def note (o : Office) (op : Operation) (progress : Progress × Desk) : Office :=
  let o := { o with backend := progress.2.backend }
  match progress.1 with
  | .ended (.returned (.ok r)) => { o with answers := o.answers ++ [(op, r)] }
  | .ended _ => o
  | .waiting p => { o with waiting := o.waiting ++ [(op, p)] }

def takeUp (o : Office) (place : Nat) (f : Operation → Pending → Office → Office) : Office :=
  match o.waiting[place]? with
  | none => o
  | some (op, p) => f op p { o with waiting := o.waiting.eraseIdx place }

def step (o : Office) : Event → Office
  | .call desk peers stop now wall context tokens op =>
    o.note op (start peers stop now wall context tokens op (o.seat desk))
  | .proceed place desk peers now wall => o.takeUp place fun op p o => o.note op (Desk.proceed peers now wall p (o.seat desk))
  | .cancel place desk now => o.takeUp place fun op p o => o.note op (Desk.cancel now p (o.seat desk))
  | .abandon place desk now => o.takeUp place fun _ p o => { o with backend := (Desk.abandon now p (o.seat desk)).backend }

def after (events : List Event) : Office := events.foldl step opened

/-- The records of an office fit its answers, and its calls wait for what their operations ask. -/
structure InOrder (o : Office) : Prop where
  wellFormed : o.backend.store.WellFormed
  recorded : Recorded o.backend.store o.answers
  waits : ∀ w ∈ o.waiting, w.2.wait.For w.1

namespace InOrder

variable {o : Office}

theorem opened : Office.opened.InOrder := ⟨Store.wellFormed_empty, .empty, by simp [Office.opened]⟩

theorem note (h : o.InOrder) {wall : Moment} {op : Operation} {progress : Progress × Desk}
    (hserved : Served wall op o.backend progress.1 progress.2.backend) : (o.note op progress).InOrder := by
  obtain ⟨progress, d⟩ := progress
  generalize hb : d.backend = b at hserved
  cases hserved with
  | ended hended =>
    cases hended with
    | failed hfailed =>
      unfold Office.note
      split
      case h_1 heq => exact absurd (Progress.ended.inj heq) (hfailed _)
      case h_2 =>
        rw [hb]
        exact h
      case h_3 heq => cases heq
    | done heffect =>
      simp only [Office.note, hb]
      exact ⟨heffect.wellFormed h.wellFormed, h.recorded.concat heffect, h.waits⟩
  | @waiting p hwait =>
    simp only [Office.note, hb]
    refine ⟨h.wellFormed, h.recorded, fun w hw => ?_⟩
    rcases List.mem_append.mp hw with hold | hnew
    · exact h.waits w hold
    · obtain rfl := List.mem_singleton.mp hnew
      exact hwait

/-- A waiting call that is taken up keeps the office in order if its next step does. -/
theorem takeUp (h : o.InOrder) (place : Nat) {f : Operation → Pending → Office → Office}
    (hf : ∀ op p (rest : Office), p.wait.For op → rest.InOrder → (f op p rest).InOrder) : (o.takeUp place f).InOrder := by
  unfold Office.takeUp
  split
  case h_1 => exact h
  case h_2 op p hfound =>
    have hrest : ({ o with waiting := o.waiting.eraseIdx place } : Office).InOrder :=
      { h with waits := fun w hw => h.waits w (List.mem_of_mem_eraseIdx hw) }
    exact hf op p _ (h.waits _ (List.mem_of_getElem? hfound)) hrest

theorem step (h : o.InOrder) (event : Event) : (o.step event).InOrder := by
  cases event with
  | call desk peers stop now wall context tokens op => exact h.note (served_start (o.seat desk))
  | proceed place desk peers now wall =>
    exact h.takeUp place fun op p rest hwait hrest => hrest.note (served_proceed hwait (rest.seat desk))
  | cancel place desk now =>
    -- A call that is cancelled writes nothing, so any moment will do.
    obtain ⟨wall⟩ : Nonempty Moment := ⟨⟨Moment.epoch, 0, 0, by decide, by decide⟩⟩
    exact h.takeUp place fun op p rest hwait hrest => hrest.note (served_cancel wall hwait (rest.seat desk))
  | abandon place desk now =>
    unfold Office.step
    refine h.takeUp place fun op p rest hwait hrest => ?_
    rw [backend_abandon]
    exact hrest

theorem after (events : List Event) : (Office.after events).InOrder := by
  have hfold : ∀ o : Office, o.InOrder → (events.foldl Office.step o).InOrder := by
    induction events with
    | nil => exact fun o h => h
    | cons event events ih => exact fun o h => ih (o.step event) (h.step event)
  exact hfold _ .opened

end InOrder

/-- Whatever calls came in, every row of the records stands under its own id or username and has what the checks ask of it. As
long as the numbers of a table last, each number that was given out is positive and greater than those before it, whether or not their
rows were deleted. Each username was given out at most once, and its account is there with the username and the date that it was
created with. -/
theorem records_stay_wellFormed (events : List Event) :
    let o := after events
    o.backend.store.WellFormed ∧
      (∀ k, ((o.answers.numbers k).length : Int) ≤ int64Max →
        (o.answers.numbers k).Pairwise (· < ·) ∧ ∀ id ∈ o.answers.numbers k, 0 < id) ∧
      o.answers.usernames.Nodup ∧
      ∀ p r, (Operation.createAccount p, r) ∈ o.answers → ∃ created row, r = .account created ∧
        created.username = p.username ∧ o.backend.store.account? p.username = some row ∧
        row.username = created.username ∧ row.createdAt = created.createdAt := by
  intro o
  have h : o.InOrder := .after events
  refine ⟨h.wellFormed, fun k hfew => ?_, h.recorded.named, h.recorded.accounts⟩
  have hnumbered := h.recorded.numbered k
  exact ⟨hnumbered.increasing hfew, hnumbered.positive hfew⟩

example (peers : Peers) (wall : Moment) :
    let call (op : Operation) : Event := .call { Desk.bare .students (.sound .empty) 0 with endpoints := [(op.method, [])] }
      peers none 0 wall (.opened 1 "students" op.method 0 5000 none) Tokens.fresh op
    let anna : NewStudent := ⟨"Anna", ⟨2010, 5, 17, by decide⟩, 5, 1⟩
    (after [call (.createStudent anna), call (.deleteStudent "1"), call (.createStudent anna)]).answers.numbers .students
      = [1, 2] := by
  intro call anna
  cbv

end Office

end Campus
