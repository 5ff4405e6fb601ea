import Campus.Proofs.FanOut.Bookkeeping
import Campus.Proofs.Peer.Outcome

/-! # What a peer is asked for

A request that is handed to a transport is noted in the journal, and nothing else in the life of a call notes one. A call asks its
peer once at most, and a fan-out once at most for each of its units, in the order of these. Over a network nothing is sent for a caller
that is cancelled or out of time.
-/
namespace Campus

open FanOut Pipeline

namespace Pipeline

/-! ## Chains -/

theorem requests_enter (now : Instant) (call : CallInfo) (decorators : List Decorator) (frames : List Frame) (s : Stage) :
    (enter now call decorators frames s).2.journal.requests = s.journal.requests := by
  induction decorators generalizing frames s with
  | nil => rfl
  | cons decorator inner ih =>
    cases decorator with
    | logging => exact ih _ s
    | metrics => exact ih _ s
    | mark name =>
      refine (ih frames (s.write (.passed name))).trans ?_
      simp [Journal.requests]
    | rateLimit endpoint i =>
      rw [enter]
      split
      case h_1 => exact ih frames s
      case h_2 b _ =>
        dsimp only
        split
        case isTrue => exact ih frames _
        case isFalse => exact Stage.requests_note _ _
    | breaker i =>
      rw [enter]
      split
      case h_1 => exact ih frames s
      case h_2 b _ =>
        dsimp only
        split
        case h_1 p _ => exact (ih _ _).trans (Stage.requests_note _ _)
        case h_2 => exact Stage.requests_note _ _

theorem requests_startCall (now : Instant) (call : CallInfo) (decorators : List Decorator) (s : Stage) :
    (startCall now call decorators s).2.journal.requests = s.journal.requests := by
  have henter := requests_enter now call decorators [] s
  unfold startCall
  split
  case h_1 heq =>
    rw [heq] at henter
    rw [requests_leave]
    exact henter
  case h_2 heq =>
    rw [heq] at henter
    exact henter

end Pipeline

namespace Peer

/-! ## Transports -/

/-- A transport sends nothing for a caller that is cancelled or has no time left. -/
def Transport.Careful {α : Type} (transport : Transport α) : Prop :=
  ∀ now stop ts context id, (transport now stop ts context id).sent = true →
    now < context.deadline ∧ ts.isCancelled context.token = false

theorem careful_exchange {α : Type} [Wire α] (network : Network) (e : Endpoint) (d : Destination) :
    (exchange network e d : Transport α).Careful := by
  intro now stop ts context id hsent
  unfold exchange at hsent
  cases hprepare : prepare e d ts now context id with
  | error fault =>
    rw [hprepare] at hsent
    cases hsent
  | ok out =>
    obtain ⟨-, -, htoken, htime⟩ := prepare_ok hprepare
    exact ⟨htime, htoken⟩

/-! ## Requests and the journal -/

/-- A request that may be sent: the method it goes under, and the unit that it is for. -/
structure Question where
  method : String
  unit : Waiting

def Question.entry (q : Question) : String × String × Option String := (q.method, q.unit.id, q.unit.context.requestId)

def Link.question (l : Link) (u : Waiting) : Question := ⟨l.endpoint.method, u⟩

/-- At an instant some of the requests that were left are sent, each of them in time; others are left then, which are none of these. -/
def Sends (now : Instant) (before : List Question) (s s' : Stage) (left : List Question) : Prop :=
  ∃ asked : List Question, (asked ++ left).Sublist before ∧
    s'.journal.requests = s.journal.requests ++ asked.map Question.entry ∧ ∀ q ∈ asked, now < q.unit.context.deadline

namespace Sends

variable {now : Instant} {before left : List Question} {s s' s'' : Stage}

theorem nothing (h : s'.journal.requests = s.journal.requests) (hleft : left.Sublist before) : Sends now before s s' left :=
  ⟨[], hleft, by simp [h], by simp⟩

theorem of_eq (h : Sends now before s s' left) (hsame : s''.journal.requests = s'.journal.requests) :
    Sends now before s s'' left := by
  obtain ⟨asked, hsub, hsent, htime⟩ := h
  exact ⟨asked, hsub, hsame.trans hsent, htime⟩

theorem eq_before (h : Sends now before s s' left) (hsame : s.journal.requests = s''.journal.requests) :
    Sends now before s'' s' left := by
  obtain ⟨asked, hsub, hsent, htime⟩ := h
  exact ⟨asked, hsub, hsame ▸ hsent, htime⟩

theorem drop_left (h : Sends now before s s' left) : Sends now before s s' [] := by
  obtain ⟨asked, hsub, hsent, htime⟩ := h
  refine ⟨asked, ?_, hsent, htime⟩
  rw [List.append_nil]
  exact (List.sublist_append_left asked left).trans hsub

theorem cons {q : Question} (h : Sends now [q] s s' []) (hrest : Sends now before s' s'' left) :
    Sends now (q :: before) s s'' left := by
  obtain ⟨asked, hsub, hsent, htime⟩ := h
  obtain ⟨more, hmore, hlater, hlate⟩ := hrest
  refine ⟨asked ++ more, ?_, ?_, fun p hp => (List.mem_append.mp hp).elim (htime p) (hlate p)⟩
  · rw [List.append_nil] at hsub
    rw [List.append_assoc]
    exact hsub.append hmore
  · rw [hlater, hsent, List.map_append, List.append_assoc]

end Sends

section Calls

variable {α : Type} [Summarize α] (l : Link) {transport : Transport α} (stop : Option Instant) (ts : Tokens) (now : Instant)

/-! ## One call -/

/-- A call sends one request at most, and none when its caller was cancelled. -/
theorem sends_start (h : transport.Careful) (u : Waiting) (s : Stage) :
    Sends now (if ts.isCancelled u.context.token = true then [] else [l.question u]) s
      (start l transport stop ts now u.context u.id s).2 [] := by
  by_cases hid : u.id = ""
  · exact .nothing (by simp [start, hid]) (List.nil_sublist _)
  have henter := requests_startCall now ⟨l.endpoint.method, s!"id={u.id}"⟩ l.chain s
  rcases hstart : startCall now ⟨l.endpoint.method, s!"id={u.id}"⟩ l.chain s with ⟨fault | frames, s'⟩
  · rw [hstart] at henter
    exact .nothing (by simpa [start, hid, hstart] using henter) (List.nil_sublist _)
  rw [hstart] at henter
  have hcareful := h now stop ts (u.context.forMethod l.endpoint.method) u.id
  generalize hattempt : transport now stop ts (u.context.forMethod l.endpoint.method) u.id = attempt at hcareful
  have hrequests : (start l transport stop ts now u.context u.id s).2.journal.requests =
      (if attempt.sent then s'.write (.asked l.endpoint.method u.id u.context.requestId) else s').journal.requests := by
    by_cases hdelay : attempt.delay = 0
    · simp only [start, hid, hstart, hattempt, hdelay, if_true, if_false, requests_leave]
      rfl
    · simp only [start, hid, hstart, hattempt, hdelay, if_false]
      rfl
  cases hsent : attempt.sent with
  | false =>
    refine .nothing ?_ (List.nil_sublist _)
    rw [hrequests, hsent]
    exact henter
  | true =>
    obtain ⟨htime, htoken⟩ : now < u.context.deadline ∧ ts.isCancelled u.context.token = false := hcareful hsent
    refine ⟨[l.question u], ?_, ?_, List.forall_mem_singleton.mpr htime⟩
    · rw [if_neg (Bool.eq_false_iff.mp htoken)]
      exact List.Sublist.refl _
    · rw [hrequests, hsent, if_pos rfl, Stage.journal_write, Journal.requests_append]
      exact congrArg (· ++ _) henter

theorem requests_finish (f : Flight α) (s : Stage) : (finish now f s).2.journal.requests = s.journal.requests :=
  requests_leave ..

omit [Summarize α] in
theorem requests_abandon (f : Flight α) (s : Stage) : (abandon now f s).journal.requests = s.journal.requests :=
  requests_leave ..

/-! ## Fan-outs -/

theorem requests_finishDue (transport : Transport α) (running : List (Running (Flight α))) (s : Stage) :
    (Job.finishDue (worker l transport stop ts) now running s).2.journal.requests = s.journal.requests := by
  induction running generalizing s with
  | nil => rfl
  | cons u rest ih =>
    rw [Job.finishDue]
    split
    case isTrue => exact (ih _).trans (requests_finish now u.fetch s)
    case isFalse => exact ih s

theorem sends_startWaiting (h : transport.Careful) (waiting : List Waiting) (free : Option Nat) (s : Stage) :
    Sends now (waiting.map l.question) s (Job.startWaiting (worker l transport stop ts) now waiting free s).2
      ((Job.startWaiting (worker l transport stop ts) now waiting free s).1.waiting.map l.question) := by
  induction waiting generalizing free s with
  | nil => exact .nothing rfl (List.Sublist.refl _)
  | cons u rest ih =>
    by_cases hfree : free = some 0
    · simp only [Job.startWaiting, hfree, if_true]
      exact .nothing rfl (List.Sublist.refl _)
    have hfirst : Sends now [l.question u] s ((worker l transport stop ts).start now u.context u.id s).2 [] := by
      obtain ⟨asked, hsub, hasked⟩ := sends_start l stop ts now h u s
      refine ⟨asked, hsub.trans ?_, hasked⟩
      split
      · exact List.nil_sublist _
      · exact List.Sublist.refl _
    rcases hstart : (worker l transport stop ts).start now u.context u.id s with ⟨ending | ⟨due, fetch⟩, s'⟩
    · rw [hstart] at hfirst
      simp only [Job.startWaiting, hfree, if_false, hstart]
      exact hfirst.cons (ih free s')
    · rw [hstart] at hfirst
      simp only [Job.startWaiting, hfree, if_false, hstart]
      exact hfirst.cons (ih (free.map (· - 1)) s')

def unasked : Job.Progress (Flight α) α → List Question
  | .going job => job.waiting.map l.question
  | .over _ _ _ => []

/-- At every instant a fan-out sends requests of units that have waited until then. -/
theorem sends_step (h : transport.Careful) (job : Job (Flight α) α) (ts' : Tokens) (s : Stage) :
    Sends now (job.waiting.map l.question) s (Job.step (worker l transport stop ts) now job ts' s).2.2
      (unasked l (Job.step (worker l transport stop ts) now job ts' s).1) := by
  have hended := requests_finishDue l stop ts now transport job.running s
  have hjoins := Job.joins_step (worker l transport stop ts) now job ts' s
  generalize Job.step (worker l transport stop ts) now job ts' s = r at hjoins ⊢
  unfold Job.runUnits at hjoins
  rcases hf : Job.finishDue (worker l transport stop ts) now job.running s with ⟨⟨ended, running⟩, s'⟩
  rw [hf] at hended
  simp only [hf] at hjoins
  have hstarted := (sends_startWaiting l stop ts now h job.waiting (job.free.map (· + ended.length)) s').eq_before hended
  cases hjoins with
  | failed hgather => exact hstarted.drop_left
  | ended hgather hover => exact hstarted.drop_left
  | going hgather hleft => exact hstarted

end Calls

end Peer

end Campus
