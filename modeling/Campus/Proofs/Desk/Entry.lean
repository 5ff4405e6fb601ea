import Campus.Desk

/-! # Calls that a chain lets in

A call enters the chain of its method before its operation is performed. What it leaves behind there matters when it is over, and
not for how it ends.
-/
namespace Campus.Desk

open Pipeline

/-- What a call of an operation leaves behind in the chain of its method, and the guard room after it, if the chain lets it in. -/
def enter? (d : Desk) (now : Instant) (op : Operation) : Option (List Frame × Stage) :=
  match d.endpoints.find? fun e => e.1 = op.method with
  | none => none
  | some (_, chain) =>
    match startCall now ⟨op.method, op.fields⟩ chain d.stage with
    | (.error _, _) => none
    | (.ok frames, s) => some (frames, s.write .invoked)

variable {d : Desk} {peers : Peers} {stop : Option Instant} {now : Instant} {wall : Moment} {context : Context} {ts : Tokens}
  {op : Operation} {frames : List Frame} {s : Stage}

theorem start_of_enter? (h : d.enter? now op = some (frames, s)) (hmethod : context.method = op.method) :
    start peers stop now wall context ts op d =
      settle now frames context stop (perform peers stop now wall context op ts { d with stage := s }) := by
  unfold enter? at h
  unfold start
  rw [hmethod]
  rcases hchain : d.endpoints.find? fun e => e.1 = op.method with _ | ⟨name, chain⟩
  · simp only [hchain, reduceCtorEq] at h
  rcases hstart : startCall now ⟨op.method, op.fields⟩ chain d.stage with ⟨fault | left, s'⟩
  · simp only [hchain, hstart, reduceCtorEq] at h
  · simp only [hchain, hstart, Option.some.injEq, Prod.mk.injEq] at h ⊢
    obtain ⟨rfl, rfl⟩ := h
    rfl

/-- An operation that a service settles from its own records is over at once. -/
theorem start_replied (h : d.enter? now op = some (frames, s)) (hmethod : context.method = op.method)
    {result : Except Fault Response} {b : Backend}
    (hreply : Service.handle d.kind d.link.isSome wall op.method op d.backend = (.reply result, b)) :
    ∃ d', start peers stop now wall context ts op d = (.ended (.returned result), d') := by
  rw [start_of_enter? h hmethod, perform, hmethod]
  simp only [hreply]
  exact ⟨_, rfl⟩

/-! ## Frames -/

theorem ending_await_frames (frames : List Frame) (fuel : Nat) (t : Instant) (turn : Turn × Tokens × Desk) :
    (await peers wall none fuel t (settle t frames context none turn)).ending =
      (await peers wall none fuel t (settle t [] context none turn)).ending := by
  induction fuel generalizing t turn with
  | zero =>
    obtain ⟨turn, tokens, d⟩ := turn
    cases turn <;> rfl
  | succ fuel ih =>
    obtain ⟨turn, tokens, d⟩ := turn
    cases turn with
    | waiting wait =>
      simp only [settle, await, await.go, proceed, reduceCtorEq, if_false]
      exact ih _ _
    | _ => rfl

/-- How a call ends does not depend on what it leaves behind in its chain. -/
theorem ending_finish_frames (frames : List Frame) (now : Instant) (turn : Turn × Tokens × Desk) :
    (finish peers wall none now (settle now frames context none turn)).ending =
      (finish peers wall none now (settle now [] context none turn)).ending := by
  have hturns : (settle now frames context none turn).1.turns = (settle now [] context none turn).1.turns := by
    obtain ⟨turn, tokens, d⟩ := turn
    cases turn <;> rfl
  rw [finish, finish, hturns]
  exact ending_await_frames frames _ now turn

end Campus.Desk
