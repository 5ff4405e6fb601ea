import Campus.FanOut
import Campus.Proofs.Cancellation.Tree

/-! # The units of a job

Each unit has a place, the id that stands there, and a context that differs from the caller's in its token only. The token
of a job lies below the caller's, and those of its units lie below it, so cancelling the job reaches every unit and nothing
that was there before.
-/
namespace Campus.FanOut

theorem getElem?_units (own : Context) (i : Nat) (ids : List String) (ts : Tokens) (j : Nat) :
    (units own i ids ts).1[j]? = ids[j]?.map fun id => ⟨i + j, id, { own with token := ts.nodes.size + j }⟩ := by
  induction ids generalizing i j ts with
  | nil => rfl
  | cons id ids ih =>
    cases j with
    | zero => rfl
    | succ j =>
      simp only [units, Context.child, List.getElem?_cons_succ, ih, Tokens.size_child]
      rw [Nat.add_right_comm i 1 j, Nat.add_right_comm ts.nodes.size 1 j]
      rfl

@[simp] theorem length_units (own : Context) (i : Nat) (ids : List String) (ts : Tokens) :
    (units own i ids ts).1.length = ids.length := by
  induction ids generalizing i ts with
  | nil => rfl
  | cons id ids ih => simp [units, ih]

@[simp] theorem size_units (own : Context) (i : Nat) (ids : List String) (ts : Tokens) :
    (units own i ids ts).2.nodes.size = ts.nodes.size + ids.length := by
  induction ids generalizing i ts with
  | nil => rfl
  | cons id ids ih =>
    simp only [units, Context.child, ih, Tokens.size_child, List.length_cons]
    omega

theorem node?_units_of_lt (own : Context) (i : Nat) (ids : List String) {ts : Tokens} {s : Token}
    (hs : s < ts.nodes.size) : (units own i ids ts).2.node? s = ts.node? s := by
  induction ids generalizing i ts with
  | nil => rfl
  | cons id ids ih =>
    have hlt : s < (ts.child own.token).1.nodes.size := by
      rw [Tokens.size_child]
      exact Nat.lt_succ_of_lt hs
    exact (ih (i + 1) hlt).trans (Tokens.node?_child_of_lt hs own.token)

/-- The token of a unit lies below that of the job, and is cancelled when that one is. -/
theorem node?_units {own : Context} (i : Nat) (ids : List String) {ts : Tokens} (ht : own.token < ts.nodes.size) {j : Nat}
    (hj : j < ids.length) :
    (units own i ids ts).2.node? (ts.nodes.size + j) = some ⟨some own.token, ts.isCancelled own.token⟩ := by
  induction ids generalizing i j ts with
  | nil => simp at hj
  | cons id ids ih =>
    have hsize : (ts.child own.token).1.nodes.size = ts.nodes.size + 1 := Tokens.size_child ts own.token
    cases j with
    | zero =>
      have hlt : ts.nodes.size < (ts.child own.token).1.nodes.size := by simp
      exact (node?_units_of_lt own (i + 1) ids hlt).trans (Tokens.node?_child_self ts own.token)
    | succ j =>
      have hlt : own.token < (ts.child own.token).1.nodes.size := by
        rw [hsize]
        exact Nat.lt_succ_of_lt ht
      have hnode := ih (i + 1) hlt (Nat.lt_of_succ_lt_succ hj)
      rw [hsize, Nat.add_right_comm, Tokens.isCancelled_child_of_lt ht] at hnode
      exact hnode

theorem wellFormed_units {own : Context} (i : Nat) (ids : List String) {ts : Tokens} (h : ts.WellFormed)
    (ht : own.token < ts.nodes.size) : (units own i ids ts).2.WellFormed := by
  induction ids generalizing i ts with
  | nil => exact h
  | cons id ids ih =>
    have hlt : own.token < (ts.child own.token).1.nodes.size := by
      rw [Tokens.size_child]
      exact Nat.lt_succ_of_lt ht
    exact ih (i + 1) (Tokens.wellFormed_child h ht) hlt

/-! ## The tree of a job -/

def unitsOf (caller : Context) (ids : List String) (ts : Tokens) : List Waiting :=
  (units (caller.child ts).2 0 ids (caller.child ts).1).1

def tokensOf (caller : Context) (ids : List String) (ts : Tokens) : Tokens :=
  (units (caller.child ts).2 0 ids (caller.child ts).1).2

@[simp] theorem size_child_context (caller : Context) (ts : Tokens) :
    (caller.child ts).1.nodes.size = ts.nodes.size + 1 := Tokens.size_child ts caller.token

section Tree

variable (caller : Context) (ids : List String) (ts : Tokens)

@[simp] theorem length_unitsOf : (unitsOf caller ids ts).length = ids.length := length_units _ _ _ _

theorem getElem?_unitsOf (j : Nat) :
    (unitsOf caller ids ts)[j]? =
      ids[j]?.map fun id => ⟨j, id, { caller with token := ts.nodes.size + 1 + j }⟩ := by
  rw [unitsOf, getElem?_units]
  simp [Context.child]

theorem id_unitsOf : (unitsOf caller ids ts).map Waiting.id = ids := by
  refine List.ext_getElem? fun j => ?_
  rw [List.getElem?_map, getElem?_unitsOf, Option.map_map]
  exact congrFun Option.map_id ids[j]?

@[simp] theorem size_tokensOf : (tokensOf caller ids ts).nodes.size = ts.nodes.size + 1 + ids.length := by
  rw [tokensOf, size_units, size_child_context]

/-- The context of a unit differs from the caller's in its token only. -/
theorem context_unitsOf {u : Waiting} (hu : u ∈ unitsOf caller ids ts) :
    u.context = { caller with token := u.context.token } := by
  obtain ⟨j, hj⟩ := List.getElem?_of_mem hu
  rw [getElem?_unitsOf] at hj
  obtain ⟨id, -, rfl⟩ := Option.map_eq_some_iff.mp hj
  rfl

theorem node?_unitsOf {u : Waiting} (hu : u ∈ unitsOf caller ids ts) :
    (tokensOf caller ids ts).node? u.context.token = some ⟨some ts.nodes.size, ts.isCancelled caller.token⟩ := by
  obtain ⟨j, hj⟩ := List.getElem?_of_mem hu
  rw [getElem?_unitsOf] at hj
  obtain ⟨id, hid, rfl⟩ := Option.map_eq_some_iff.mp hj
  have hlt : (caller.child ts).2.token < (caller.child ts).1.nodes.size := by simp [Context.child]
  have hnode := node?_units 0 ids hlt (List.getElem?_eq_some_iff.mp hid).1
  have hown : (caller.child ts).1.isCancelled (caller.child ts).2.token = ts.isCancelled caller.token :=
    Tokens.isCancelled_child_self ts caller.token
  rw [size_child_context, hown] at hnode
  exact hnode

theorem below_unitsOf {u : Waiting} (hu : u ∈ unitsOf caller ids ts) :
    (tokensOf caller ids ts).Below ts.nodes.size u.context.token :=
  .step (node?_unitsOf caller ids ts hu) rfl .self

theorem isCancelled_unitsOf {u : Waiting} (hu : u ∈ unitsOf caller ids ts) :
    (tokensOf caller ids ts).isCancelled u.context.token = ts.isCancelled caller.token :=
  Tokens.isCancelled_of_node (node?_unitsOf caller ids ts hu)

variable {ts}

theorem node?_tokensOf_of_lt {s : Token} (hs : s < ts.nodes.size) :
    (tokensOf caller ids ts).node? s = ts.node? s := by
  have hlt : s < (caller.child ts).1.nodes.size := by
    rw [size_child_context]
    exact Nat.lt_succ_of_lt hs
  exact (node?_units_of_lt _ 0 ids hlt).trans (Tokens.node?_child_of_lt hs caller.token)

theorem isCancelled_tokensOf_of_lt {s : Token} (hs : s < ts.nodes.size) :
    (tokensOf caller ids ts).isCancelled s = ts.isCancelled s := by
  have hnode := node?_tokensOf_of_lt caller ids hs
  simp only [Tokens.node?] at hnode
  simp only [Tokens.isCancelled, hnode]

variable {caller ids}

theorem below_tokensOf : (tokensOf caller ids ts).Below caller.token ts.nodes.size := by
  have hlt : ts.nodes.size < (caller.child ts).1.nodes.size := by simp
  exact .step ((node?_units_of_lt _ 0 ids hlt).trans (Tokens.node?_child_self ts caller.token)) rfl .self

theorem wellFormed_tokensOf (h : ts.WellFormed) (ht : caller.token < ts.nodes.size) :
    (tokensOf caller ids ts).WellFormed := by
  refine wellFormed_units 0 ids (Tokens.wellFormed_child h ht) ?_
  simp [Context.child]

theorem isCancelled_cancel_job (h : ts.WellFormed) (ht : caller.token < ts.nodes.size) {u : Waiting}
    (hu : u ∈ unitsOf caller ids ts) :
    ((tokensOf caller ids ts).cancel ts.nodes.size).isCancelled u.context.token = true := by
  have hlt : ts.nodes.size < (tokensOf caller ids ts).nodes.size := by
    rw [size_tokensOf]
    exact Nat.lt_add_right ids.length (Nat.lt_succ_self _)
  exact Tokens.isCancelled_cancel_of_below (wellFormed_tokensOf h ht) hlt (below_unitsOf caller ids ts hu)

theorem isCancelled_cancel_caller (h : ts.WellFormed) (ht : caller.token < ts.nodes.size) :
    ((tokensOf caller ids ts).cancel caller.token).isCancelled caller.token = true := by
  refine Tokens.isCancelled_cancel_of_below (wellFormed_tokensOf h ht) ?_ .self
  rw [size_tokensOf]
  exact Nat.lt_add_right ids.length (Nat.lt_succ_of_lt ht)

theorem isCancelled_cancel_caller_job (h : ts.WellFormed) (ht : caller.token < ts.nodes.size) {u : Waiting}
    (hu : u ∈ unitsOf caller ids ts) :
    (((tokensOf caller ids ts).cancel caller.token).cancel ts.nodes.size).isCancelled u.context.token = true := by
  have hwf : (tokensOf caller ids ts).WellFormed := wellFormed_tokensOf h ht
  refine Tokens.isCancelled_cancel_of_isCancelled (Tokens.wellFormed_cancel hwf _) _ ?_
  refine Tokens.isCancelled_cancel_of_below hwf ?_ (below_tokensOf.trans (below_unitsOf caller ids ts hu))
  rw [size_tokensOf]
  exact Nat.lt_add_right ids.length (Nat.lt_succ_of_lt ht)

theorem isCancelled_cancel_job_of_lt (h : ts.WellFormed) (ht : caller.token < ts.nodes.size) {s : Token}
    (hs : s < ts.nodes.size) :
    ((tokensOf caller ids ts).cancel ts.nodes.size).isCancelled s = ts.isCancelled s := by
  have hnot : ¬ (tokensOf caller ids ts).Below ts.nodes.size s := by
    intro hbelow
    exact Nat.not_le.mpr hs (hbelow.le (wellFormed_tokensOf h ht))
  rw [Tokens.isCancelled_cancel_of_not_below (wellFormed_tokensOf h ht) hnot, isCancelled_tokensOf_of_lt caller ids hs]

end Tree

theorem create_eq {ρ ε : Type} (caller : Context) (seed : String) (ids : List String) (bound : Nat) (ts : Tokens) :
    (Job.create caller seed ids bound ts : Job ρ ε × Tokens) =
      (⟨seed, { caller with token := ts.nodes.size }, if bound = 0 then none else some bound, unitsOf caller ids ts, [],
        ids.map fun _ => none, ids.length⟩, tokensOf caller ids ts) := rfl

end Campus.FanOut
