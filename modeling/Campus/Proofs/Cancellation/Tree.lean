import Campus.Cancellation

/-! # Trees of tokens

A token lies below the one it was made from. Cancelling reaches exactly what lies below; nothing above or beside it changes.
-/
namespace Campus.Tokens

abbrev node? (ts : Tokens) (t : Token) : Option TokenNode := ts.nodes[t]?

/-- A token was made from one in front of it, and is cancelled when that one is. -/
structure WellFormed (ts : Tokens) : Prop where
  parent_lt : ∀ {t node p}, ts.node? t = some node → node.parent = some p → p < t
  cancelled_below : ∀ {t node p}, ts.node? t = some node → node.parent = some p →
    ts.isCancelled p = true → node.cancelled = true

/-- One token is another one, or lies below it. -/
inductive Below (ts : Tokens) (t : Token) : Token → Prop where
  | self : Below ts t t
  | step {s p : Token} {node : TokenNode} (hs : ts.node? s = some node) (hp : node.parent = some p) (h : Below ts t p) :
      Below ts t s

theorem Below.trans {ts : Tokens} {r t s : Token} (hr : ts.Below r t) (hs : ts.Below t s) : ts.Below r s := by
  induction hs with
  | self => exact hr
  | step hn hp _ ih => exact .step hn hp ih

theorem Below.le {ts : Tokens} (h : ts.WellFormed) {t s : Token} (hs : ts.Below t s) : t ≤ s := by
  induction hs with
  | self => exact Nat.le_refl _
  | step hn hp _ ih => exact Nat.le_trans ih (Nat.le_of_lt (h.parent_lt hn hp))

theorem isCancelled_of_node {ts : Tokens} {t : Token} {node : TokenNode} (h : ts.node? t = some node) :
    ts.isCancelled t = node.cancelled := by
  simp [isCancelled, h]

theorem wellFormed_fresh : fresh.WellFormed := by
  constructor
  all_goals
    intro t node p hn hp
    have hnode : node = ⟨none, false⟩ := by
      match t with
      | 0 => simpa [node?, fresh, eq_comm] using hn
      | t + 1 => simp [node?, fresh] at hn
    simp [hnode] at hp

/-! ## New tokens -/

@[simp] theorem size_child (ts : Tokens) (t : Token) : (ts.child t).1.nodes.size = ts.nodes.size + 1 := by
  simp [child]

@[simp] theorem token_child (ts : Tokens) (t : Token) : (ts.child t).2 = ts.nodes.size := rfl

theorem node?_child_of_lt {ts : Tokens} {s : Token} (hs : s < ts.nodes.size) (t : Token) :
    (ts.child t).1.node? s = ts.node? s := by
  simp [node?, child, Array.getElem?_push, Nat.ne_of_lt hs]

theorem node?_child_self (ts : Tokens) (t : Token) :
    (ts.child t).1.node? ts.nodes.size = some ⟨some t, ts.isCancelled t⟩ := by
  simp [node?, child]

theorem isCancelled_child_of_lt {ts : Tokens} {s : Token} (hs : s < ts.nodes.size) (t : Token) :
    (ts.child t).1.isCancelled s = ts.isCancelled s := by
  have h := node?_child_of_lt hs t
  simp only [node?] at h
  simp only [isCancelled, h]

theorem isCancelled_child_self (ts : Tokens) (t : Token) :
    (ts.child t).1.isCancelled ts.nodes.size = ts.isCancelled t :=
  isCancelled_of_node (node?_child_self ts t)

theorem wellFormed_child {ts : Tokens} (h : ts.WellFormed) {t : Token} (ht : t < ts.nodes.size) :
    (ts.child t).1.WellFormed := by
  have hcases : ∀ {s node}, (ts.child t).1.node? s = some node →
      ts.node? s = some node ∨ s = ts.nodes.size ∧ node = ⟨some t, ts.isCancelled t⟩ := by
    intro s node hn
    obtain ⟨hs, -⟩ := Array.getElem?_eq_some_iff.mp hn
    rw [size_child] at hs
    obtain hlt | hge := Nat.lt_or_ge s ts.nodes.size
    · left
      rwa [node?_child_of_lt hlt] at hn
    · obtain rfl : s = ts.nodes.size := Nat.le_antisymm (Nat.lt_succ_iff.mp hs) hge
      rw [node?_child_self] at hn
      exact .inr ⟨rfl, (Option.some.inj hn).symm⟩
  constructor
  · intro s node p hn hp
    obtain hold | ⟨rfl, rfl⟩ := hcases hn
    · exact h.parent_lt hold hp
    · obtain rfl : t = p := by simpa using hp
      exact ht
  · intro s node p hn hp hc
    obtain hold | ⟨rfl, rfl⟩ := hcases hn
    · have hs := (Array.getElem?_eq_some_iff.mp hold).1
      have hps := h.parent_lt hold hp
      rw [isCancelled_child_of_lt (Nat.lt_trans hps hs)] at hc
      exact h.cancelled_below hold hp hc
    · obtain rfl : t = p := by simpa using hp
      rwa [isCancelled_child_of_lt ht] at hc

/-! ## Cancelling -/

/-- Marking goes from the root outward, so what stands in front of a node is settled when it is reached. -/
theorem getElem?_foldl_markNode (t : Token) (nodes : List TokenNode) (marked : Array TokenNode) :
    ∃ rest : List TokenNode, nodes.foldl (fun m node => m.push (markNode t m node)) marked = marked ++ rest.toArray ∧
      rest.length = nodes.length ∧
      ∀ i node, nodes[i]? = some node →
        rest[i]? = some (markNode t (marked ++ (rest.take i).toArray) node) := by
  induction nodes generalizing marked with
  | nil => exact ⟨[], by simp⟩
  | cons node nodes ih =>
    obtain ⟨rest, hfold, hlen, hrest⟩ := ih (marked.push (markNode t marked node))
    refine ⟨markNode t marked node :: rest, by simpa using hfold, by simp [hlen], ?_⟩
    intro i other hi
    cases i with
    | zero =>
      obtain rfl : node = other := by simpa using hi
      simp
    | succ i => simpa using hrest i other (by simpa using hi)

@[simp] theorem size_cancel (ts : Tokens) (t : Token) : (ts.cancel t).nodes.size = ts.nodes.size := by
  obtain ⟨rest, hfold, hlen, -⟩ := getElem?_foldl_markNode t ts.nodes.toList #[]
  simp only [cancel, ← Array.foldl_toList, hfold]
  simpa using hlen

theorem node?_cancel {ts : Tokens} (h : ts.WellFormed) (t : Token) {s : Token} {node : TokenNode}
    (hs : ts.node? s = some node) :
    (ts.cancel t).node? s = some { node with
      cancelled := node.cancelled || s = t || (node.parent.map (ts.cancel t).isCancelled).getD false } := by
  obtain ⟨rest, hfold, hlen, hrest⟩ := getElem?_foldl_markNode t ts.nodes.toList #[]
  have hnodes : (ts.cancel t).nodes = rest.toArray := by
    simp only [cancel, ← Array.foldl_toList, hfold]
    simp
  have hsize : s < rest.length := by
    rw [hlen, Array.length_toList]
    exact (Array.getElem?_eq_some_iff.mp hs).1
  have hmark := hrest s node (by simpa [node?] using hs)
  have hprefix : (rest.take s).length = s := by
    rw [List.length_take]
    exact Nat.min_eq_left (Nat.le_of_lt hsize)
  simp only [node?, hnodes, List.getElem?_toArray, hmark, markNode, Array.empty_append, List.size_toArray, hprefix]
  cases hp : node.parent with
  | none => simp
  | some p =>
    have hlt : p < s := h.parent_lt hs hp
    simp [isCancelled, hnodes, hlt]

theorem isCancelled_cancel_of_isCancelled {ts : Tokens} (h : ts.WellFormed) (t : Token) {s : Token}
    (hs : ts.isCancelled s = true) : (ts.cancel t).isCancelled s = true := by
  cases hn : ts.node? s with
  | none => simp [isCancelled, Array.getElem?_eq_none_iff.mp hn] at hs
  | some node =>
    rw [isCancelled_of_node hn] at hs
    rw [isCancelled_of_node (node?_cancel h t hn)]
    simp [hs]

theorem isCancelled_cancel_of_below {ts : Tokens} (h : ts.WellFormed) {t s : Token} (ht : t < ts.nodes.size)
    (hs : ts.Below t s) : (ts.cancel t).isCancelled s = true := by
  induction hs with
  | self =>
    have hn : ts.node? t = some ts.nodes[t] := Array.getElem?_eq_getElem ht
    rw [isCancelled_of_node (node?_cancel h t hn)]
    simp
  | step hn hp _ ih =>
    rw [isCancelled_of_node (node?_cancel h t hn)]
    simp [hp, ih]

theorem isCancelled_cancel_of_not_below {ts : Tokens} (h : ts.WellFormed) {t s : Token} (hs : ¬ ts.Below t s) :
    (ts.cancel t).isCancelled s = ts.isCancelled s := by
  induction s using Nat.strongRecOn with
  | ind s ih =>
    cases hn : ts.node? s with
    | none =>
      have hsize : ts.nodes.size ≤ s := Array.getElem?_eq_none_iff.mp hn
      simp [isCancelled, hsize]
    | some node =>
      have hne : s ≠ t := fun he => hs (he ▸ .self)
      rw [isCancelled_of_node (node?_cancel h t hn), isCancelled_of_node hn]
      cases hp : node.parent with
      | none => simp [hne]
      | some p =>
        have hbelow : ¬ ts.Below t p := fun hb => hs (.step hn hp hb)
        rw [Option.map_some, Option.getD_some, ih p (h.parent_lt hn hp) hbelow]
        have habove := h.cancelled_below hn hp
        cases hc : ts.isCancelled p <;> simp_all

theorem isCancelled_cancel_iff {ts : Tokens} (h : ts.WellFormed) {t s : Token} (ht : t < ts.nodes.size) :
    (ts.cancel t).isCancelled s = true ↔ ts.isCancelled s = true ∨ ts.Below t s := by
  by_cases hs : ts.Below t s
  · simp [hs, isCancelled_cancel_of_below h ht hs]
  · simp [hs, isCancelled_cancel_of_not_below h hs]

theorem wellFormed_cancel {ts : Tokens} (h : ts.WellFormed) (t : Token) : (ts.cancel t).WellFormed := by
  have hold : ∀ {s node}, (ts.cancel t).node? s = some node → ∃ old, ts.node? s = some old ∧
      node = { old with
        cancelled := old.cancelled || s = t || (old.parent.map (ts.cancel t).isCancelled).getD false } := by
    intro s node hn
    have hs : s < ts.nodes.size := by
      rw [← size_cancel ts t]
      exact (Array.getElem?_eq_some_iff.mp hn).1
    refine ⟨ts.nodes[s], Array.getElem?_eq_getElem hs, ?_⟩
    rw [node?_cancel h t (Array.getElem?_eq_getElem hs)] at hn
    exact (Option.some.inj hn).symm
  constructor
  · intro s node p hn hp
    obtain ⟨old, ho, rfl⟩ := hold hn
    exact h.parent_lt ho hp
  · intro s node p hn hp hc
    obtain ⟨old, -, rfl⟩ := hold hn
    simp [show old.parent = some p from hp, hc]

end Campus.Tokens
