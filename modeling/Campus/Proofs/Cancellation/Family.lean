import Campus.Proofs.Cancellation.Tree

/-! # Families of contexts

Contexts that are derived from one root, while some of them are cancelled. A member of a family has a line: the derivations with a token
of their own that lead to it. A context for another method has the line of its source, since it shares the token; a child has a line
that goes on from the line of its source. A member reads cancelled exactly when its line goes on from, or is, the line of one that
was cancelled, whatever came first.
-/
namespace Campus

namespace Tokens

variable {ts ts' : Tokens} {r s t : Token}

/-! ## What lies below what -/

theorem Below.antisymm (h : ts.WellFormed) (hrs : ts.Below r s) (hsr : ts.Below s r) : r = s :=
  Nat.le_antisymm (hrs.le h) (hsr.le h)

/-- A token lies below what the one above it lies below, and nothing else. -/
theorem below_iff_of_parent (r : Token) {node : TokenNode} {p : Token} (hs : ts.node? s = some node)
    (hp : node.parent = some p) :
    ts.Below r s ↔ r = s ∨ ts.Below r p := by
  constructor
  · intro h
    cases h with
    | self => exact .inl rfl
    | step hs' hp' h =>
      obtain rfl := Option.some.inj (hs.symm.trans hs')
      obtain rfl := Option.some.inj (hp.symm.trans hp')
      exact .inr h
  · rintro (rfl | h)
    · exact .self
    · exact .step hs hp h

/-- A new token changes nothing for those in front of it. -/
theorem below_child_iff_of_lt (h : ts.WellFormed) (hs : s < ts.nodes.size) (t : Token) :
    (ts.child t).1.Below r s ↔ ts.Below r s := by
  have hnode {u : Token} (hu : u < ts.nodes.size) : (ts.child t).1.node? u = ts.node? u := node?_child_of_lt hu t
  constructor
  · intro hb
    induction hb with
    | self => exact .self
    | step hn hp _ ih =>
      rw [hnode hs] at hn
      exact .step hn hp (ih (Nat.lt_trans (h.parent_lt hn hp) hs))
  · intro hb
    induction hb with
    | self => exact .self
    | step hn hp _ ih => exact .step ((hnode hs).trans hn) hp (ih (Nat.lt_trans (h.parent_lt hn hp) hs))

theorem below_cancel_iff (h : ts.WellFormed) (t : Token) : (ts.cancel t).Below r s ↔ ts.Below r s := by
  constructor
  · intro hb
    induction hb with
    | self => exact .self
    | @step u p node hn hp _ ih =>
      have hu : u < ts.nodes.size := size_cancel ts t ▸ (Array.getElem?_eq_some_iff.mp hn).1
      have hold : ts.node? u = some ts.nodes[u] := Array.getElem?_eq_getElem hu
      rw [node?_cancel h t hold] at hn
      obtain rfl := Option.some.inj hn
      exact .step hold hp ih
  · intro hb
    induction hb with
    | self => exact .self
    | step hn hp _ ih => exact .step (node?_cancel h t hn) hp ih

end Tokens

/-! ## Families -/

/-- A context of a family. Its line names the children on the way to it, each by its place in the family. -/
structure Member where
  context : Context
  line : List Nat

/-- All contexts that were derived so far, the root first, and the lines of those that were cancelled. -/
structure Family where
  tokens : Tokens
  members : List Member
  cancelled : List (List Nat)

inductive Family.Act where
  | child
  | forMethod (method : String)
  | cancel

namespace Family

def ofRoot (root : Context) : Family := ⟨.fresh, [⟨root, []⟩], []⟩

def offspring (f : Family) (m : Member) : Member :=
  ⟨(m.context.child f.tokens).2, m.line ++ [f.members.length]⟩

def act (f : Family) (m : Member) : Act → Family
  | .child => { f with tokens := (m.context.child f.tokens).1, members := f.members ++ [f.offspring m] }
  | .forMethod method => { f with members := f.members ++ [⟨m.context.forMethod method, m.line⟩] }
  | .cancel => { f with tokens := f.tokens.cancel m.context.token, cancelled := m.line :: f.cancelled }

/-- One step of the life of a family: the place of a member, and what is done with it. Nothing is done where there is nobody. -/
def step (f : Family) (s : Nat × Act) : Family :=
  match f.members[s.1]? with
  | some m => f.act m s.2
  | none => f

def after (f : Family) (steps : List (Nat × Act)) : Family := steps.foldl step f

/-- What a family keeps to. Lines stand to each other as tokens do. -/
structure Sound (f : Family) : Prop where
  wellFormed : f.tokens.WellFormed
  token_lt : ∀ m ∈ f.members, m.context.token < f.tokens.nodes.size
  line_lt : ∀ m ∈ f.members, ∀ i ∈ m.line, i < f.members.length
  below_iff : ∀ m ∈ f.members, ∀ m' ∈ f.members, f.tokens.Below m.context.token m'.context.token ↔ m.line <+: m'.line
  known : ∀ l ∈ f.cancelled, ∃ m ∈ f.members, m.line = l
  reads_iff : ∀ m ∈ f.members, f.tokens.isCancelled m.context.token = true ↔ ∃ l ∈ f.cancelled, l <+: m.line

theorem sound_ofRoot (root : Context) (h : root.token = Tokens.root) : (ofRoot root).Sound where
  wellFormed := Tokens.wellFormed_fresh
  token_lt := by simp [ofRoot, h, Tokens.root, Tokens.fresh]
  line_lt := by simp [ofRoot]
  below_iff := by simpa [ofRoot] using Tokens.Below.self
  known := by simp [ofRoot]
  reads_iff := by simp [ofRoot, h, Tokens.root, Tokens.fresh, Tokens.isCancelled]

variable {f : Family} {m a b : Member}

/-! ## New members -/

/-- The line of a new child is no line of the family, nor does one go on from it. -/
theorem Sound.not_prefix (h : f.Sound) (hm : m ∈ f.members) (l : List Nat) : ¬l ++ [f.members.length] <+: m.line := by
  intro hprefix
  have hmem : f.members.length ∈ m.line := hprefix.subset (by simp)
  exact Nat.lt_irrefl _ (h.line_lt m hm _ hmem)

/-- The line of a member leads to a new child exactly when it leads to its source. -/
theorem Sound.prefix_child_iff (h : f.Sound) (hm : m ∈ f.members) (l : List Nat) :
    m.line <+: l ++ [f.members.length] ↔ m.line <+: l := by
  rw [List.prefix_concat_iff, or_iff_right]
  intro heq
  exact h.not_prefix hm l (heq ▸ List.prefix_rfl)

theorem Sound.below_child_iff (h : f.Sound) (hm : m ∈ f.members) (ha : a ∈ f.members ∨ a = f.offspring m)
    (hb : b ∈ f.members ∨ b = f.offspring m) :
    (f.tokens.child m.context.token).1.Below a.context.token b.context.token ↔ a.line <+: b.line := by
  have htoken := h.token_lt m hm
  rcases hb with hb | rfl
  · have hlt := h.token_lt b hb
    rcases ha with ha | rfl
    · exact (Tokens.below_child_iff_of_lt h.wellFormed hlt _).trans (h.below_iff a ha b hb)
    · refine iff_of_false (fun hbelow => ?_) (h.not_prefix hb m.line)
      exact Nat.not_le.mpr hlt (hbelow.le (Tokens.wellFormed_child h.wellFormed htoken))
  · rcases ha with ha | rfl
    · have hne : a.context.token ≠ f.tokens.nodes.size := Nat.ne_of_lt (h.token_lt a ha)
      have hparent := Tokens.below_iff_of_parent a.context.token (Tokens.node?_child_self f.tokens m.context.token) rfl
      refine hparent.trans ((or_iff_right hne).trans ?_)
      rw [Tokens.below_child_iff_of_lt h.wellFormed htoken, h.below_iff a ha m hm]
      exact (h.prefix_child_iff ha m.line).symm
    · exact iff_of_true .self List.prefix_rfl

theorem Sound.reads_child_iff (h : f.Sound) (hm : m ∈ f.members) (ha : a ∈ f.members ∨ a = f.offspring m) :
    (f.tokens.child m.context.token).1.isCancelled a.context.token = true ↔ ∃ l ∈ f.cancelled, l <+: a.line := by
  rcases ha with ha | rfl
  · rw [← h.reads_iff a ha, Tokens.isCancelled_child_of_lt (h.token_lt a ha)]
  · have hself : (f.tokens.child m.context.token).1.isCancelled (f.offspring m).context.token = _ :=
      Tokens.isCancelled_child_self f.tokens m.context.token
    rw [hself, h.reads_iff m hm]
    refine exists_congr fun l => and_congr_right fun hl => ?_
    obtain ⟨a, ha, rfl⟩ := h.known l hl
    exact (h.prefix_child_iff ha m.line).symm

theorem mem_child : a ∈ (f.act m .child).members ↔ a ∈ f.members ∨ a = f.offspring m := by
  simp [act]

theorem Sound.child (h : f.Sound) (hm : m ∈ f.members) : (f.act m .child).Sound where
  wellFormed := Tokens.wellFormed_child h.wellFormed (h.token_lt m hm)
  token_lt a ha := by
    rw [act, Context.child, Tokens.size_child]
    rcases mem_child.mp ha with ha | rfl
    · exact Nat.lt_succ_of_lt (h.token_lt a ha)
    · exact Nat.lt_succ_self _
  line_lt a ha j hj := by
    rw [act, List.length_append]
    rcases mem_child.mp ha with ha | rfl
    · exact Nat.lt_succ_of_lt (h.line_lt a ha j hj)
    · rcases List.mem_append.mp hj with hline | hplace
      · exact Nat.lt_succ_of_lt (h.line_lt m hm j hline)
      · rw [List.mem_singleton.mp hplace]
        exact Nat.lt_succ_self _
  below_iff a ha b hb := h.below_child_iff hm (mem_child.mp ha) (mem_child.mp hb)
  known l hl := by
    obtain ⟨a, ha, rfl⟩ := h.known l hl
    exact ⟨a, List.mem_append_left _ ha, rfl⟩
  reads_iff a ha := h.reads_child_iff hm (mem_child.mp ha)

/-- A context for another method stands where its source does. -/
theorem exists_of_mem_forMethod {method : String} (hm : m ∈ f.members) (ha : a ∈ (f.act m (.forMethod method)).members) :
    ∃ b ∈ f.members, a.context.token = b.context.token ∧ a.line = b.line := by
  rcases List.mem_append.mp ha with ha | ha
  · exact ⟨a, ha, rfl, rfl⟩
  · rw [List.mem_singleton.mp ha]
    exact ⟨m, hm, rfl, rfl⟩

theorem Sound.forMethod (h : f.Sound) (hm : m ∈ f.members) (method : String) :
    (f.act m (.forMethod method)).Sound where
  wellFormed := h.wellFormed
  token_lt a ha := by
    obtain ⟨b, hb, htoken, -⟩ := exists_of_mem_forMethod hm ha
    rw [htoken]
    exact h.token_lt b hb
  line_lt a ha j hj := by
    obtain ⟨b, hb, -, hline⟩ := exists_of_mem_forMethod hm ha
    rw [act, List.length_append]
    exact Nat.lt_succ_of_lt (h.line_lt b hb j (hline ▸ hj))
  below_iff a ha b hb := by
    obtain ⟨a', ha', htoken, hline⟩ := exists_of_mem_forMethod hm ha
    obtain ⟨b', hb', htoken', hline'⟩ := exists_of_mem_forMethod hm hb
    rw [htoken, htoken', hline, hline']
    exact h.below_iff a' ha' b' hb'
  known l hl := by
    obtain ⟨a, ha, rfl⟩ := h.known l hl
    exact ⟨a, List.mem_append_left _ ha, rfl⟩
  reads_iff a ha := by
    obtain ⟨b, hb, htoken, hline⟩ := exists_of_mem_forMethod hm ha
    rw [htoken, hline]
    exact h.reads_iff b hb

theorem Sound.cancel (h : f.Sound) (hm : m ∈ f.members) : (f.act m .cancel).Sound where
  wellFormed := Tokens.wellFormed_cancel h.wellFormed _
  token_lt a ha := by
    rw [act, Tokens.size_cancel]
    exact h.token_lt a ha
  line_lt := h.line_lt
  below_iff a ha b hb := (Tokens.below_cancel_iff h.wellFormed _).trans (h.below_iff a ha b hb)
  known l hl := by
    rcases List.mem_cons.mp hl with rfl | hl
    · exact ⟨m, hm, rfl⟩
    · exact h.known l hl
  reads_iff a ha := by
    rw [act, Tokens.isCancelled_cancel_iff h.wellFormed (h.token_lt m hm), h.reads_iff a ha, h.below_iff m hm a ha]
    simp only [List.mem_cons, exists_eq_or_imp, or_comm]

theorem Sound.step (h : f.Sound) (s : Nat × Act) : (f.step s).Sound := by
  unfold Family.step
  split
  case h_1 m hm =>
    have hmem := List.mem_of_getElem? hm
    cases s.2 with
    | child => exact h.child hmem
    | forMethod method => exact h.forMethod hmem method
    | cancel => exact h.cancel hmem
  case h_2 => exact h

theorem Sound.after (h : f.Sound) (steps : List (Nat × Act)) : (f.after steps).Sound := by
  induction steps generalizing f with
  | nil => exact h
  | cons s steps ih => exact ih (h.step s)

theorem Sound.token_eq_iff (h : f.Sound) (ha : a ∈ f.members) (hb : b ∈ f.members) :
    a.context.token = b.context.token ↔ a.line = b.line := by
  constructor
  · intro heq
    have hab := (h.below_iff a ha b hb).mp (heq ▸ .self)
    have hba := (h.below_iff b hb a ha).mp (heq ▸ .self)
    exact hab.eq_of_length (Nat.le_antisymm hab.length_le hba.length_le)
  · intro heq
    have hab := (h.below_iff a ha b hb).mpr (heq ▸ List.prefix_rfl)
    have hba := (h.below_iff b hb a ha).mpr (heq ▸ List.prefix_rfl)
    exact hab.antisymm h.wellFormed hba

/-! ## What is handed down -/

/-- A context that belongs to the same call as another, and has as much time. -/
structure SameCall (c root : Context) : Prop where
  callId : c.callId = root.callId
  service : c.service = root.service
  requestId : c.requestId = root.requestId
  deadline : c.deadline = root.deadline

theorem sameCall_step {root : Context} (h : ∀ m ∈ f.members, SameCall m.context root) (s : Nat × Act) :
    ∀ m ∈ (f.step s).members, SameCall m.context root := by
  unfold Family.step
  split
  case h_1 source hs =>
    have hsource := h source (List.mem_of_getElem? hs)
    cases s.2 with
    | child | forMethod method =>
      intro m hm
      rcases List.mem_append.mp hm with hm | hm
      · exact h m hm
      · rw [List.mem_singleton.mp hm]
        exact ⟨hsource.callId, hsource.service, hsource.requestId, hsource.deadline⟩
    | cancel => exact h
  case h_2 => exact h

theorem sameCall_after {root : Context} (h : ∀ m ∈ f.members, SameCall m.context root) (steps : List (Nat × Act)) :
    ∀ m ∈ (f.after steps).members, SameCall m.context root := by
  induction steps generalizing f with
  | nil => exact h
  | cons s steps ih => exact ih (sameCall_step h s)

/-- Cancellation follows the tree of contexts. Of all contexts that were derived from a root, in any shape and between any
cancellations, those with the same line share a token, a token lies below another exactly when the line of its context goes on from
that of the other, and a context reads cancelled exactly when one was cancelled whose line it has, or goes on from. So a child of a
cancelled context starts cancelled, and a cancelled child reaches neither its source nor other children of that. All belong to the call
of the root, and have as much time left as it at every instant. -/
theorem cancellation_follows_lines (callId : UInt64) (service method : String) (now : Instant) (timeout : Span)
    (requestId : Option String) (steps : List (Nat × Act)) :
    let root := Context.opened callId service method now timeout requestId
    let f := (ofRoot root).after steps
    ∀ m ∈ f.members,
      (f.tokens.isCancelled m.context.token = true ↔ ∃ l ∈ f.cancelled, l <+: m.line) ∧
      (∀ m' ∈ f.members, (m.context.token = m'.context.token ↔ m.line = m'.line) ∧
        (f.tokens.Below m.context.token m'.context.token ↔ m.line <+: m'.line)) ∧
      SameCall m.context root ∧ ∀ t, m.context.remaining t = root.remaining t := by
  intro root f m hm
  have hsound : f.Sound := (sound_ofRoot root rfl).after steps
  have hroot : ∀ m ∈ (ofRoot root).members, SameCall m.context root := by
    intro m hm
    rw [List.mem_singleton.mp hm]
    exact ⟨rfl, rfl, rfl, rfl⟩
  have hsame := sameCall_after hroot steps m hm
  refine ⟨hsound.reads_iff m hm, fun m' hm' => ⟨hsound.token_eq_iff hm hm', hsound.below_iff m hm m' hm'⟩, hsame,
    fun t => ?_⟩
  rw [Context.remaining, Context.remaining, hsame.deadline]

/-- The root has two children, and one of these a context for another method and a child. The former is cancelled, and then has a
child too. -/
def bereft : List (Nat × Act) :=
  [(0, .child), (0, .child), (1, .forMethod "get_course"), (1, .child), (3, .cancel), (3, .child)]

/-- The child that was made after the cancellation, below the context for another method, reads cancelled; the other child of the root
does not. -/
theorem cancellation_follows_lines_bereft :
    let root := Context.opened 7 "students" "get_student_courses" 0 5000 none
    let f := (ofRoot root).after bereft
    ∃ late ∈ f.members, ∃ other ∈ f.members, late.line = [1, 5] ∧ other.line = [2] ∧
      f.tokens.isCancelled late.context.token = true ∧ f.tokens.isCancelled other.context.token = false ∧
      late.context.remaining 2000 = 3000 := by
  intro root f
  have hcancelled : f.cancelled = [[1]] := rfl
  have hlate : f.members[5]? = some ⟨{ root with token := 4, method := "get_course" }, [1, 5]⟩ := rfl
  have hother : f.members[2]? = some ⟨{ root with token := 2 }, [2]⟩ := rfl
  obtain ⟨hreads, -, -, htime⟩ :=
    cancellation_follows_lines 7 "students" "get_student_courses" 0 5000 none bereft _ (List.mem_of_getElem? hlate)
  obtain ⟨hreads', -, -, -⟩ :=
    cancellation_follows_lines 7 "students" "get_student_courses" 0 5000 none bereft _ (List.mem_of_getElem? hother)
  refine ⟨_, List.mem_of_getElem? hlate, _, List.mem_of_getElem? hother, rfl, rfl, ?_, ?_, htime 2000⟩
  · exact hreads.mpr ⟨[1], hcancelled ▸ List.mem_singleton_self _, by decide⟩
  · rw [← Bool.not_eq_true]
    refine fun hc => absurd (hreads'.mp hc) ?_
    rintro ⟨l, hl, hprefix⟩
    have hone : l ∈ [[1]] := hl
    rw [List.mem_singleton.mp hone] at hprefix
    exact absurd hprefix (by decide)

end Family

end Campus
