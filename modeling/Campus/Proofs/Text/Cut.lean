import Campus.Text.Cut

/-! # Texts that are cut

The parts of a text hold no mark, and a text without the mark is a part of its own, whether it is the whole text or the mark stands
behind it.
-/
namespace Campus.Text

variable {mark : Char}

@[simp] theorem cut_nil (mark : Char) : cut mark [] = [[]] := rfl

@[simp] theorem cut_mark (mark : Char) (cs : List Char) : cut mark (mark :: cs) = [] :: cut mark cs := if_pos rfl

/-- A character that is not the mark belongs to the first part. -/
theorem cut_cons {c : Char} (hc : c ≠ mark) (cs : List Char) : ∃ part rest, cut mark cs = part :: rest ∧
    cut mark (c :: cs) = (c :: part) :: rest := by
  have hne : cut mark cs ≠ [] := by
    cases cs with
    | nil => simp
    | cons d cs =>
      unfold cut
      rw [List.foldr_cons]
      split
      case isTrue => simp
      case isFalse => split <;> simp
  obtain ⟨part, rest, hcut⟩ := List.exists_cons_of_ne_nil hne
  refine ⟨part, rest, hcut, ?_⟩
  unfold cut at hcut ⊢
  rw [List.foldr_cons, if_neg hc, hcut]

theorem mark_notMem_cut {cs part : List Char} (h : part ∈ cut mark cs) : mark ∉ part := by
  induction cs generalizing part with
  | nil =>
    obtain rfl := List.mem_singleton.mp h
    exact List.not_mem_nil
  | cons c cs ih =>
    by_cases hc : c = mark
    · rw [hc, cut_mark] at h
      rcases List.mem_cons.mp h with rfl | hrest
      · exact List.not_mem_nil
      · exact ih hrest
    · obtain ⟨first, rest, hcut, hcons⟩ := cut_cons hc cs
      rw [hcons] at h
      rw [hcut] at ih
      rcases List.mem_cons.mp h with rfl | hrest
      · exact List.not_mem_cons_of_ne_of_not_mem (Ne.symm hc) (ih (List.mem_cons_self ..))
      · exact ih (List.mem_cons_of_mem first hrest)

/-- A text without the mark stays whole in front of a text whose first part is empty. -/
theorem cut_front {cs rest : List Char} {parts : List (List Char)} (h : mark ∉ cs) (hrest : cut mark rest = [] :: parts) :
    cut mark (cs ++ rest) = cs :: parts := by
  induction cs with
  | nil => exact hrest
  | cons c cs ih =>
    obtain ⟨hc, hcs⟩ := not_or.mp (mt List.mem_cons.mpr h)
    obtain ⟨part, parts', hcut, hcons⟩ := cut_cons (Ne.symm hc) (cs ++ rest)
    rw [ih hcs] at hcut
    obtain ⟨rfl, rfl⟩ := List.cons.inj hcut
    exact hcons

end Campus.Text
