import Campus.Store

/-! # Rows of a store

What a change of a table does to the row under each key and to the rows as a whole, and from this what each change of a store
does to students and their enrollments. No change but the creation of an enrollment leaves an enrollment whose student is gone.
-/
namespace Campus

namespace Table

variable {κ ρ : Type} [DecidableEq κ] {t : Table κ ρ} {k k' : κ} {row r : ρ}

omit [DecidableEq κ] in
theorem rows_sorted (key : ρ → Int64) (rows : List ρ) :
    (rows.mergeSort fun a b => key a ≤ key b).Pairwise fun a b => key a ≤ key b := by
  have htrans : ∀ a b c : ρ, decide (key a ≤ key b) = true → decide (key b ≤ key c) = true → decide (key a ≤ key c) = true := by
    intro a b c hab hbc
    exact decide_eq_true (Int64.le_trans (of_decide_eq_true hab) (of_decide_eq_true hbc))
  have htotal : ∀ a b : ρ, (decide (key a ≤ key b) || decide (key b ≤ key a)) = true := by
    intro a b
    simpa using Int64.le_total (key a) (key b)
  exact (List.pairwise_mergeSort htrans htotal rows).imp of_decide_eq_true

theorem get?_put (t : Table κ ρ) (k : κ) (row : ρ) (k' : κ) :
    (t.put k row).get? k' = if k' = k then some row else t.get? k' := by
  unfold put
  split
  case isTrue h =>
    have hkey : ∀ e : κ × ρ, (if e.1 = k then (k, row) else e).1 = e.1 := by
      intro e
      split
      case isTrue he => exact he.symm
      case isFalse => rfl
    simp only [get?, List.find?_map, Function.comp_def, hkey, Option.map_map]
    cases hfind : t.entries.find? fun e => e.1 = k' with
    | none =>
      by_cases hk : k' = k
      · simp [get?, ← hk, hfind] at h
      · simp [hk]
    | some e =>
      have he : e.1 = k' := by simpa using List.find?_some hfind
      by_cases hk : k' = k <;> simp [he, hk]
  case isFalse h =>
    by_cases hk : k' = k
    · have hget : t.get? k = none := by simpa using h
      have hnone := Option.map_eq_none_iff.mp hget
      simp [get?, hk, List.find?_append, hnone]
    · simp [get?, hk, List.find?_append, Ne.symm hk]

theorem get?_erase (t : Table κ ρ) (k k' : κ) : (t.erase k).get? k' = if k' = k then none else t.get? k' := by
  by_cases hk : k' = k
  · simp [get?, erase, List.find?_filter, hk]
  · have hsame : (fun e : κ × ρ => decide (decide (e.1 ≠ k) = true ∧ decide (e.1 = k') = true)) = fun e => decide (e.1 = k') := by
      funext e
      by_cases he : e.1 = k' <;> simp [he, hk]
    simp only [get?, erase, List.find?_filter, hsame, if_neg hk]

theorem mem_rows_put (h : r ∈ (t.put k row).rows) : r = row ∨ r ∈ t.rows := by
  unfold put at h
  split at h
  case isTrue =>
    obtain ⟨e, he, hr⟩ := List.mem_map.mp h
    obtain ⟨old, hold, rfl⟩ := List.mem_map.mp he
    by_cases hkey : old.1 = k
    · left
      simpa [hkey] using hr.symm
    · right
      simp only [hkey, if_false] at hr
      exact List.mem_map.mpr ⟨old, hold, hr⟩
  case isFalse =>
    simpa [rows, or_comm] using h

theorem mem_rows_put_self : row ∈ (t.put k row).rows := by
  unfold put
  split
  case isTrue h =>
    obtain ⟨old, hold⟩ := Option.isSome_iff_exists.mp h
    obtain ⟨e, hfind, -⟩ := Option.map_eq_some_iff.mp hold
    have hkey : e.1 = k := by simpa using List.find?_some hfind
    exact List.mem_map.mpr ⟨(k, row), List.mem_map.mpr ⟨e, List.mem_of_find?_eq_some hfind, by simp [hkey]⟩, rfl⟩
  case isFalse => simp [rows]

omit [DecidableEq κ] in
theorem mem_rows_filter {keep : ρ → Bool} : r ∈ (t.filter keep).rows ↔ r ∈ t.rows ∧ keep r = true := by
  simp only [rows, filter, List.mem_map, List.mem_filter]
  constructor
  · rintro ⟨e, ⟨he, hkeep⟩, rfl⟩
    exact ⟨⟨e, he, rfl⟩, hkeep⟩
  · rintro ⟨⟨e, he, rfl⟩, hkeep⟩
    exact ⟨e, ⟨he, hkeep⟩, rfl⟩

theorem get?_modify (t : Table κ ρ) (k : κ) (f : ρ → ρ) (k' : κ) :
    (t.modify k f).2.get? k' = if k' = k then (t.get? k).map f else t.get? k' := by
  unfold modify
  cases h : t.get? k with
  | none =>
    by_cases hk : k' = k
    · simp [hk, h]
    · simp [hk]
  | some old =>
    rw [get?_put]
    by_cases hk : k' = k
    · simp [hk]
    · simp [hk]

end Table

namespace Store

def Keyed (s : Store) : Prop := ∀ k row, s.student? k = some row → row.id = k

/-- A change after which no enrollment is new, and each that is left still has its student if it had one. -/
structure Respects (s s' : Store) : Prop where
  keyed : s.Keyed → s'.Keyed
  rows : ∀ e ∈ s'.enrollments.rows, e ∈ s.enrollments.rows
  students : ∀ e ∈ s'.enrollments.rows, (s.student? e.studentId).isSome = true → (s'.student? e.studentId).isSome = true

variable (s : Store) (id k : Int64) (payload : NewStudent)

theorem student?_createStudent : (s.createStudent payload).2.student? k =
    if k = s.nextStudent then some (payload.toStudent s.nextStudent) else s.student? k :=
  Table.get?_put s.students s.nextStudent _ k

theorem student?_updateStudent : (s.updateStudent id payload).2.student? k =
    if k = id then (s.student? id).map fun _ => payload.toStudent id else s.student? k :=
  Table.get?_modify s.students id _ k

theorem student?_deleteStudent : (s.deleteStudent id).2.student? k = if k = id then none else s.student? k := by
  unfold deleteStudent
  split
  case isTrue => exact Table.get?_erase s.students id k
  case isFalse h =>
    by_cases hk : k = id
    · have hnone : s.student? id = none := by simpa using h
      simp [hk, hnone]
    · simp [hk]

theorem ne_of_mem_deleteStudent (h : (s.student? id).isSome = true) {e : Enrollment}
    (he : e ∈ (s.deleteStudent id).2.enrollments.rows) : e ∈ s.enrollments.rows ∧ e.studentId ≠ id := by
  rw [deleteStudent, if_pos h] at he
  simpa using Table.mem_rows_filter.mp he

theorem keyed_empty : empty.Keyed := by
  intro k row h
  simp [empty, student?, Table.empty, Table.get?] at h

variable {s}

theorem keyed_createStudent (h : s.Keyed) : (s.createStudent payload).2.Keyed := by
  intro k row hrow
  rw [student?_createStudent] at hrow
  by_cases hk : k = s.nextStudent
  · obtain rfl : payload.toStudent s.nextStudent = row := by simpa [hk] using hrow
    exact hk.symm
  · exact h k row (by simpa [hk] using hrow)

theorem keyed_updateStudent (h : s.Keyed) : (s.updateStudent id payload).2.Keyed := by
  intro k row hrow
  rw [student?_updateStudent] at hrow
  by_cases hk : k = id
  · simp only [hk, if_true, Option.map_eq_some_iff] at hrow
    obtain ⟨old, -, rfl⟩ := hrow
    exact hk.symm
  · exact h k row (by simpa [hk] using hrow)

theorem keyed_deleteStudent (h : s.Keyed) : (s.deleteStudent id).2.Keyed := by
  intro k row hrow
  rw [student?_deleteStudent] at hrow
  by_cases hk : k = id
  · simp [hk] at hrow
  · exact h k row (by simpa [hk] using hrow)

variable (s)

theorem respects_refl : s.Respects s := ⟨id, fun _ he => he, fun _ _ h => h⟩

theorem respects_createStudent : s.Respects (s.createStudent payload).2 where
  keyed h := keyed_createStudent payload h
  rows e he := he
  students e _ h := by
    rw [student?_createStudent]
    by_cases hk : e.studentId = s.nextStudent <;> simp [hk, h]

theorem respects_updateStudent : s.Respects (s.updateStudent id payload).2 where
  keyed h := keyed_updateStudent id payload h
  rows e he := he
  students e _ h := by
    rw [student?_updateStudent]
    by_cases hk : e.studentId = id
    · rw [hk] at h
      simpa [hk] using h
    · simpa [hk] using h

theorem respects_deleteStudent : s.Respects (s.deleteStudent id).2 := by
  by_cases hid : (s.student? id).isSome = true
  · constructor
    · exact keyed_deleteStudent id
    · intro e he
      exact (s.ne_of_mem_deleteStudent id hid he).1
    · intro e he h
      rw [student?_deleteStudent, if_neg (s.ne_of_mem_deleteStudent id hid he).2]
      exact h
  · rw [deleteStudent, if_neg hid]
    exact s.respects_refl

end Store

end Campus
