import Campus.Proofs.Service.Check
import Campus.Proofs.Store.Rows
import Mathlib.Data.List.Nodup

/-! # Well-formed stores

Every row of a well-formed store stands under its own id or username, and has what the checks ask of it. Each change of a store keeps
it so if its payload passed its checks.
-/
namespace Campus

namespace Table

variable {κ ρ : Type} {fits : κ → ρ → Prop} {t : Table κ ρ} {k : κ} {row : ρ}

structure Keeps (fits : κ → ρ → Prop) (t : Table κ ρ) : Prop where
  distinct : (t.entries.map Prod.fst).Nodup
  fits : ∀ e ∈ t.entries, fits e.1 e.2

theorem keeps_empty : (empty : Table κ ρ).Keeps fits := ⟨List.nodup_nil, by simp [empty]⟩

/-- Rows that are taken away leave the others as they are. -/
theorem Keeps.filter_entries (h : t.Keeps fits) (keep : κ × ρ → Bool) : Keeps fits ⟨t.entries.filter keep⟩ where
  distinct := h.distinct.sublist (List.filter_sublist.map Prod.fst)
  fits e he := h.fits e (List.mem_filter.mp he).1

variable [DecidableEq κ]

theorem isSome_get?_iff : (t.get? k).isSome = true ↔ k ∈ t.entries.map Prod.fst := by
  simp [Table.get?, List.find?_isSome]

theorem Keeps.get? (h : t.Keeps fits) (hrow : t.get? k = some row) : fits k row := by
  obtain ⟨e, hfind, rfl⟩ := Option.map_eq_some_iff.mp hrow
  have hkey : e.1 = k := by simpa using List.find?_some hfind
  exact hkey ▸ h.fits e (List.mem_of_find?_eq_some hfind)

theorem Keeps.put (h : t.Keeps fits) (hrow : fits k row) : (t.put k row).Keeps fits := by
  unfold Table.put
  split
  case isTrue =>
    have hkeys : (t.entries.map fun e => if e.1 = k then (k, row) else e).map Prod.fst = t.entries.map Prod.fst := by
      rw [List.map_map]
      refine List.map_congr_left fun e he => ?_
      by_cases hkey : e.1 = k <;> simp [hkey]
    refine ⟨hkeys ▸ h.distinct, fun e he => ?_⟩
    obtain ⟨old, hold, rfl⟩ := List.mem_map.mp he
    by_cases hkey : old.1 = k
    · rw [if_pos hkey]
      exact hrow
    · rw [if_neg hkey]
      exact h.fits old hold
  case isFalse hnew =>
    have hfresh : k ∉ t.entries.map Prod.fst := fun hk => hnew (isSome_get?_iff.mpr hk)
    constructor
    · rw [List.map_append]
      exact List.Nodup.append h.distinct (List.nodup_singleton k) (List.disjoint_singleton.mpr hfresh)
    · intro e he
      rcases List.mem_append.mp he with hold | hnew
      · exact h.fits e hold
      · obtain rfl := List.mem_singleton.mp hnew
        exact hrow

theorem Keeps.modify {f : ρ → ρ} (h : t.Keeps fits) (hf : ∀ old, fits k old → fits k (f old)) :
    (t.modify k f).2.Keeps fits := by
  unfold Table.modify
  split
  case h_1 old hold => exact h.put (hf old (h.get? hold))
  case h_2 => exact h

end Table

/-! ## Rows as they are kept -/

structure Student.Valid (s : Student) : Prop where
  named : Text.Legible s.fullname
  lowest : 0 ≤ s.grade
  highest : s.grade ≤ 11

structure Account.Valid (a : Account) : Prop where
  known : IsUsername a.username
  named : Text.Legible a.fullName
  reached : IsAddress a.email

theorem NewStudent.Valid.toStudent {p : NewStudent} (h : p.Valid) (id : Int64) : (p.toStudent id).Valid :=
  ⟨h.named, h.lowest, h.highest⟩

/-- An update that passes its checks leaves an account valid: what it names is valid, and the rest was. -/
theorem AccountUpdate.Valid.apply {u : AccountUpdate} {a : Account} (hu : u.Valid) (ha : a.Valid) : (u.apply a).Valid := by
  obtain ⟨name, address⟩ := u
  refine ⟨ha.known, ?_, ?_⟩
  · cases name with
    | none => exact ha.named
    | some n => exact hu.named n rfl
  · cases address with
    | none => exact ha.reached
    | some e => exact hu.reached e rfl

namespace Store

/-- Every row stands under its own id or username, and has what the checks ask of it. -/
structure WellFormed (s : Store) : Prop where
  students : s.students.Keeps fun id row => row.id = id ∧ row.Valid
  courses : s.courses.Keeps fun id row => row.id = id ∧ Text.Legible row.name
  enrollments : s.enrollments.Keeps fun id row => row.id = id ∧ 0 < row.courseId
  accounts : s.accounts.Keeps fun name row => row.username = name ∧ row.Valid

theorem wellFormed_empty : empty.WellFormed :=
  ⟨Table.keeps_empty, Table.keeps_empty, Table.keeps_empty, Table.keeps_empty⟩

namespace WellFormed

variable {s : Store}

/-! ## Changes of a store -/

theorem createStudent (h : s.WellFormed) {p : NewStudent} (hp : p.Valid) : (s.createStudent p).2.WellFormed :=
  { h with students := h.students.put ⟨rfl, hp.toStudent s.nextStudent⟩ }

theorem updateStudent (h : s.WellFormed) {p : NewStudent} (hp : p.Valid) (id : Int64) : (s.updateStudent id p).2.WellFormed :=
  { h with students := h.students.modify fun _ _ => ⟨rfl, hp.toStudent id⟩ }

theorem deleteStudent (h : s.WellFormed) (id : Int64) : (s.deleteStudent id).2.WellFormed := by
  unfold Store.deleteStudent
  split
  case isTrue =>
    exact { h with students := h.students.filter_entries _, enrollments := h.enrollments.filter_entries _ }
  case isFalse => exact h

theorem createEnrollment (h : s.WellFormed) {course : Int64} (hcourse : 0 < course) (student : Int64) (wall : Moment) :
    (s.createEnrollment student course wall).2.WellFormed :=
  { h with enrollments := h.enrollments.put ⟨rfl, hcourse⟩ }

theorem createCourse (h : s.WellFormed) {p : NewCourse} (hp : Text.Legible p.name) : (s.createCourse p).2.WellFormed :=
  { h with courses := h.courses.put ⟨rfl, hp⟩ }

theorem updateCourse (h : s.WellFormed) {p : NewCourse} (hp : Text.Legible p.name) (id : Int64) :
    (s.updateCourse id p).2.WellFormed :=
  { h with courses := h.courses.modify fun _ hold => ⟨hold.1, hp⟩ }

theorem deleteCourse (h : s.WellFormed) (id : Int64) : (s.deleteCourse id).2.WellFormed := by
  unfold Store.deleteCourse
  split
  case isTrue => exact { h with courses := h.courses.filter_entries _ }
  case isFalse => exact h

theorem createAccount (h : s.WellFormed) {p : NewAccount} (hp : p.Valid) (wall : Moment) :
    (s.createAccount p wall).2.WellFormed := by
  unfold Store.createAccount
  split
  case h_1 => exact h
  case h_2 => exact { h with accounts := h.accounts.put ⟨rfl, hp.known, hp.named, hp.reached⟩ }

theorem updateAccount (h : s.WellFormed) {u : AccountUpdate} (hu : u.Valid) (name : String) :
    (s.updateAccount name u).2.WellFormed :=
  { h with accounts := h.accounts.modify fun _ hold => ⟨hold.1, hu.apply hold.2⟩ }

end WellFormed

end Store

end Campus
