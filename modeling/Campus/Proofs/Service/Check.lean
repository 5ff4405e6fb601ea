import Campus.Service.Check
import Mathlib.Data.List.TakeDrop
import Mathlib.Data.List.TakeWhile

/-! # What passes a check

The payloads that pass each check, told apart by what they hold: texts with something to read in them, grades and course numbers
within bounds, account names of a few plain characters, addresses with text on both sides of their first `@`.
-/
namespace Campus

def Text.Legible (s : String) : Prop := ∃ c ∈ s.toList, isBlank c = false

/-- A name of 3 to 32 characters, all of them small letters, digits or underscores. -/
structure IsUsername (name : String) : Prop where
  long : 3 ≤ name.length
  short : name.length ≤ 32
  plain : ∀ c ∈ name.toList, ('a' ≤ c ∧ c ≤ 'z') ∨ ('0' ≤ c ∧ c ≤ '9') ∨ c = '_'

def IsAddress (address : String) : Prop :=
  ∃ name host, address.toList = name ++ '@' :: host ∧ '@' ∉ name ∧ name ≠ [] ∧ host ≠ []

structure NewStudent.Valid (p : NewStudent) : Prop where
  named : Text.Legible p.fullname
  lowest : 0 ≤ p.grade
  highest : p.grade ≤ 11

structure NewAccount.Valid (p : NewAccount) : Prop where
  known : IsUsername p.username
  named : Text.Legible p.fullName
  reached : IsAddress p.email

structure AccountUpdate.Valid (u : AccountUpdate) : Prop where
  named : ∀ name, u.fullName = some name → Text.Legible name
  reached : ∀ address, u.email = some address → IsAddress address

theorem Text.isBlankText_eq_false {s : String} : isBlankText s = false ↔ Legible s := by
  simp [isBlankText, Legible]

/-! ## Account names -/

theorem isUsernameChar_iff {c : Char} :
    isUsernameChar c = true ↔ ('a' ≤ c ∧ c ≤ 'z') ∨ ('0' ≤ c ∧ c ≤ '9') ∨ c = '_' := by
  have hlower : c.isLower = (decide ('a' ≤ c) && decide (c ≤ 'z')) := rfl
  have hdigit : c.isDigit = (decide ('0' ≤ c) && decide (c ≤ '9')) := rfl
  simp [isUsernameChar, hlower, hdigit, or_assoc]

theorem utf8Size_of_isUsernameChar {c : Char} (h : isUsernameChar c = true) : c.utf8Size = 1 := by
  have hle : c ≤ 'z' := by
    rcases isUsernameChar_iff.mp h with ⟨-, hz⟩ | ⟨-, h9⟩ | rfl
    · exact hz
    · exact Char.le_trans h9 (by decide)
    · decide
  exact Char.utf8Size_eq_one_iff.mpr (UInt32.le_trans hle (by decide))

/-- A text of plain characters has as many bytes as characters. -/
theorem utf8ByteSize_of_plain {cs : List Char} (h : ∀ c ∈ cs, isUsernameChar c = true) :
    (String.ofList cs).utf8ByteSize = cs.length := by
  induction cs with
  | nil => rfl
  | cons c cs ih =>
    have hsplit : String.ofList (c :: cs) = String.singleton c ++ String.ofList cs := by
      rw [String.singleton_eq_ofList, ← String.ofList_append, List.singleton_append]
    rw [hsplit, String.utf8ByteSize_append, String.utf8ByteSize_singleton, utf8Size_of_isUsernameChar (h c (by simp)),
      ih fun d hd => h d (List.mem_cons_of_mem c hd), List.length_cons, Nat.add_comm]

/-- A check that counts bytes counts characters, for it lets only characters of one byte pass. -/
theorem checkUsername_ok_iff {name : String} : checkUsername name = .ok () ↔ IsUsername name := by
  have hsize (h : ∀ c ∈ name.toList, isUsernameChar c = true) : name.utf8ByteSize = name.length := by
    have hcount := utf8ByteSize_of_plain h
    rwa [String.ofList_toList, String.length_toList] at hcount
  unfold checkUsername
  constructor
  · intro h
    split at h
    case isTrue => cases h
    case isFalse hlength =>
      split at h
      case isFalse => cases h
      case isTrue hchars =>
        have hplain := List.all_eq_true.mp hchars
        rw [hsize hplain] at hlength
        exact ⟨by omega, by omega, fun c hc => isUsernameChar_iff.mp (hplain c hc)⟩
  · intro h
    have hplain : ∀ c ∈ name.toList, isUsernameChar c = true := fun c hc => isUsernameChar_iff.mpr (h.plain c hc)
    have hlong := h.long
    have hshort := h.short
    rw [hsize hplain, if_neg (by omega), if_pos (List.all_eq_true.mpr hplain)]

namespace Check

/-! ## Addresses -/

theorem isAddress_iff {address : String} : isAddress address.toList = true ↔ IsAddress address := by
  generalize hcs : address.toList = cs
  have hspan : cs.span (· ≠ '@') = (cs.takeWhile (· ≠ '@'), cs.dropWhile (· ≠ '@')) := List.span_eq_takeWhile_dropWhile _ _
  have hjoin : cs.takeWhile (· ≠ '@') ++ cs.dropWhile (· ≠ '@') = cs := List.takeWhile_append_dropWhile
  have hfront : '@' ∉ cs.takeWhile (· ≠ '@') := fun h => by simpa using List.mem_takeWhile_imp h
  unfold isAddress
  constructor
  · intro h
    split at h
    case h_1 c name d e host hparts =>
      rw [hspan, Prod.mk.injEq] at hparts
      obtain ⟨hname, hhost⟩ := hparts
      have hmark : d = '@' := by
        have hd := List.head?_dropWhile_not (fun c => decide (c ≠ '@')) cs
        rw [hhost] at hd
        simpa using hd
      rw [hname, hhost, hmark] at hjoin
      rw [hname] at hfront
      exact ⟨c :: name, e :: host, by rw [hcs, hjoin], hfront, by simp, by simp⟩
    case h_2 => cases h
  · rintro ⟨name, host, hparts, hmark, hname, hhost⟩
    rw [hcs] at hparts
    have hall : ∀ c ∈ name, decide (c ≠ '@') = true := by
      intro c hc
      simpa using fun h : c = '@' => hmark (h ▸ hc)
    obtain ⟨c, name, rfl⟩ := List.exists_cons_of_ne_nil hname
    obtain ⟨e, host, rfl⟩ := List.exists_cons_of_ne_nil hhost
    rw [hspan, hparts, List.takeWhile_append_of_pos hall, List.dropWhile_append_of_pos hall]
    simp

/-! ## The checks -/

theorem andThen_ok {α : Type} {first : Except Fault Unit} {second : Except Fault α} {a : α} :
    (do first; second) = .ok a ↔ first = .ok () ∧ second = .ok a := by
  cases first with
  | error fault => exact iff_of_false (fun h => by cases h) (fun h => by cases h.1)
  | ok checked => exact ⟨fun h => ⟨rfl, h⟩, fun h => h.2⟩

theorem student_ok {p : NewStudent} : student p = .ok () ↔ p.Valid := by
  unfold student
  constructor
  · intro h
    split at h
    case isTrue => cases h
    case isFalse hname =>
      split at h
      case isFalse => cases h
      case isTrue hgrade => exact ⟨Text.isBlankText_eq_false.mp (by simpa using hname), hgrade.1, hgrade.2⟩
  · intro h
    have hgrade : 0 ≤ p.grade ∧ p.grade ≤ maxGrade := ⟨h.lowest, h.highest⟩
    rw [Text.isBlankText_eq_false.mpr h.named, if_neg (by simp), if_pos hgrade]

theorem course_ok {p : NewCourse} : course p = .ok () ↔ Text.Legible p.name := by
  rw [← Text.isBlankText_eq_false, course]
  cases Text.isBlankText p.name <;> simp

theorem enrollment_ok {p : NewEnrollment} : enrollment p = .ok () ↔ 0 < p.courseId := by
  rw [← Int64.not_le, enrollment]
  by_cases h : p.courseId ≤ 0 <;> simp [h]

theorem username_ok {name : String} : username name = .ok () ↔ IsUsername name := by
  rw [← checkUsername_ok_iff, username]
  cases checkUsername name <;> simp

theorem fullName_ok {name : String} : fullName name = .ok () ↔ Text.Legible name := by
  rw [← Text.isBlankText_eq_false, fullName]
  cases Text.isBlankText name <;> simp

theorem email_ok {address : String} : email address = .ok () ↔ IsAddress address := by
  rw [← isAddress_iff, email]
  cases isAddress address.toList <;> simp

theorem account_ok {p : NewAccount} : account p = .ok () ↔ p.Valid := by
  rw [account, andThen_ok, andThen_ok, username_ok, fullName_ok, email_ok]
  exact ⟨fun h => ⟨h.1, h.2.1, h.2.2⟩, fun h => ⟨h.known, h.named, h.reached⟩⟩

theorem update_ok {u : AccountUpdate} : update u = .ok () ↔ u.Valid := by
  obtain ⟨name, address⟩ := u
  have hvalid : AccountUpdate.Valid ⟨name, address⟩ ↔
      (∀ n, name = some n → Text.Legible n) ∧ ∀ a, address = some a → IsAddress a :=
    ⟨fun h => ⟨h.named, h.reached⟩, fun h => ⟨h.1, h.2⟩⟩
  rw [hvalid, update]
  cases name with
  | none => cases address <;> simp [email_ok, pure, Except.pure]
  | some n =>
    dsimp only
    rw [andThen_ok]
    cases address <;> simp [fullName_ok, email_ok, pure, Except.pure]

end Check

end Campus
