import Campus.Proofs.Identifier
import Mathlib.Algebra.Ring.Int.Defs
import Mathlib.Data.List.Induction

/-! # The grammar of identifiers

Decimal numerals with a sign, given digit by digit, and what reading an identifier makes of every text: a numeral that is positive and
fits 64 bits is an identifier, one that fits but is not positive is refused with its value, and any other text is refused as it
stands. Zeros in front count for nothing, however many there are.
-/
namespace Campus

namespace Text

/-- One or more decimal digits, and the number that they stand for. -/
inductive Numeral : List Char → Nat → Prop where
  | digit {d : Nat} (hd : d < 10) : Numeral [Nat.digitChar d] d
  | append {ds : List Char} {n d : Nat} (hds : Numeral ds n) (hd : d < 10) : Numeral (ds ++ [Nat.digitChar d]) (10 * n + d)

theorem digitValue_digitChar {d : Nat} (hd : d < 10) : digitValue (Nat.digitChar d) = d :=
  Nat.toNat_digitChar_sub_48_of_lt_ten hd

theorem digitChar_digitValue {c : Char} (hc : c.isDigit = true) :
    digitValue c < 10 ∧ Nat.digitChar (digitValue c) = c := by
  obtain ⟨hlow, hhigh⟩ : 48 ≤ c.toNat ∧ c.toNat ≤ 57 := Char.isDigit_iff_toNat.mp hc
  have hlt : c.toNat - 48 < 10 := by omega
  refine ⟨hlt, Char.toNat_inj.mp ?_⟩
  exact (Nat.toNat_digitChar_of_lt_ten hlt).trans (Nat.add_sub_cancel' hlow)

@[simp] theorem digitsValue_append_singleton (ds : List Char) (c : Char) :
    digitsValue (ds ++ [c]) = 10 * digitsValue ds + digitValue c := by
  simp [digitsValue]

theorem Numeral.digits {ds : List Char} {n : Nat} (h : Numeral ds n) :
    ds ≠ [] ∧ ds.all Char.isDigit = true ∧ digitsValue ds = n := by
  induction h with
  | @digit d hd => exact ⟨List.cons_ne_nil _ _, by simp [Nat.isDigit_digitChar, hd], by simp [digitsValue, digitValue_digitChar hd]⟩
  | @append ds n d _ hd ih =>
    obtain ⟨-, hall, hvalue⟩ := ih
    exact ⟨by simp, by simp [hall, Nat.isDigit_digitChar, hd], by simp [hvalue, digitValue_digitChar hd]⟩

/-- Digits are added at the end, as in the fold that reads them. -/
theorem numeral_of_digits {ds : List Char} (hne : ds ≠ []) (hall : ds.all Char.isDigit = true) :
    Numeral ds (digitsValue ds) := by
  induction ds using List.reverseRecOn with
  | nil => exact absurd rfl hne
  | append_singleton ds c ih =>
    rw [List.all_append, Bool.and_eq_true] at hall
    obtain ⟨hlt, hchar⟩ := digitChar_digitValue (by simpa using hall.2)
    cases ds with
    | nil =>
      have hone := Numeral.digit hlt
      rw [hchar] at hone
      simpa [digitsValue] using hone
    | cons d ds =>
      have hmore := (ih (List.cons_ne_nil _ _) hall.1).append hlt
      rw [hchar] at hmore
      rw [digitsValue_append_singleton]
      exact hmore

theorem numeral_iff {ds : List Char} {n : Nat} :
    Numeral ds n ↔ (ds ≠ [] ∧ ds.all Char.isDigit = true) ∧ digitsValue ds = n := by
  constructor
  · intro h
    obtain ⟨hne, hall, hvalue⟩ := h.digits
    exact ⟨⟨hne, hall⟩, hvalue⟩
  · rintro ⟨⟨hne, hall⟩, rfl⟩
    exact numeral_of_digits hne hall

/-- A numeral behind at most one sign, and the number that it stands for. -/
inductive Whole : List Char → Int → Prop where
  | plain {ds : List Char} {n : Nat} (h : Numeral ds n) : Whole ds n
  | plus {ds : List Char} {n : Nat} (h : Numeral ds n) : Whole ('+' :: ds) n
  | minus {ds : List Char} {n : Nat} (h : Numeral ds n) : Whole ('-' :: ds) (-n)

theorem Numeral.not_sign {c : Char} {ds : List Char} {n : Nat} (h : Numeral (c :: ds) n) : c.isDigit = true := by
  have hall := h.digits.2.1
  rw [List.all_cons, Bool.and_eq_true] at hall
  exact hall.1

end Text

open Text

theorem wholeNumber?_eq_some_iff {cs : List Char} {v : Int} : wholeNumber? cs = some v ↔ Whole cs v := by
  unfold wholeNumber?
  split
  case h_1 ds =>
    rw [Option.ite_none_right_eq_some, Option.some.injEq]
    constructor
    · rintro ⟨hds, rfl⟩
      exact .minus (numeral_iff.mpr ⟨hds, rfl⟩)
    · intro h
      cases h with
      | plain h => cases h.not_sign
      | minus h => exact ⟨(numeral_iff.mp h).1, by rw [(numeral_iff.mp h).2]⟩
  case h_2 ds =>
    rw [Option.ite_none_right_eq_some, Option.some.injEq]
    constructor
    · rintro ⟨hds, rfl⟩
      exact .plus (numeral_iff.mpr ⟨hds, rfl⟩)
    · intro h
      cases h with
      | plain h => cases h.not_sign
      | plus h => exact ⟨(numeral_iff.mp h).1, by rw [(numeral_iff.mp h).2]⟩
  case h_3 hminus hplus =>
    rw [Option.ite_none_right_eq_some, Option.some.injEq]
    constructor
    · rintro ⟨hds, rfl⟩
      exact .plain (numeral_iff.mpr ⟨hds, rfl⟩)
    · intro h
      cases h with
      | plain h => exact ⟨(numeral_iff.mp h).1, by rw [(numeral_iff.mp h).2]⟩
      | @plus ds => exact absurd rfl (hplus ds)
      | @minus ds => exact absurd rfl (hminus ds)

/-! ## Every text -/

variable {s : String} {v : Int}

theorem not_whole_nil : ¬Whole [] v := by
  intro h
  cases h with
  | plain h => exact h.digits.1 rfl

def Fits (v : Int) : Prop := -2 ^ 63 ≤ v ∧ v ≤ 2 ^ 63 - 1

theorem Fits.toInt_ofInt (h : Fits v) : (Int64.ofInt v).toInt = v :=
  Int64.toInt_ofInt_of_le h.1 (Int.lt_of_le_sub_one h.2)

theorem fits_toInt (n : Int64) : Fits n.toInt := ⟨n.minValue_le_toInt, n.toInt_le⟩

theorem fits_iff : Fits v ↔ ¬(v < int64Min ∨ int64Max < v) := by
  rw [not_or, Int.not_lt, Int.not_lt]
  exact Iff.rfl

/-- Reading a text whose numeral fits depends on the sign of the number alone. -/
theorem parseIdentifier_of_whole (h : Whole s.toList v) (hv : Fits v) :
    parseIdentifier s = if v ≤ 0 then .error (.notPositive (Int64.ofInt v)) else .ok (Int64.ofInt v) := by
  have hne : s.toList ≠ [] := fun hnil => not_whole_nil (hnil ▸ h)
  rw [parseIdentifier, if_neg hne, wholeNumber?_eq_some_iff.mpr h]
  exact if_neg (fits_iff.mp hv)

/-- A text without such a numeral is refused as it stands. -/
theorem parseIdentifier_of_not_whole (hne : s ≠ "") (h : ¬∃ v, Whole s.toList v ∧ Fits v) :
    parseIdentifier s = .error (.notNumeric s) := by
  have hchars : s.toList ≠ [] := fun hnil => hne (String.toList_eq_nil_iff.mp hnil)
  rw [parseIdentifier, if_neg hchars]
  cases hwhole : wholeNumber? s.toList with
  | none => rfl
  | some v =>
    have hout : ¬Fits v := fun hv => h ⟨v, wholeNumber?_eq_some_iff.mp hwhole, hv⟩
    exact if_pos (not_not.mp (mt fits_iff.mpr hout))

inductive Reads (s : String) : Except IdentifierFault Int64 → Prop where
  | empty (h : s = "") : Reads s (.error .empty)
  | notNumeric (hne : s ≠ "") (h : ¬∃ v, Whole s.toList v ∧ Fits v) : Reads s (.error (.notNumeric s))
  | notPositive {v : Int64} (h : Whole s.toList v.toInt) (hv : v.toInt ≤ 0) : Reads s (.error (.notPositive v))
  | ok {n : Int64} (h : Whole s.toList n.toInt) (hn : 0 < n.toInt) : Reads s (.ok n)

theorem reads_parseIdentifier (s : String) : Reads s (parseIdentifier s) := by
  by_cases hempty : s = ""
  · subst hempty
    exact .empty rfl
  by_cases h : ∃ v, Whole s.toList v ∧ Fits v
  · obtain ⟨v, hv, hfits⟩ := h
    rw [parseIdentifier_of_whole hv hfits]
    rw [← hfits.toInt_ofInt] at hv
    split
    case isTrue hle => exact .notPositive hv (by rwa [hfits.toInt_ofInt])
    case isFalse hlt => exact .ok hv (by rw [hfits.toInt_ofInt]; exact Int.not_le.mp hlt)
  · rw [parseIdentifier_of_not_whole hempty h]
    exact .notNumeric hempty h

theorem Reads.eq {r : Except IdentifierFault Int64} (h : Reads s r) : parseIdentifier s = r := by
  cases h with
  | empty h => rw [h]; rfl
  | notNumeric hne h => exact parseIdentifier_of_not_whole hne h
  | @notPositive v h hv => rw [parseIdentifier_of_whole h (fits_toInt v), if_pos hv, Int64.ofInt_toInt]
  | @ok n h hn => rw [parseIdentifier_of_whole h (fits_toInt n), if_neg (Int.not_le.mpr hn), Int64.ofInt_toInt]

theorem parseIdentifier_eq_iff {r : Except IdentifierFault Int64} : parseIdentifier s = r ↔ Reads s r :=
  ⟨fun h => h ▸ reads_parseIdentifier s, Reads.eq⟩

/-- Only a numeral without a sign, or behind a plus, stands for a positive number. -/
theorem whole_pos_iff {cs : List Char} (hv : 0 < v) :
    Whole cs v ↔ ∃ ds n, (cs = ds ∨ cs = '+' :: ds) ∧ Numeral ds n ∧ v = (n : Int) := by
  constructor
  · intro h
    cases h with
    | plain h => exact ⟨_, _, .inl rfl, h, rfl⟩
    | plus h => exact ⟨_, _, .inr rfl, h, rfl⟩
    | @minus ds n h => omega
  · rintro ⟨ds, n, rfl | rfl, h, rfl⟩
    · exact .plain h
    · exact .plus h

/-- Identifiers are exactly the numerals, behind a plus or nothing, of the numbers from 1 to 2⁶³ - 1. The empty text is told apart, a
numeral of a number that fits but is not positive is refused with that number, and all other texts are refused as they stand: numbers
that do not fit, signs alone, blanks, and digits of other scripts. The text that is written for an id is read as that id. -/
theorem parseIdentifier_exact :
    (∀ s n, parseIdentifier s = .ok n ↔ ∃ ds k, (s.toList = ds ∨ s.toList = '+' :: ds) ∧ Numeral ds k ∧
      1 ≤ k ∧ k ≤ 2 ^ 63 - 1 ∧ n.toInt = (k : Int)) ∧
    (∀ s, parseIdentifier s = .error .empty ↔ s = "") ∧
    (∀ s v, parseIdentifier s = .error (.notPositive v) ↔
      Whole s.toList v.toInt ∧ -2 ^ 63 ≤ v.toInt ∧ v.toInt ≤ 0) ∧
    (∀ s raw, parseIdentifier s = .error (.notNumeric raw) ↔
      raw = s ∧ s ≠ "" ∧ ¬∃ v, Whole s.toList v ∧ -2 ^ 63 ≤ v ∧ v ≤ 2 ^ 63 - 1) ∧
    ∀ n : Int64, parseIdentifier (toString n.toInt) = .ok n ↔ 0 < n.toInt := by
  refine ⟨fun s n => ?_, fun s => ?_, fun s v => ?_, fun s raw => ?_, fun n => ?_⟩
  · rw [parseIdentifier_eq_iff]
    constructor
    · rintro (_ | _ | _ | ⟨h, hn⟩)
      obtain ⟨ds, k, hcs, hk, hvalue⟩ := (whole_pos_iff hn).mp h
      have hhigh := (fits_toInt n).2
      exact ⟨ds, k, hcs, hk, by omega, by omega, hvalue⟩
    · rintro ⟨ds, k, hcs, hk, hpos, -, hvalue⟩
      have hn : 0 < n.toInt := by omega
      exact .ok ((whole_pos_iff hn).mpr ⟨ds, k, hcs, hk, hvalue⟩) hn
  · rw [parseIdentifier_eq_iff]
    constructor
    · rintro ⟨h⟩
      exact h
    · exact .empty
  · rw [parseIdentifier_eq_iff]
    constructor
    · rintro (_ | _ | ⟨h, hv⟩)
      exact ⟨h, (fits_toInt v).1, hv⟩
    · rintro ⟨h, -, hv⟩
      exact .notPositive h hv
  · rw [parseIdentifier_eq_iff]
    constructor
    · rintro (_ | ⟨hne, h⟩)
      exact ⟨rfl, hne, h⟩
    · rintro ⟨rfl, hne, h⟩
      exact .notNumeric hne h
  · exact ⟨pos_of_parseIdentifier, parseIdentifier_toString⟩

example : parseIdentifier "+007" = .ok 7 := by cbv
example : parseIdentifier "-0" = .error (.notPositive 0) := by cbv

end Campus
