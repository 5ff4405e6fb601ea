import Campus.Identifier
import Campus.Proofs.Text.Digits

/-! # Identifiers and back

The text that a service writes for an id is read as that id.
-/
namespace Campus

theorem toList_toString_of_nonneg {v : Int} (h : 0 ≤ v) : (toString v).toList = Text.digits v.toNat := by
  obtain ⟨n, rfl⟩ := Int.eq_ofNat_of_zero_le h
  change (toString n).toList = Nat.toDigits 10 n
  rw [Nat.toString_eq_ofList_toDigits, String.toList_ofList]

theorem wholeNumber?_digits (n : Nat) : wholeNumber? (Text.digits n) = some (n : Int) := by
  have hall : (Text.digits n).all Char.isDigit = true := List.all_eq_true.mpr fun _ => Text.isDigit_of_mem_digits
  have hsign {c : Char} (hc : c.isDigit = false) (ds : List Char) : Text.digits n ≠ c :: ds := by
    intro hcons
    rw [hcons, List.all_cons, hc] at hall
    cases hall
  unfold wholeNumber?
  split
  case h_1 hcons => exact absurd hcons (hsign (by decide) _)
  case h_2 hcons => exact absurd hcons (hsign (by decide) _)
  case h_3 => rw [if_pos ⟨Text.digits_ne_nil n, hall⟩, Text.digitsValue_digits]

theorem parseIdentifier_toString {n : Int64} (h : 0 < n.toInt) : parseIdentifier (toString n.toInt) = .ok n := by
  have hnonneg : 0 ≤ n.toInt := Int.le_of_lt h
  have htext := toList_toString_of_nonneg hnonneg
  have hvalue : ((n.toInt.toNat : Nat) : Int) = n.toInt := Int.toNat_of_nonneg hnonneg
  have hlow : ¬(n.toInt < int64Min ∨ int64Max < n.toInt) :=
    not_or.mpr ⟨Int.not_lt.mpr n.minValue_le_toInt, Int.not_lt.mpr n.toInt_le⟩
  rw [parseIdentifier, htext, if_neg (Text.digits_ne_nil _), wholeNumber?_digits, hvalue]
  simp only [hlow, if_false, Int.not_le.mpr h, Int64.ofInt_toInt]

theorem pos_of_parseIdentifier {raw : String} {n : Int64} (h : parseIdentifier raw = .ok n) : 0 < n.toInt := by
  unfold parseIdentifier at h
  split at h
  case isTrue => cases h
  case isFalse =>
    split at h
    case h_1 => cases h
    case h_2 v _ =>
      by_cases hrange : v < int64Min ∨ int64Max < v
      · rw [if_pos hrange] at h
        cases h
      · by_cases hpos : v ≤ 0
        · rw [if_neg hrange, if_pos hpos] at h
          cases h
        · rw [if_neg hrange, if_neg hpos, Except.ok.injEq] at h
          obtain ⟨hlow, hhigh⟩ := not_or.mp hrange
          have hvalue : (Int64.ofInt v).toInt = v :=
            Int64.toInt_ofInt_of_le (Int.not_lt.mp hlow) (Int.lt_add_one_of_le (Int.not_lt.mp hhigh))
          rw [← h, hvalue]
          exact Int.not_le.mp hpos

end Campus
