import Campus.Json.Reader
import Campus.Json.Text
import Campus.Proofs.Text.Digits

/-! # JSON strings and numbers and back

What is written for a string is read back as that string, whatever stands behind it; what is written for a number is read back as
long as nothing behind it can be taken for a part of it.
-/
namespace Campus.Json

theorem skipSpace_cons {g : Glyph} (h : isSpace g = false) (cs : List Glyph) : skipSpace (g :: cs) = g :: cs :=
  List.dropWhile_cons_of_neg (by simp [h])

/-! ## Strings -/

theorem hexValue?_digitChar : ∀ n < 16, Text.hexValue? (Nat.digitChar n) = some n := by decide

theorem width_digitChar : ∀ n < 16, width (some (Nat.digitChar n)) = 1 := by decide

theorem hexUnit_digitChars {n : Nat} (h : n < 256) (rest : List Glyph) :
    hexUnit (some '0' :: some '0' :: some (Nat.digitChar (n / 16)) :: some (Nat.digitChar (n % 16)) :: rest) = .ok n := by
  have hhigh : n / 16 < 16 := by omega
  have hlow : n % 16 < 16 := by omega
  have hzero : width (some '0') = 1 := rfl
  have hvalue : Text.hexValue? '0' = some 0 := rfl
  have hsum : ((0 * 16 + 0) * 16 + n / 16) * 16 + n % 16 = n := by omega
  simp only [hexUnit, List.take_succ_cons, List.take_zero, List.foldl_cons, List.foldl_nil, hzero, width_digitChar _ hhigh,
    width_digitChar _ hlow, hvalue, hexValue?_digitChar _ hhigh, hexValue?_digitChar _ hlow, hsum]
  rfl

theorem escape_control {c : Char} (h : c.toNat < 0x20) (rest : List Glyph) :
    escape (some 'u' :: some '0' :: some '0' :: some (Nat.digitChar (c.toNat / 16)) :: some (Nat.digitChar (c.toNat % 16)) ::
      rest) = .ok (c, 5) := by
  have hunit := hexUnit_digitChars (by omega : c.toNat < 256) rest
  have hlow : ¬(0xdc00 ≤ c.toNat ∧ c.toNat ≤ 0xdfff) := by omega
  have hfirst : c.toNat < 0xd800 ∨ 0xdbff < c.toNat := by omega
  simp only [escape, unicodeEscape, hunit, bind, Except.bind, hlow, if_false, hfirst, if_true, Char.ofNat_toNat]
  rfl

/-- What is written for a character inside a string is read as that character. -/
theorem stringFrom_escapeChar (read : List Char) (sound : Bool) (c : Char) (rest : List Glyph) :
    stringFrom read sound ((escapeChar c).map some ++ rest) = stringFrom (c :: read) sound rest := by
  unfold escapeChar
  split
  case h_8 hquote hback _ _ _ _ _ =>
    split
    case isTrue hcontrol =>
      have hescape := escape_control hcontrol rest
      simp only [List.map_cons, List.map_nil, List.cons_append, List.nil_append]
      rw [stringFrom, hescape]
      rfl
    case isFalse hplain =>
      simp only [List.map_cons, List.map_nil, List.cons_append, List.nil_append]
      rw [stringFrom, if_neg hplain]
      · exact fun h => hquote h
      · exact fun h => hback h
  all_goals
    simp only [List.map_cons, List.map_nil, List.cons_append, List.nil_append]
    rw [stringFrom]
    rfl

theorem stringFrom_escaped (read : List Char) (cs : List Char) (rest : List Glyph) :
    stringFrom read true ((cs.flatMap escapeChar ++ ['"']).map some ++ rest) =
      .ok (String.ofList (read.reverse ++ cs), rest) := by
  induction cs generalizing read with
  | nil =>
    simp only [List.flatMap_nil, List.nil_append, List.map_cons, List.map_nil, List.cons_append, List.append_nil]
    rw [stringFrom]
    rfl
  | cons c cs ih =>
    rw [List.flatMap_cons, List.append_assoc, List.map_append, List.append_assoc, stringFrom_escapeChar, ih,
      List.reverse_cons, List.append_assoc, List.singleton_append]

/-- A string is read back as it is, once its opening quote is gone. -/
theorem stringRest_written (s : String) (rest : List Glyph) :
    stringRest ((s.toList.flatMap escapeChar ++ ['"']).map some ++ rest) = .ok (s, rest) := by
  rw [stringRest, stringFrom_escaped, List.reverse_nil, List.nil_append, String.ofList_toList]

theorem stringChars_eq (s : String) : stringChars s = '"' :: (s.toList.flatMap escapeChar ++ ['"']) := rfl

/-! ## Numbers -/

def EndsValue (cs : List Glyph) : Prop := ∃ mark ∈ [',', ']', '\x7d'], cs.head? = some (some mark)

theorem EndsValue.head {cs : List Glyph} (h : EndsValue cs) :
    ∃ tail, cs = some ',' :: tail ∨ cs = some ']' :: tail ∨ cs = some '\x7d' :: tail := by
  obtain ⟨mark, hmark, hhead⟩ := h
  cases cs with
  | nil => cases hhead
  | cons g tail =>
    rw [List.head?_cons, Option.some.injEq] at hhead
    subst hhead
    refine ⟨tail, ?_⟩
    simpa using hmark

theorem digitRun_append {ds : List Char} (hds : ∀ c ∈ ds, c.isDigit = true) {rest : List Glyph} (hrest : EndsValue rest) :
    digitRun (ds.map some ++ rest) = ds := by
  have hall : ∀ g ∈ ds.map some, isDigit g = true := by
    simp only [List.mem_map, forall_exists_index, and_imp, forall_apply_eq_imp_iff₂]
    exact hds
  have hstop : rest.takeWhile isDigit = [] := by
    obtain ⟨tail, rfl | rfl | rfl⟩ := hrest.head <;> rfl
  rw [digitRun, List.takeWhile_append_of_pos hall, hstop, List.append_nil, List.filterMap_map]
  exact List.filterMap_some

theorem le_foldl_digits (ds : List Char) (n : Nat) : n ≤ ds.foldl (fun n d => 10 * n + Text.digitValue d) n := by
  induction ds generalizing n with
  | nil => exact Nat.le_refl n
  | cons d ds ih => exact Nat.le_trans (by omega) (ih (10 * n + Text.digitValue d))

/-- All digits of a number within 64 bits are kept. -/
theorem collect_eq {ds : List Char} (n : Nat)
    (h : ds.foldl (fun n d => 10 * n + Text.digitValue d) n < UInt64.size) :
    collect n ds = (ds.foldl (fun n d => 10 * n + Text.digitValue d) n, 0) := by
  induction ds generalizing n with
  | nil => rfl
  | cons d ds ih =>
    have hd : Text.digitsValue [d] = Text.digitValue d := by simp [Text.digitsValue]
    have hlt : 10 * n + Text.digitsValue [d] < UInt64.size := by
      rw [hd]
      exact Nat.lt_of_le_of_lt (le_foldl_digits ds _) h
    rw [collect, if_pos hlt, hd, ih _ h]
    rfl

theorem roundHalfEven_le (num den : Nat) : Decimal.roundHalfEven num den ≤ num / den + 1 := by
  unfold Decimal.roundHalfEven
  grind

theorem roundToDouble_le {n : Nat} (h : n ≠ 0) : roundToDouble n ≤ 2 * n := by
  have hunit : 2 ^ (n.log2 - 52) ≤ n :=
    Nat.le_trans (Nat.pow_le_pow_right (by decide) (Nat.sub_le _ _)) (Nat.log2_self_le h)
  calc roundToDouble n ≤ (n / 2 ^ (n.log2 - 52) + 1) * 2 ^ (n.log2 - 52) := Nat.mul_le_mul_right _ (roundHalfEven_le _ _)
    _ = n / 2 ^ (n.log2 - 52) * 2 ^ (n.log2 - 52) + 2 ^ (n.log2 - 52) := by rw [Nat.add_mul, Nat.one_mul]
    _ ≤ n + n := Nat.add_le_add (Nat.div_mul_le_self _ _) hunit
    _ = 2 * n := (Nat.two_mul n).symm

theorem not_isTooLarge {n : Nat} (h : n < UInt64.size) : isTooLarge n 0 = false := by
  by_cases hzero : n = 0
  · rw [hzero]
    rfl
  · have hone : roundToDouble (Text.tens (0 : Int).toNat) = 1 := by decide +kernel
    have hlimit : 2 * UInt64.size ≤ doubleLimit := by decide +kernel
    have hround := roundToDouble_le hzero
    have hbelow : ¬doubleLimit ≤ roundToDouble n * 1 := by omega
    simp only [isTooLarge, hone, hbelow, decide_false, Bool.and_false, Bool.or_false]
    simp

/-- A run of digits that stays within 64 bits and has no zero in front is a whole number. -/
theorem numeral_digits (negative : Bool) {ds : List Char} (hds : ∀ c ∈ ds, c.isDigit = true) (hne : ds ≠ [])
    (hlead : ¬(ds.head? = some '0' ∧ 1 < ds.length)) (hsmall : Text.digitsValue ds < UInt64.size) {rest : List Glyph}
    (hrest : EndsValue rest) :
    numeral ((if negative then [some '-'] else []) ++ (ds.map some ++ rest)) = .ok (Numeral.ofDigits negative ds, rest) := by
  have hrun := digitRun_append hds hrest
  have hdrop : (ds.map some ++ rest).drop ds.length = rest := List.drop_left' (List.length_map some)
  have hcollect : collect 0 ds = (Text.digitsValue ds, 0) := collect_eq 0 hsmall
  have hlarge := not_isTooLarge hsmall
  have hcs : ds.map some ++ rest ≠ [] := by simp [hne]
  have hsign : ∀ cs, ds.map some ++ rest ≠ some '-' :: cs := by
    intro cs
    obtain ⟨d, ds, rfl⟩ := List.exists_cons_of_ne_nil hne
    intro h
    cases h
    exact absurd (hds '-' (by simp)) (by decide)
  have hflaw : ¬(ds = [] ∨ (ds.head? = some '0' ∧ 1 < ds.length)) := not_or.mpr ⟨hne, hlead⟩
  generalize ds.map some ++ rest = cs at *
  obtain ⟨tail, rfl | rfl | rfl⟩ := hrest.head <;> cases negative <;>
    simp [numeral, hrun, hdrop, hflaw, hcs, bind, Except.bind, pure, Except.pure, hcollect, collect, hlarge]

theorem ofDigits_digits {v : Int} (hlo : -9223372036854775808 ≤ v) (hhi : v < UInt64.size) :
    Numeral.ofDigits (decide (v < 0)) (Text.digits v.natAbs) = .whole v := by
  have hsize : UInt64.size = 18446744073709551616 := rfl
  have habs : v.natAbs < 18446744073709551616 := by omega
  have hlength : ¬20 < (Text.digits v.natAbs).length :=
    Nat.not_lt.mpr (Text.length_digits_le (by decide) (Nat.lt_of_lt_of_le habs (by decide)))
  simp only [Numeral.ofDigits, hlength, if_false, Text.digitsValue_digits]
  by_cases hneg : v < 0
  · have hfits : ¬(v.natAbs = 0 ∨ 9223372036854775808 < v.natAbs) := by omega
    simp only [hneg, decide_true, if_true, hfits, if_false, Numeral.whole.injEq]
    omega
  · simp only [hneg, decide_false, Bool.false_eq_true, if_false, hsize, habs, if_true, Numeral.whole.injEq]
    omega

/-- A whole number of 64 bits is read back as it is. -/
theorem numeral_intChars {v : Int} (hlo : -9223372036854775808 ≤ v) (hhi : v < UInt64.size) {rest : List Glyph}
    (hrest : EndsValue rest) : numeral ((intChars v).map some ++ rest) = .ok (.whole v, rest) := by
  have hsize : UInt64.size = 18446744073709551616 := rfl
  have hvalue : Text.digitsValue (Text.digits v.natAbs) < UInt64.size := by
    rw [Text.digitsValue_digits]
    omega
  have hlead : ¬((Text.digits v.natAbs).head? = some '0' ∧ 1 < (Text.digits v.natAbs).length) := by
    rintro ⟨hhead, hlong⟩
    rcases Nat.eq_zero_or_pos v.natAbs with hzero | hpos
    · rw [hzero] at hlong
      exact absurd hlong (by decide)
    · exact Text.head_digits_ne_zero hpos hhead
  have hsign : (intChars v).map some ++ rest =
      (if decide (v < 0) then [some '-'] else []) ++ ((Text.digits v.natAbs).map some ++ rest) := by
    unfold intChars
    by_cases hneg : v < 0 <;> simp [hneg]
  rw [hsign, numeral_digits _ (fun _ => Text.isDigit_of_mem_digits) (Text.digits_ne_nil _) hlead hvalue hrest,
    ofDigits_digits hlo hhi]

end Campus.Json
