import Campus.Calendar.Date
import Campus.Proofs.Text.Digits

/-! # Dates and back

The text of a date is read as that date, in every year of the calendar.
-/
namespace Campus

namespace Text

theorem isBlank_of_isDigit {c : Char} (h : c.isDigit = true) : isBlank c = false := by
  have hrange : 48 ≤ c.toNat ∧ c.toNat ≤ 57 := by
    simpa [Char.isDigit, UInt32.le_iff_toNat_le] using h
  simp only [isBlank, Bool.or_eq_false_iff, Bool.and_eq_false_iff, decide_eq_false_iff_not, beq_eq_false_iff_ne]
  omega

theorem trimStart_cons {c : Char} (h : isBlank c = false) (cs : List Char) : trimStart (c :: cs) = c :: cs :=
  List.dropWhile_cons_of_neg (by simp [h])

theorem trimStart_digits {ds : List Char} (hds : ∀ c ∈ ds, c.isDigit = true) (hne : ds ≠ []) (rest : List Char) :
    trimStart (ds ++ rest) = ds ++ rest := by
  obtain ⟨d, ds, rfl⟩ := List.exists_cons_of_ne_nil hne
  exact trimStart_cons (isBlank_of_isDigit (hds d List.mem_cons_self)) (ds ++ rest)

end Text

namespace Date

open Calendar

theorem number?_digits {width : Option Nat} {ds rest : List Char} (hds : ∀ c ∈ ds, c.isDigit = true) (hne : ds ≠ [])
    (hwidth : ∀ w ∈ width, ds.length ≤ w) (hrest : ∀ c ∈ rest.head?, c.isDigit = false) :
    number? width (ds ++ rest) = some (Text.digitsValue ds, rest) := by
  cases width with
  | none => simp only [number?, Text.leadingDigits_append hds hrest, hne, if_false, List.drop_left]
  | some w =>
    have htake : ds.take w = ds := List.take_of_length_le (hwidth w rfl)
    simp only [number?, Text.leadingDigits_append hds hrest, htake, hne, if_false, List.drop_left]

theorem mark?_cons {c : Char} (h : Text.isBlank c = false) (rest : List Char) : mark? c (c :: rest) = some rest := by
  rw [mark?, Text.trimStart_cons h]
  exact if_pos rfl

theorem twoDigits?_padded {n : Nat} (h : n < 100) {rest : List Char} (hrest : ∀ c ∈ rest.head?, c.isDigit = false) :
    twoDigits? (Text.padded 2 n ++ rest) = some (n, rest) := by
  have hds : ∀ c ∈ Text.padded 2 n, c.isDigit = true := fun _ => Text.isDigit_of_mem_padded
  have hwidth : ∀ w ∈ some 2, (Text.padded 2 n).length ≤ w := by
    rintro w ⟨⟩
    exact Nat.le_of_eq (Text.length_padded (by decide) h)
  rw [twoDigits?, Text.trimStart_digits hds (Text.padded_ne_nil 2 n),
    number?_digits hds (Text.padded_ne_nil 2 n) hwidth hrest, Text.digitsValue_padded]

theorem year?_yearText (year : Int) {rest : List Char} (hrest : ∀ c ∈ rest.head?, c.isDigit = false) :
    year? (yearText year ++ rest) = some (year, rest) := by
  have hds (n : Nat) : ∀ c ∈ Text.padded 4 n, c.isDigit = true := fun _ => Text.isDigit_of_mem_padded
  have hsigned (n : Nat) : number? none (Text.padded 4 n ++ rest) = some (n, rest) := by
    rw [number?_digits (hds n) (Text.padded_ne_nil 4 n) (by simp) hrest, Text.digitsValue_padded]
  unfold yearText
  split
  case isTrue hfour =>
    have hwidth : ∀ w ∈ some 4, (Text.padded 4 year.toNat).length ≤ w := by
      rintro w ⟨⟩
      exact Nat.le_of_eq (Text.length_padded (by decide) (by omega))
    have hplain := number?_digits (hds year.toNat) (Text.padded_ne_nil 4 _) hwidth hrest
    have hvalue : ((Text.digitsValue (Text.padded 4 year.toNat) : Nat) : Int) = year := by
      rw [Text.digitsValue_padded]
      omega
    obtain ⟨d, ds, hcons⟩ := List.exists_cons_of_ne_nil (Text.padded_ne_nil 4 year.toNat)
    have hd : d.isDigit = true := hds year.toNat d (by rw [hcons]; exact List.mem_cons_self)
    rw [year?, Text.trimStart_digits (hds year.toNat) (Text.padded_ne_nil 4 _), hcons, List.cons_append]
    rw [hcons, List.cons_append] at hplain
    split
    case h_1 hsign =>
      cases hsign
      exact absurd hd (by decide)
    case h_2 hsign =>
      cases hsign
      exact absurd hd (by decide)
    case h_3 => simp only [hplain, Option.map_some, ← hcons, hvalue]
  case isFalse hlarge =>
    by_cases hneg : year < 0
    · have hvalue : -(year.natAbs : Int) = year := by omega
      rw [if_pos hneg, year?, List.cons_append, Text.trimStart_cons (by decide)]
      simp only [hsigned, Option.map_some, hvalue]
    · have hvalue : (year.natAbs : Int) = year := by omega
      rw [if_neg hneg, year?, List.cons_append, Text.trimStart_cons (by decide)]
      simp only [hsigned, Option.map_some, hvalue]

theorem month_lt (d : Date) : d.month < 100 := by
  have hday := d.isDay
  unfold IsDay at hday
  omega

theorem daysIn_le (year : Int) (month : Nat) : daysIn year month ≤ 31 := by
  unfold daysIn
  grind

theorem day_lt (d : Date) : d.day < 100 := by
  have hday := d.isDay
  have hle := daysIn_le d.year d.month
  unfold IsDay at hday
  omega

/-- The numbers of a date are read off its text, whatever stands behind it but a digit. -/
theorem numbers?_chars (d : Date) (rest : List Char) (hrest : ∀ c ∈ rest.head?, c.isDigit = false) :
    numbers? (d.chars ++ rest) = some ((d.year, d.month, d.day), rest) := by
  have hmark : Text.isBlank '-' = false := by decide
  have hyphen : ∀ cs : List Char, ∀ c ∈ ('-' :: cs).head?, c.isDigit = false := by
    rintro cs c ⟨⟩
    rfl
  simp only [numbers?, chars, List.append_assoc, List.cons_append, year?_yearText d.year (hyphen _), bind, Option.bind,
    mark?_cons hmark, twoDigits?_padded d.month_lt (hyphen _), twoDigits?_padded d.day_lt hrest]
  rfl

theorem ofParts?_parts (d : Date) : ofParts? d.year d.month d.day = some d := dif_pos d.isDay

theorem parse?_text (d : Date) : parse? d.text = some d := by
  have hnumbers := d.numbers?_chars [] (by simp)
  rw [List.append_nil] at hnumbers
  simp only [parse?, text, String.toList_ofList, hnumbers, bind, Option.bind]
  exact d.ofParts?_parts

end Date

end Campus
