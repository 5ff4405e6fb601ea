import Campus.Calendar.Moment
import Campus.Proofs.Calendar.Date

/-! # Moments and back

The text of an instant is read as that instant: on every day of the calendar, to the nanosecond, inside a leap second too if it comes at
the end of a minute. An instant in a leap second inside a minute has the text of another one, in the second after, and is never what a
text is read as.
-/
namespace Campus

namespace Text

theorem dropWhile_digits {ds rest : List Char} (hds : ∀ c ∈ ds, c.isDigit = true)
    (hrest : ∀ c ∈ rest.head?, c.isDigit = false) : (ds ++ rest).dropWhile Char.isDigit = rest := by
  rw [List.dropWhile_append_of_pos hds]
  cases rest with
  | nil => rfl
  | cons c rest => exact List.dropWhile_cons_of_neg (by simp [hrest c rfl])

end Text

namespace Moment

/-! ## Fractions of a second -/

/-- Up to nine digits behind the point count as many nanoseconds as the digits that are missing scale them to. -/
theorem fraction?_padded {width n : Nat} (hpos : 0 < width) (hwidth : width ≤ 9) (hn : n < 10 ^ width) {rest : List Char}
    (hrest : ∀ c ∈ rest.head?, c.isDigit = false) :
    fraction? ('.' :: (Text.padded width n ++ rest)) = some (n * Text.tens (9 - width), rest) := by
  have hds : ∀ c ∈ Text.padded width n, c.isDigit = true := fun _ => Text.isDigit_of_mem_padded
  have hlength : (Text.padded width n).length = width := Text.length_padded hpos hn
  have htake : (Text.padded width n).take 9 = Text.padded width n := List.take_of_length_le (by omega)
  simp only [fraction?, Text.leadingDigits_append hds hrest, htake, Text.padded_ne_nil, if_false, Text.digitsValue_padded,
    hlength, Text.dropWhile_digits hds hrest]
  rfl

/-- A fraction is written with none, three, six or nine digits and read back, if it is less than a second. -/
theorem fraction?_fractionText {nano : Nat} (h : nano < 1000000000) {rest : List Char}
    (hpoint : ∀ c ∈ rest.head?, c ≠ '.') (hrest : ∀ c ∈ rest.head?, c.isDigit = false) :
    fraction? (fractionText nano ++ rest) = some (nano, rest) := by
  unfold fractionText
  split
  case isTrue hzero =>
    rw [List.nil_append, hzero, fraction?]
    rintro cs rfl
    exact hpoint '.' rfl rfl
  case isFalse =>
    split
    case isTrue hmillis =>
      have hscale : nano / 1000000 * Text.tens (9 - 3) = nano := Nat.div_mul_cancel (Nat.dvd_of_mod_eq_zero hmillis)
      rw [List.cons_append, fraction?_padded (by decide) (by decide) (by omega) hrest, hscale]
    case isFalse =>
      split
      case isTrue hmicros =>
        have hscale : nano / 1000 * Text.tens (9 - 6) = nano := Nat.div_mul_cancel (Nat.dvd_of_mod_eq_zero hmicros)
        rw [List.cons_append, fraction?_padded (by decide) (by decide) (by omega) hrest, hscale]
      case isFalse =>
        have hscale : nano * Text.tens (9 - 9) = nano := Nat.mul_one nano
        rw [List.cons_append, fraction?_padded (by decide) (by decide) h hrest, hscale]

theorem fraction?_lt {cs rest : List Char} {nano : Nat} (h : fraction? cs = some (nano, rest)) : nano < 1000000000 := by
  unfold fraction? at h
  split at h
  case h_1 cs =>
    have hdigits : ∀ c ∈ (Text.leadingDigits cs).take 9, c.isDigit = true := fun c hc =>
      List.all_eq_true.mp List.all_takeWhile c (List.mem_of_mem_take hc)
    have hlength : ((Text.leadingDigits cs).take 9).length ≤ 9 := List.length_take_le ..
    have hvalue := Text.digitsValue_lt hdigits
    generalize (Text.leadingDigits cs).take 9 = ds at h hlength hvalue
    dsimp only at h
    split at h
    case isTrue => cases h
    case isFalse =>
      obtain ⟨rfl, -⟩ := Prod.mk.inj (Option.some.inj h)
      calc Text.digitsValue ds * Text.tens (9 - ds.length)
          < 10 ^ ds.length * 10 ^ (9 - ds.length) := Nat.mul_lt_mul_of_pos_right hvalue (Nat.pow_pos (by decide))
        _ = 10 ^ 9 := by rw [← Nat.pow_add, Nat.add_sub_cancel' hlength]
  case h_2 =>
    obtain ⟨rfl, -⟩ := Prod.mk.inj (Option.some.inj h)
    decide

/-! ## Times of day -/

def LeapsAtEnd (m : Moment) : Prop := 1000000000 ≤ m.nano → m.second % 60 = 59

instance (m : Moment) : Decidable m.LeapsAtEnd := inferInstanceAs (Decidable (_ → _))

/-- The instant that the text of an instant is read as: out of a leap second inside a minute it is one in the second after. -/
def asRead (m : Moment) : Moment :=
  if h : m.LeapsAtEnd then m
  else
    have hinside : m.second % 60 ≠ 59 ∧ 1000000000 ≤ m.nano := by
      unfold LeapsAtEnd at h
      omega
    ⟨m.date, m.second + 1, m.nano - 1000000000, by have := m.second_lt; omega, by have := m.nano_lt; omega⟩

theorem asRead_of_leapsAtEnd {m : Moment} (h : m.LeapsAtEnd) : m.asRead = m := dif_pos h

theorem leapsAtEnd_asRead (m : Moment) : m.asRead.LeapsAtEnd := by
  by_cases h : m.LeapsAtEnd
  · rwa [asRead_of_leapsAtEnd h]
  · rw [asRead, dif_neg h]
    intro hlong
    have hnano := m.nano_lt
    dsimp only at hlong
    omega

theorem asRead_eq_iff (m : Moment) : m.asRead = m ↔ m.LeapsAtEnd := by
  refine ⟨fun heq => ?_, asRead_of_leapsAtEnd⟩
  by_contra h
  rw [asRead, dif_neg h] at heq
  exact absurd (congrArg Moment.second heq) (Nat.succ_ne_self _)

theorem ofParts?_parts (m : Moment) : ofParts? m.date m.second m.nano = some m := dif_pos ⟨m.second_lt, m.nano_lt⟩

theorem ofLocal?_universal (m : Moment) : ofLocal? m.date m.second m.nano 0 = some m := by
  have hsecond := m.second_lt
  have hlow : ¬(m.second : Int) - 0 < 0 := by omega
  have hhigh : ¬86400 ≤ (m.second : Int) - 0 := by omega
  have hvalue : ((m.second : Int) - 0).toNat = m.second := by omega
  simp only [ofLocal?, hlow, hhigh, if_false, hvalue, m.ofParts?_parts]

/-- The second of the minute that the clock shows: one more while a leap second lasts. -/
def shownSecond (m : Moment) : Nat := m.second % 60 + if 1000000000 ≤ m.nano then 1 else 0

def shownNano (m : Moment) : Nat := if 1000000000 ≤ m.nano then m.nano - 1000000000 else m.nano

theorem shownNano_lt (m : Moment) : m.shownNano < 1000000000 := by
  have hnano := m.nano_lt
  unfold shownNano
  split <;> omega

theorem shownSecond_le (m : Moment) : m.shownSecond ≤ 60 := by
  unfold shownSecond
  split <;> omega

/-- What a clock shows tells the second and the nanosecond, but a leap second inside a minute passes for the second after. -/
theorem asRead_of_shown (m : Moment) : m.asRead.date = m.date ∧
    3600 * (m.second / 3600) + 60 * (m.second / 60 % 60) + (if m.shownSecond = 60 then 59 else m.shownSecond) =
      m.asRead.second ∧
    m.shownNano + (if m.shownSecond = 60 then 1000000000 else 0) = m.asRead.nano := by
  by_cases hleap : 1000000000 ≤ m.nano
  case neg =>
    have hshown : m.shownSecond = m.second % 60 := by rw [shownSecond, if_neg hleap, Nat.add_zero]
    have hne : ¬m.shownSecond = 60 := by omega
    rw [asRead_of_leapsAtEnd fun h => absurd h hleap, if_neg hne, if_neg hne, shownNano, if_neg hleap, hshown]
    exact ⟨rfl, by omega, rfl⟩
  have hshown : m.shownSecond = m.second % 60 + 1 := by rw [shownSecond, if_pos hleap]
  rw [shownNano, if_pos hleap, hshown]
  by_cases hend : m.second % 60 = 59
  · rw [asRead_of_leapsAtEnd fun _ => hend, if_pos (by omega), if_pos (by omega)]
    exact ⟨rfl, by omega, by omega⟩
  · have hinside : ¬m.LeapsAtEnd := fun h => hend (h hleap)
    rw [asRead, dif_neg hinside, if_neg (by omega), if_neg (by omega)]
    exact ⟨rfl, by dsimp only; omega, Nat.add_zero _⟩

theorem chars_eq (m : Moment) :
    m.chars = m.date.chars ++ 'T' :: (Text.padded 2 (m.second / 3600) ++ ':' :: (Text.padded 2 (m.second / 60 % 60) ++
      ':' :: (Text.padded 2 m.shownSecond ++ (fractionText m.shownNano ++ ['Z'])))) := by
  simp only [chars, shownSecond, shownNano, List.append_assoc, List.cons_append]

/-! ## Whole texts -/

theorem fractionText_no_digit (nano : Nat) : ∀ c ∈ (fractionText nano ++ ['Z']).head?, c.isDigit = false := by
  unfold fractionText
  split
  case isTrue =>
    rintro c ⟨⟩
    rfl
  case isFalse =>
    split
    case isTrue =>
      rintro c ⟨⟩
      rfl
    case isFalse =>
      split
      all_goals
        rintro c ⟨⟩
        rfl

theorem offset?_universal : offset? ['Z'] = some (0, []) := by decide

/-- The text of an instant is read as that instant, unless it lies in a leap second inside a minute. -/
theorem parse?_text (m : Moment) : parse? m.text = some m.asRead := by
  have hsecond := m.second_lt
  have hcolon : Text.isBlank ':' = false := by decide
  have hmark (c : Char) (hc : c.isDigit = false) (cs : List Char) : ∀ d ∈ (c :: cs).head?, d.isDigit = false := by
    rintro d ⟨⟩
    exact hc
  have hzone : ∀ c ∈ ['Z'].head?, c ≠ '.' := by simp
  have hdate := m.date.numbers?_chars ('T' :: (Text.padded 2 (m.second / 3600) ++ ':' ::
    (Text.padded 2 (m.second / 60 % 60) ++ ':' :: (Text.padded 2 m.shownSecond ++ (fractionText m.shownNano ++ ['Z'])))))
    (hmark 'T' rfl _)
  have hhour := Date.twoDigits?_padded (by omega : m.second / 3600 < 100) (hmark ':' rfl
    (Text.padded 2 (m.second / 60 % 60) ++ ':' :: (Text.padded 2 m.shownSecond ++ (fractionText m.shownNano ++ ['Z']))))
  have hminute := Date.twoDigits?_padded (by omega : m.second / 60 % 60 < 100) (hmark ':' rfl
    (Text.padded 2 m.shownSecond ++ (fractionText m.shownNano ++ ['Z'])))
  have hshown := Date.twoDigits?_padded (Nat.lt_of_le_of_lt m.shownSecond_le (by decide)) (fractionText_no_digit m.shownNano)
  have hfraction := fraction?_fractionText m.shownNano_lt hzone (hmark 'Z' rfl [])
  have hfits : Text.trimStart [] = [] ∧ m.second / 3600 < 24 ∧ m.second / 60 % 60 < 60 ∧ m.shownSecond ≤ 60 ∧
      -86400 < (0 : Int) ∧ (0 : Int) < 86400 := by
    have hshownSecond := m.shownSecond_le
    refine ⟨rfl, ?_, ?_, ?_, ?_, ?_⟩ <;> omega
  simp only [parse?, text, String.toList_ofList, chars_eq, hdate, bind, Option.bind, divider?, true_or, if_true, hhour,
    Date.mark?_cons hcolon, hminute, hshown, hfraction, offset?_universal, m.date.ofParts?_parts, hfits, and_self]
  obtain ⟨hasDate, hasSecond, hasNano⟩ := m.asRead_of_shown
  rw [hasSecond, hasNano, ← hasDate, ofLocal?_universal]

/-- The clock shows an instant and the one that it is read as alike. -/
theorem text_asRead (m : Moment) : m.asRead.text = m.text := by
  by_cases h : m.LeapsAtEnd
  · rw [asRead_of_leapsAtEnd h]
  have hinside : m.second % 60 ≠ 59 ∧ 1000000000 ≤ m.nano := by
    unfold LeapsAtEnd at h
    omega
  have hnano := m.nano_lt
  have hread : m.asRead.date = m.date ∧ m.asRead.second = m.second + 1 ∧ m.asRead.nano = m.nano - 1000000000 := by
    rw [asRead, dif_neg h]
    exact ⟨rfl, rfl, rfl⟩
  have hhour : (m.second + 1) / 3600 = m.second / 3600 := by omega
  have hminute : (m.second + 1) / 60 % 60 = m.second / 60 % 60 := by omega
  have hsecond : m.asRead.shownSecond = m.shownSecond := by
    rw [shownSecond, shownSecond, hread.2.1, hread.2.2, if_pos hinside.2, if_neg (by omega)]
    omega
  have hfraction : m.asRead.shownNano = m.shownNano := by
    rw [shownNano, shownNano, hread.2.2, if_pos hinside.2, if_neg (by omega)]
  rw [text, text, chars_eq, chars_eq, hsecond, hfraction, hread.1, hread.2.1, hhour, hminute]

/-! ## What is read -/

/-- The distance from universal time is in whole minutes. -/
theorem offset?_dvd {cs rest : List Char} {offset : Int} (h : offset? cs = some (offset, rest)) : 60 ∣ offset := by
  unfold offset? at h
  dsimp only at h
  split at h
  case isTrue =>
    obtain ⟨rfl, -⟩ := Prod.mk.inj (Option.some.inj h)
    exact Int.dvd_zero 60
  case isFalse =>
    split at h
    case h_2 => cases h
    case h_1 =>
      split at h
      case isTrue =>
        obtain ⟨rfl, -⟩ := Prod.mk.inj (Option.some.inj h)
        exact Int.dvd_zero 60
      case isFalse =>
        split at h
        case isFalse => cases h
        case isTrue =>
          obtain ⟨⟨hours, _⟩, -, h⟩ := Option.bind_eq_some_iff.mp h
          obtain ⟨⟨minutes, _⟩, -, h⟩ := Option.bind_eq_some_iff.mp h
          dsimp only at h
          split at h
          case isFalse => cases h
          case isTrue =>
            obtain ⟨rfl, -⟩ := Prod.mk.inj (Option.some.inj h)
            split <;> omega

theorem ofParts?_eq_some {date : Date} {second nano : Nat} {m : Moment} (h : ofParts? date second nano = some m) :
    m.second = second ∧ m.nano = nano := by
  unfold ofParts? at h
  split at h
  case isTrue =>
    cases h
    exact ⟨rfl, rfl⟩
  case isFalse => cases h

/-- Taking off whole minutes leaves the second of the minute as it was. -/
theorem ofLocal?_eq_some {date : Date} {second nano : Nat} {offset : Int} {m : Moment} (hoffset : 60 ∣ offset)
    (hday : offset < 86400) (h : ofLocal? date second nano offset = some m) : m.second % 60 = second % 60 ∧ m.nano = nano := by
  unfold ofLocal? at h
  dsimp only at h
  split at h
  case isTrue =>
    obtain ⟨_, -, h⟩ := Option.bind_eq_some_iff.mp h
    obtain ⟨hsecond, hnano⟩ := ofParts?_eq_some h
    exact ⟨by omega, hnano⟩
  case isFalse =>
    split at h
    case isTrue =>
      obtain ⟨_, -, h⟩ := Option.bind_eq_some_iff.mp h
      obtain ⟨hsecond, hnano⟩ := ofParts?_eq_some h
      exact ⟨by omega, hnano⟩
    case isFalse =>
      obtain ⟨hsecond, hnano⟩ := ofParts?_eq_some h
      exact ⟨by omega, hnano⟩

/-- A leap second that is read comes at the end of its minute. -/
theorem leapsAtEnd_of_parse? {s : String} {m : Moment} (h : parse? s = some m) : m.LeapsAtEnd := by
  obtain ⟨⟨⟨year, month, day⟩, _⟩, -, h⟩ := Option.bind_eq_some_iff.mp h
  obtain ⟨_, -, h⟩ := Option.bind_eq_some_iff.mp h
  obtain ⟨⟨hour, _⟩, -, h⟩ := Option.bind_eq_some_iff.mp h
  obtain ⟨_, -, h⟩ := Option.bind_eq_some_iff.mp h
  obtain ⟨⟨minute, _⟩, -, h⟩ := Option.bind_eq_some_iff.mp h
  obtain ⟨_, -, h⟩ := Option.bind_eq_some_iff.mp h
  obtain ⟨⟨second, _⟩, -, h⟩ := Option.bind_eq_some_iff.mp h
  obtain ⟨⟨nano, _⟩, hfraction, h⟩ := Option.bind_eq_some_iff.mp h
  obtain ⟨⟨offset, _⟩, hoffset, h⟩ := Option.bind_eq_some_iff.mp h
  obtain ⟨date, -, h⟩ := Option.bind_eq_some_iff.mp h
  have hnano := fraction?_lt hfraction
  dsimp only at h
  split at h
  case isFalse => cases h
  case isTrue hfits =>
    obtain ⟨hsecond, hvalue⟩ := ofLocal?_eq_some (offset?_dvd hoffset) hfits.2.2.2.2.2 h
    intro hlong
    -- A fraction does not reach a thousand million by itself, so the clock showed second 60.
    by_cases hleap : second = 60
    · rw [if_pos hleap] at hsecond
      omega
    · rw [if_neg hleap] at hvalue
      omega

end Moment

end Campus
