import Campus.Text.Utf8

/-! # Bytes of a text and back

The bytes of a character are read back as that character, whatever comes behind them. So the bytes of a text are read back as that
text.
-/
namespace Campus.Text.Utf8

/-! ## The first piece -/

section First

variable {b b₂ b₃ b₄ : UInt8} (rest : List UInt8)

theorem first_one (h : b.toNat < 0x80) : first b rest = (.char (Char.ofNat b.toNat), 1) := by
  unfold first
  rw [if_pos (UInt8.lt_iff_toNat_lt.mpr h)]

theorem isTail_iff : isTail b = true ↔ 0x80 ≤ b.toNat ∧ b.toNat ≤ 0xbf := by
  simp [isTail, UInt8.le_iff_toNat_le]

theorem first_two (h : 0xc2 ≤ b.toNat ∧ b.toNat ≤ 0xdf) (h₂ : isTail b₂ = true) :
    first b (b₂ :: rest) = (.char (Char.ofNat ((b.toNat - 0xc0) * 64 + b₂.toNat % 64)), 2) := by
  have hone : ¬b < 0x80 := by simp [UInt8.lt_iff_toNat_lt]; omega
  have htwo : (0xc2 ≤ b && b ≤ 0xdf) = true := by simp [UInt8.le_iff_toNat_le]; omega
  rw [first, if_neg hone, if_pos htwo]
  simp only [h₂, if_true]
  rfl

theorem first_three (h : 0xe0 ≤ b.toNat ∧ b.toNat ≤ 0xef) (h₂ : fitsSecond b b₂ = true) (h₃ : isTail b₃ = true) :
    first b (b₂ :: b₃ :: rest) =
      (.char (Char.ofNat ((b.toNat - 0xe0) * 4096 + b₂.toNat % 64 * 64 + b₃.toNat % 64)), 3) := by
  have hone : ¬b < 0x80 := by simp [UInt8.lt_iff_toNat_lt]; omega
  have htwo : ¬(0xc2 ≤ b && b ≤ 0xdf) = true := by simp [UInt8.le_iff_toNat_le]; omega
  have hthree : (0xe0 ≤ b && b ≤ 0xef) = true := by simp [UInt8.le_iff_toNat_le]; omega
  rw [first, if_neg hone, if_neg htwo, if_pos hthree]
  simp only [h₂, h₃, Bool.not_true, Bool.false_eq_true, if_false]
  rfl

theorem first_four (h : 0xf0 ≤ b.toNat ∧ b.toNat ≤ 0xf4) (h₂ : fitsSecond b b₂ = true) (h₃ : isTail b₃ = true)
    (h₄ : isTail b₄ = true) :
    first b (b₂ :: b₃ :: b₄ :: rest) = (.char (Char.ofNat
      ((b.toNat - 0xf0) * 262144 + b₂.toNat % 64 * 4096 + b₃.toNat % 64 * 64 + b₄.toNat % 64)), 4) := by
  have hone : ¬b < 0x80 := by simp [UInt8.lt_iff_toNat_lt]; omega
  have htwo : ¬(0xc2 ≤ b && b ≤ 0xdf) = true := by simp [UInt8.le_iff_toNat_le]; omega
  have hthree : ¬(0xe0 ≤ b && b ≤ 0xef) = true := by simp [UInt8.le_iff_toNat_le]; omega
  have hfour : (0xf0 ≤ b && b ≤ 0xf4) = true := by simp [UInt8.le_iff_toNat_le]; omega
  rw [first, if_neg hone, if_neg htwo, if_neg hthree, if_pos hfour]
  simp only [h₂, h₃, h₄, Bool.not_true, Bool.false_eq_true, if_false]
  rfl

theorem fitsSecond_iff : fitsSecond b b₂ = true ↔ (0x80 ≤ b₂.toNat ∧ b₂.toNat ≤ 0xbf) ∧
    (b.toNat = 0xe0 → 0xa0 ≤ b₂.toNat) ∧ (b.toNat = 0xed → b₂.toNat ≤ 0x9f) ∧ (b.toNat = 0xf0 → 0x90 ≤ b₂.toNat) ∧
    (b.toNat = 0xf4 → b₂.toNat ≤ 0x8f) := by
  unfold fitsSecond isTail
  simp only [← UInt8.toNat_inj, UInt8.le_iff_toNat_le, UInt8.reduceToNat]
  repeat' split
  all_goals
    simp only [Bool.and_eq_true, decide_eq_true_eq]
    omega

end First

/-! ## The pieces of characters -/

/-- A byte that goes on with a character, for six bits of its number. -/
def tailByte (n : Nat) : UInt8 := UInt8.ofNat (n % 64 + 0x80)

theorem toNat_ofNat_byte {n : Nat} (h : n < 256) : (UInt8.ofNat n).toNat = n := UInt8.toNat_ofNat_of_lt' h

@[simp] theorem toNat_tailByte (n : Nat) : (tailByte n).toNat = n % 64 + 0x80 := toNat_ofNat_byte (by omega)

@[simp] theorem isTail_tailByte (n : Nat) : isTail (tailByte n) = true := by
  rw [isTail_iff, toNat_tailByte]
  omega

section Numbers

variable {v : Nat} (rest : List UInt8)

theorem first_of_two (hlow : 0x7f < v) (hhigh : v ≤ 0x7ff) :
    first (UInt8.ofNat (v / 64 % 0x20 + 0xc0)) (tailByte v :: rest) = (.char (Char.ofNat v), 2) := by
  have hfirst : (UInt8.ofNat (v / 64 % 0x20 + 0xc0)).toNat = v / 64 % 0x20 + 0xc0 := toNat_ofNat_byte (by omega)
  have hvalue : (v / 64 % 0x20 + 0xc0 - 0xc0) * 64 + (v % 64 + 0x80) % 64 = v := by omega
  rw [first_two rest (by omega) (isTail_tailByte v), hfirst, toNat_tailByte, hvalue]

/-- A number of three bytes is no surrogate, whose second byte would not fit. -/
theorem first_of_three (hlow : 0x7ff < v) (hhigh : v ≤ 0xffff) (hplain : v < 0xd800 ∨ 0xdfff < v) :
    first (UInt8.ofNat (v / 4096 % 0x10 + 0xe0)) (tailByte (v / 64) :: tailByte v :: rest) = (.char (Char.ofNat v), 3) := by
  have hfirst : (UInt8.ofNat (v / 4096 % 0x10 + 0xe0)).toNat = v / 4096 % 0x10 + 0xe0 := toNat_ofNat_byte (by omega)
  have hsecond : fitsSecond (UInt8.ofNat (v / 4096 % 0x10 + 0xe0)) (tailByte (v / 64)) = true := by
    rw [fitsSecond_iff, hfirst, toNat_tailByte]
    omega
  have hvalue : (v / 4096 % 0x10 + 0xe0 - 0xe0) * 4096 + (v / 64 % 64 + 0x80) % 64 * 64 + (v % 64 + 0x80) % 64 = v := by omega
  rw [first_three rest (by omega) hsecond (isTail_tailByte v), hfirst, toNat_tailByte, toNat_tailByte, hvalue]

theorem first_of_four (hlow : 0xffff < v) (hhigh : v < 0x110000) :
    first (UInt8.ofNat (v / 262144 % 0x08 + 0xf0)) (tailByte (v / 4096) :: tailByte (v / 64) :: tailByte v :: rest) =
      (.char (Char.ofNat v), 4) := by
  have hfirst : (UInt8.ofNat (v / 262144 % 0x08 + 0xf0)).toNat = v / 262144 % 0x08 + 0xf0 := toNat_ofNat_byte (by omega)
  have hsecond : fitsSecond (UInt8.ofNat (v / 262144 % 0x08 + 0xf0)) (tailByte (v / 4096)) = true := by
    rw [fitsSecond_iff, hfirst, toNat_tailByte]
    omega
  have hvalue : (v / 262144 % 0x08 + 0xf0 - 0xf0) * 262144 + (v / 4096 % 64 + 0x80) % 64 * 4096 +
      (v / 64 % 64 + 0x80) % 64 * 64 + (v % 64 + 0x80) % 64 = v := by
    omega
  rw [first_four rest (by omega) hsecond (isTail_tailByte (v / 64)) (isTail_tailByte v), hfirst, toNat_tailByte, toNat_tailByte,
    toNat_tailByte, hvalue]

end Numbers

/-- The bytes of a character begin with the piece that it is. -/
theorem first_utf8EncodeChar (c : Char) (rest : List UInt8) :
    ∃ b tail, String.utf8EncodeChar c = b :: tail ∧ first b (tail ++ rest) = (.char c, tail.length + 1) := by
  have hvalid : c.toNat < 0xd800 ∨ 0xdfff < c.toNat ∧ c.toNat < 0x110000 := c.valid
  have hback : Char.ofNat c.toNat = c := Char.ofNat_toNat c
  unfold String.utf8EncodeChar
  simp only [show c.val.toNat = c.toNat from rfl]
  generalize c.toNat = v at hvalid hback ⊢
  subst hback
  split
  case isTrue hone =>
    refine ⟨_, [], rfl, ?_⟩
    rw [first_one _ (by rw [toNat_ofNat_byte (by omega)]; omega), toNat_ofNat_byte (by omega)]
    rfl
  case isFalse hone =>
    split
    case isTrue htwo => exact ⟨_, [_], rfl, first_of_two rest (by omega) htwo⟩
    case isFalse htwo =>
      split
      case isTrue hthree => exact ⟨_, [_, _], rfl, first_of_three rest (by omega) hthree (by omega)⟩
      case isFalse hthree => exact ⟨_, [_, _, _], rfl, first_of_four rest (by omega) (by omega)⟩

/-! ## All pieces -/

theorem collect_skip (found : List Piece) (skipped rest : List UInt8) :
    collect found skipped.length (skipped ++ rest) = collect found 0 rest := by
  induction skipped with
  | nil => rfl
  | cons b skipped ih => exact ih

theorem collect_utf8Bytes (found : List Piece) (cs : List Char) :
    collect found 0 (utf8Bytes cs) = found.reverse ++ cs.map .char := by
  induction cs generalizing found with
  | nil => exact (List.append_nil _).symm
  | cons c cs ih =>
    obtain ⟨b, tail, hbytes, hfirst⟩ := first_utf8EncodeChar c (utf8Bytes cs)
    have hsplit : utf8Bytes (c :: cs) = b :: (tail ++ utf8Bytes cs) := by
      rw [utf8Bytes, List.flatMap_cons, hbytes, List.cons_append, ← utf8Bytes]
    rw [hsplit, collect, hfirst]
    simp only [Nat.add_sub_cancel, collect_skip, ih, List.reverse_cons, List.append_assoc, List.singleton_append, List.map_cons]

theorem pieces_utf8Bytes (cs : List Char) : pieces (utf8Bytes cs) = cs.map .char := collect_utf8Bytes [] cs

theorem decode?_utf8Bytes (cs : List Char) : decode? (utf8Bytes cs) = some cs := by
  rw [decode?, pieces_utf8Bytes, List.mapM_map]
  induction cs with
  | nil => rfl
  | cons c cs ih =>
    rw [List.mapM_cons, ih]
    rfl

theorem utf8Bytes_injective : Function.Injective utf8Bytes := by
  intro cs ds h
  have hread := congrArg decode? h
  rwa [decode?_utf8Bytes, decode?_utf8Bytes, Option.some.injEq] at hread

end Campus.Text.Utf8
