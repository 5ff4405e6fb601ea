import Campus.Proofs.Text.Utf8
import Campus.Text.Percent

/-! # Percent encoding and back

What is encoded is read back, as long as the percent sign itself is among the characters that are encoded. No character of the set
stands in the encoded text, but for the percent sign and the digits of the triples.
-/
namespace Campus.Text.Percent

def tripleDigit (n : Nat) : Char := if n < 10 then Char.ofNat (48 + n) else Char.ofNat (55 + n)

theorem triple_eq (b : UInt8) : triple b = ['%', tripleDigit (b.toNat / 16), tripleDigit (b.toNat % 16)] := rfl

theorem hexValue?_tripleDigit : ∀ n < 16, hexValue? (tripleDigit n) = some n := by decide

/-! ## Reading -/

theorem decode_triple (b : UInt8) (rest : List Char) : decode (triple b ++ rest) = b :: decode rest := by
  have hb : b.toNat < 256 := UInt8.toNat_lt_size b
  have hvalue : UInt8.ofNat (16 * (b.toNat / 16) + b.toNat % 16) = b := by
    rw [Nat.div_add_mod, UInt8.ofNat_toNat]
  rw [triple_eq, List.cons_append, List.cons_append, List.singleton_append, decode,
    hexValue?_tripleDigit _ (by omega), hexValue?_tripleDigit _ (by omega)]
  simp only [hvalue]

theorem decode_triples (bytes : List UInt8) (rest : List Char) :
    decode (bytes.flatMap triple ++ rest) = bytes ++ decode rest := by
  induction bytes with
  | nil => rfl
  | cons b bytes ih => rw [List.flatMap_cons, List.append_assoc, decode_triple, ih, List.cons_append]

theorem decode_cons {c : Char} (hc : c ≠ '%') (rest : List Char) :
    decode (c :: rest) = String.utf8EncodeChar c ++ decode rest := by
  rw [decode.eq_def]
  split
  case h_1 heq => cases heq
  case h_2 heq => exact absurd (List.cons.inj heq).1 hc
  case h_3 heq =>
    obtain ⟨rfl, rfl⟩ := List.cons.inj heq
    rfl

variable {inSet : Char → Bool}

theorem encode_cons (c : Char) (cs : List Char) : encode inSet (c :: cs) =
    (if inSet c || 0x7f ≤ c.toNat || c.toNat < 0x20 then (String.utf8EncodeChar c).flatMap triple else [c]) ++
      encode inSet cs := rfl

/-- What is encoded is read back, if the percent sign is encoded with it. -/
theorem decode_encode (hset : inSet '%' = true) (cs : List Char) : decode (encode inSet cs) = utf8Bytes cs := by
  induction cs with
  | nil => rfl
  | cons c cs ih =>
    rw [encode_cons, utf8Bytes, List.flatMap_cons, ← utf8Bytes, ← ih]
    split
    case isTrue => exact decode_triples _ _
    case isFalse hplain =>
      have hc : c ≠ '%' := by
        rintro rfl
        simp [hset] at hplain
      exact decode_cons hc _

theorem text_encode (hset : inSet '%' = true) (cs : List Char) : Utf8.decode? (decode (encode inSet cs)) = some cs := by
  rw [decode_encode hset, Utf8.decode?_utf8Bytes]

/-! ## What stands in an encoded text -/

theorem tripleDigit_mem : ∀ n < 16, tripleDigit n ∈ "0123456789ABCDEF".toList := by decide

theorem mem_triple {b : UInt8} {c : Char} (h : c ∈ triple b) : c ∈ "%0123456789ABCDEF".toList := by
  have hb : b.toNat < 256 := UInt8.toNat_lt_size b
  rw [triple_eq] at h
  simp only [List.mem_cons, List.not_mem_nil, or_false] at h
  have hdigit {d : Char} (hd : d ∈ "0123456789ABCDEF".toList) : d ∈ "%0123456789ABCDEF".toList := List.mem_cons_of_mem '%' hd
  rcases h with rfl | rfl | rfl
  · decide
  · exact hdigit (tripleDigit_mem _ (by omega))
  · exact hdigit (tripleDigit_mem _ (by omega))

/-- A character of an encoded text belongs to a triple, or stands for itself. -/
theorem mem_encode {cs : List Char} {c : Char} (h : c ∈ encode inSet cs) :
    c ∈ "%0123456789ABCDEF".toList ∨ c ∈ cs ∧ inSet c = false := by
  obtain ⟨d, hd, hc⟩ := List.mem_flatMap.mp h
  split at hc
  case isTrue =>
    obtain ⟨b, -, hb⟩ := List.mem_flatMap.mp hc
    exact .inl (mem_triple hb)
  case isFalse hplain =>
    obtain rfl := List.mem_singleton.mp hc
    exact .inr ⟨hd, by simp at hplain; exact hplain.1.1⟩

/-- A character of the set stands in no encoded text, unless triples are written with it. -/
theorem notMem_encode {c : Char} (hset : inSet c = true) (hdigit : c ∉ "%0123456789ABCDEF".toList) (cs : List Char) :
    c ∉ encode inSet cs := by
  intro hmem
  rcases mem_encode hmem with htriple | ⟨-, hplain⟩
  · exact hdigit htriple
  · rw [hset] at hplain
    cases hplain

/-- A text of characters that stand for themselves is encoded as it is. -/
theorem encode_of_plain {cs : List Char} (h : ∀ c ∈ cs, inSet c = false ∧ 0x20 ≤ c.toNat ∧ c.toNat < 0x7f) :
    encode inSet cs = cs := by
  induction cs with
  | nil => rfl
  | cons c cs ih =>
    obtain ⟨hset, hlow, hhigh⟩ := h c (by simp)
    have hplain : ¬(inSet c || 0x7f ≤ c.toNat || c.toNat < 0x20) = true := by simp [hset]; omega
    rw [encode_cons, if_neg hplain, ih fun d hd => h d (List.mem_cons_of_mem c hd), List.singleton_append]

end Campus.Text.Percent
