import Campus.Proofs.Text.Percent
import Campus.Url.Path

/-! # Segments that are pushed

What becomes of a path of the web when segments are pushed behind it. A segment that is no dots and holds no tabs and line breaks is
there in the end and stands for itself. Any other either arrives without its tabs and line breaks, or adds nothing to the path that
could be read.
-/
namespace Campus.Url

open Text

/-- A segment without tabs and line breaks. -/
def unbroken (segment : List Char) : List Char := segment.filter fun c => c ≠ '\t' ∧ c ≠ '\n' ∧ c ≠ '\r'

/-- A segment that is no dots and holds no tabs and line breaks. -/
structure Travels (segment : List Char) : Prop where
  ne_dot : segment ≠ ['.']
  ne_dots : segment ≠ ['.', '.']
  unbroken_eq : unbroken segment = segment

/-- A segment without the signs that end a segment or a path. -/
structure Whole (segment : List Char) : Prop where
  slash : '/' ∉ segment
  hash : '#' ∉ segment
  mark : '?' ∉ segment

def escape (scheme segment : List Char) : List Char :=
  Percent.encode (fun c => Percent.segmentSet c || (isSpecial scheme && c == '\\')) segment

def giveWay (segments : List (List Char)) : List (List Char) := if segments = [[]] then [] else segments

/-- What is kept of the path of an address when a path of names is put behind it: all but one empty segment at the end. Of the path
of two slashes nothing is kept. -/
def carried (segments : List (List Char)) : List (List Char) :=
  if segments = [[], []] then [] else if segments.getLast? = some [] then segments.dropLast else segments

/-- A segment that adds nothing to read: dots or nothing, once its tabs and line breaks are left out. -/
def Vanishes (segment : List Char) : Prop := unbroken segment ∈ [[], ['.'], ['.', '.']]

def names (segments : List (List Char)) : Nat := segments.countP (· ≠ [])

@[simp] theorem names_append (segments others : List (List Char)) : names (segments ++ others) = names segments + names others :=
  List.countP_append

theorem whole_nil : Whole [] := ⟨List.not_mem_nil, List.not_mem_nil, List.not_mem_nil⟩

/-! ## Dots -/

/-- The large letter of a small one, and the character itself for any other. -/
theorem of_toLower_eq {c d : Char} (h : c.toLower = d) : c = d ∨ c.toNat + 32 = d.toNat ∧ 65 ≤ c.toNat ∧ c.toNat ≤ 90 := by
  unfold Char.toLower at h
  split at h
  case isTrue hlarge =>
    obtain ⟨hlow, hhigh⟩ := hlarge
    have hlow : 65 ≤ c.toNat := UInt32.le_iff_toNat_le.mp hlow
    have hhigh : c.toNat ≤ 90 := UInt32.le_iff_toNat_le.mp hhigh
    have hvalue : (c.val + 32).toNat = d.toNat := congrArg Char.toNat h
    have hsum : (c.val + 32).toNat = c.toNat + 32 := by
      rw [UInt32.toNat_add]
      exact Nat.mod_eq_of_lt (by change c.toNat + 32 < _; omega)
    exact .inr ⟨hsum ▸ hvalue, hlow, hhigh⟩
  case isFalse => exact .inl h

/-- A dot in front of a text whose letters were made small, written as itself or as a triple, is read as a dot. -/
theorem decode_of_lowered {segment ds : List Char}
    (h : segment.map Char.toLower = '.' :: ds ∨ segment.map Char.toLower = '%' :: '2' :: 'e' :: ds) :
    ∃ rest, Percent.decode segment = 0x2e :: Percent.decode rest ∧ rest.map Char.toLower = ds := by
  have hplain {c d : Char} (hc : c.toLower = d) (hd : d.toNat < 97) : c = d := by
    rcases of_toLower_eq hc with hsame | ⟨hvalue, hlow, -⟩
    · exact hsame
    · omega
  rcases h with hdot | hcoded
  · obtain ⟨c, rest, rfl, hc, hrest⟩ := List.map_eq_cons_iff.mp hdot
    obtain rfl := hplain hc (by decide)
    exact ⟨rest, Percent.decode_cons (by decide) rest, hrest⟩
  · obtain ⟨c, behind, rfl, hc, hbehind⟩ := List.map_eq_cons_iff.mp hcoded
    obtain ⟨c₂, behind₂, rfl, hc₂, hbehind₂⟩ := List.map_eq_cons_iff.mp hbehind
    obtain ⟨c₃, rest, rfl, hc₃, hrest⟩ := List.map_eq_cons_iff.mp hbehind₂
    obtain rfl := hplain hc (by decide)
    obtain rfl := hplain hc₂ (by decide)
    refine ⟨rest, ?_, hrest⟩
    rcases of_toLower_eq hc₃ with rfl | ⟨hvalue, -, -⟩
    · rfl
    · have hlarge : c₃ = 'E' := Char.toNat_inj.mp (by change c₃.toNat = 69; change c₃.toNat + 32 = 101 at hvalue; omega)
      subst hlarge
      rfl

theorem decode_of_dots {segment : List Char} (h : dots segment ≠ 0) :
    Percent.decode segment = [0x2e] ∨ Percent.decode segment = [0x2e, 0x2e] := by
  have hone {segment : List Char} (hs : segment.map Char.toLower = ['.'] ∨ segment.map Char.toLower = ['%', '2', 'e']) :
      Percent.decode segment = [0x2e] := by
    obtain ⟨rest, hread, hrest⟩ := decode_of_lowered hs
    rw [hread, List.map_eq_nil_iff.mp hrest]
    rfl
  have htwo {ds : List Char} (hs : segment.map Char.toLower = '.' :: ds ∨ segment.map Char.toLower = '%' :: '2' :: 'e' :: ds)
      (hds : ds = ['.'] ∨ ds = ['%', '2', 'e']) : Percent.decode segment = [0x2e, 0x2e] := by
    obtain ⟨rest, hread, hrest⟩ := decode_of_lowered hs
    rw [hread, hone (hrest ▸ hds)]
  have htext {text : String} (hs : String.ofList (segment.map Char.toLower) = text) :
      segment.map Char.toLower = text.toList := by rw [← hs, String.toList_ofList]
  unfold dots at h
  split at h
  case h_1 hs => exact .inl (hone (.inl (htext hs)))
  case h_2 hs => exact .inl (hone (.inr (htext hs)))
  case h_3 hs => exact .inr (htwo (.inl (htext hs)) (.inl rfl))
  case h_4 hs => exact .inr (htwo (.inr (htext hs)) (.inl rfl))
  case h_5 hs => exact .inr (htwo (.inl (htext hs)) (.inr rfl))
  case h_6 hs => exact .inr (htwo (.inr (htext hs)) (.inr rfl))
  case h_7 => exact absurd rfl h

section Escape

variable (scheme : List Char)

theorem decode_escape (segment : List Char) : Percent.decode (escape scheme segment) = utf8Bytes segment :=
  Percent.decode_encode (by rfl) segment

/-- A segment that is written behind a path is read back. -/
theorem text_escape (segment : List Char) : Utf8.decode? (Percent.decode (escape scheme segment)) = some segment :=
  Percent.text_encode (by rfl) segment

theorem escape_injective : Function.Injective (escape scheme) := by
  intro s s' h
  have hread := text_escape scheme s'
  rw [← h, text_escape, Option.some.injEq] at hread
  exact hread

theorem escape_ne_nil {segment : List Char} (h : segment ≠ []) : escape scheme segment ≠ [] :=
  fun hnil => h (escape_injective scheme hnil)

theorem whole_escape (segment : List Char) : Whole (escape scheme segment) where
  slash := Percent.notMem_encode (by rfl) (by decide) segment
  hash := Percent.notMem_encode (by rfl) (by decide) segment
  mark := Percent.notMem_encode (by rfl) (by decide) segment

theorem escape_dots {segment : List Char} (h : ∀ c ∈ segment, c = '.') : escape scheme segment = segment := by
  refine Percent.encode_of_plain fun c hc => ?_
  obtain rfl := h c hc
  refine ⟨?_, by decide, by decide⟩
  cases isSpecial scheme <;> rfl

theorem dots_escape {segment : List Char} (hdot : segment ≠ ['.']) (hdots : segment ≠ ['.', '.']) :
    dots (escape scheme segment) = 0 := by
  refine Decidable.byContradiction fun h => ?_
  have hbytes := decode_of_dots h
  rw [decode_escape] at hbytes
  rcases hbytes with hone | htwo
  · exact hdot (Utf8.utf8Bytes_injective hone)
  · exact hdots (Utf8.utf8Bytes_injective htwo)

end Escape

/-! ## One segment more -/

theorem Travels.not_vanishes {segment : List Char} (h : Travels segment) (hne : segment ≠ []) : ¬Vanishes segment := by
  rw [Vanishes, h.unbroken_eq]
  simp [hne, h.ne_dot, h.ne_dots]

theorem travels_of_unbroken {segment : List Char} (h : ¬Vanishes segment) (hsame : unbroken segment = segment) :
    Travels segment := by
  rw [Vanishes, hsame] at h
  simp only [List.mem_cons, List.not_mem_nil, or_false, not_or] at h
  exact ⟨h.2.1, h.2.2, hsame⟩

@[simp] theorem names_giveWay (segments : List (List Char)) : names (giveWay segments) = names segments := by
  unfold giveWay
  split
  case isTrue h => rw [h]; rfl
  case isFalse => rfl

/-- One empty segment less at the end changes nothing that could be read. -/
@[simp] theorem names_dropEmptyEnd (segments : List (List Char)) : names (dropEmptyEnd segments) = names segments := by
  unfold dropEmptyEnd
  split
  case isTrue h =>
    obtain ⟨front, rfl⟩ := List.getLast?_eq_some_iff.mp h.1
    rw [List.dropLast_concat, names_append]
    rfl
  case isFalse => rfl

theorem giveWay_dropEmptyEnd (segments : List (List Char)) : giveWay (dropEmptyEnd segments) = carried segments := by
  by_cases hlast : segments.getLast? = some []
  · obtain ⟨front, rfl⟩ := List.getLast?_eq_some_iff.mp hlast
    cases front with
    | nil => rfl
    | cons s rest =>
      have hkept : dropEmptyEnd (s :: rest ++ [[]]) = s :: rest := by
        rw [dropEmptyEnd, if_pos ⟨hlast, by simp⟩, List.dropLast_concat]
      rw [hkept, carried, if_pos hlast, List.dropLast_concat, giveWay]
      simp
  · have hkept : dropEmptyEnd segments = segments := if_neg fun h => hlast h.1
    have hbare : segments ≠ [[]] := by
      rintro rfl
      exact hlast rfl
    have hnot : segments ≠ [[], []] := by
      rintro rfl
      exact hlast rfl
    rw [hkept, giveWay, if_neg hbare, carried, if_neg hnot, if_neg hlast]

theorem mem_of_mem_carried {segments : List (List Char)} {s : List Char} (h : s ∈ carried segments) : s ∈ segments := by
  unfold carried at h
  split at h
  case isTrue => cases h
  case isFalse =>
    split at h
    case isTrue => exact (List.dropLast_sublist segments).subset h
    case isFalse => exact h

section Push

variable {scheme : List Char} (hfile : namesFiles scheme = false) (segments : List (List Char)) {segment : List Char}
include hfile

theorem push_eq (hdot : segment ≠ ['.']) (hdots : segment ≠ ['.', '.']) :
    push scheme segments segment = resolve false (giveWay segments) [escape scheme (unbroken segment)] := by
  unfold push
  rw [if_neg (by simp [hdot, hdots])]
  simp only [hfile, Bool.false_eq_true, if_false]
  rfl

/-- A segment that does not vanish arrives without its tabs and line breaks. -/
theorem push_of_not_vanishes (h : ¬Vanishes segment) :
    push scheme segments segment = giveWay segments ++ [escape scheme (unbroken segment)] := by
  simp only [Vanishes, List.mem_cons, List.not_mem_nil, or_false, not_or] at h
  obtain ⟨-, hdot, hdots⟩ := h
  have hne : segment ≠ ['.'] ∧ segment ≠ ['.', '.'] := by
    constructor <;> rintro rfl
    · exact hdot rfl
    · exact hdots rfl
  rw [push_eq hfile segments hne.1 hne.2, resolve, dots_escape scheme hdot hdots]
  rfl

/-- A segment that vanishes adds nothing to read, though two dots may take something away. -/
theorem names_push_of_vanishes (h : Vanishes segment) : names (push scheme segments segment) ≤ names segments := by
  by_cases hdots : segment = ['.'] ∨ segment = ['.', '.']
  · exact Nat.le_of_eq (congrArg names (if_pos hdots))
  · obtain ⟨hdot, hdots⟩ := not_or.mp hdots
    rw [push_eq hfile segments hdot hdots, ← names_giveWay segments]
    generalize giveWay segments = walked
    have hback : names (back walked) ≤ names walked := by
      unfold back
      split
      case isTrue => exact Nat.le_refl _
      case isFalse => exact (List.dropLast_sublist walked).countP_le
    have hempty (walked : List (List Char)) : names (walked ++ [[]]) = names walked := names_append walked [[]]
    have hvanished : unbroken segment = [] ∨ unbroken segment = ['.'] ∨ unbroken segment = ['.', '.'] := by
      simpa [Vanishes] using h
    rcases hvanished with hnone | hone | htwo
    · rw [hnone]
      exact Nat.le_of_eq (hempty walked)
    · rw [hone, escape_dots scheme (by simp), resolve, show dots ['.'] = 1 by decide]
      exact Nat.le_of_eq (hempty walked)
    · rw [htwo, escape_dots scheme (by simp), resolve, show dots ['.', '.'] = 2 by decide]
      exact Nat.le_trans (Nat.le_of_eq (hempty _)) hback

theorem names_push_le : names (push scheme segments segment) ≤ names segments + 1 := by
  by_cases h : Vanishes segment
  · exact Nat.le_succ_of_le (names_push_of_vanishes hfile segments h)
  · rw [push_of_not_vanishes hfile segments h, names_append, names_giveWay]
    exact Nat.add_le_add_left List.countP_le_length _

/-! ## A path of segments more -/

variable (list : List (List Char))

/-- Segments that do not vanish arrive in their order. -/
theorem foldl_push (hne : list ≠ []) (hlist : ∀ s ∈ list, ¬Vanishes s) :
    list.foldl (push scheme) segments = giveWay segments ++ list.map fun s => escape scheme (unbroken s) := by
  induction list generalizing segments with
  | nil => exact absurd rfl hne
  | cons s rest ih =>
    have hs : ¬Vanishes s := hlist s (by simp)
    rw [List.foldl_cons, push_of_not_vanishes hfile segments hs, List.map_cons]
    cases rest with
    | nil => rfl
    | cons s' rest =>
      have hread : unbroken s ≠ [] := fun h => hs (by simp [Vanishes, h])
      have hstays : giveWay (giveWay segments ++ [escape scheme (unbroken s)]) =
          giveWay segments ++ [escape scheme (unbroken s)] := by
        refine if_neg fun h => escape_ne_nil scheme hread ?_
        simpa using congrArg List.getLast? h
      rw [ih _ (by simp) fun r hr => hlist r (List.mem_cons_of_mem s hr), hstays, List.append_assoc, List.singleton_append]

theorem names_foldl_push_le : names (list.foldl (push scheme) segments) ≤ names segments + list.length := by
  induction list generalizing segments with
  | nil => exact Nat.le_refl _
  | cons s rest ih =>
    have hrest := ih (push scheme segments s)
    have hs : names (push scheme segments s) ≤ names segments + 1 := names_push_le hfile segments
    rw [List.foldl_cons, List.length_cons]
    omega

/-- Where a segment vanishes there is less to read than there were segments. -/
theorem names_foldl_push_lt (h : segment ∈ list) (hvanishes : Vanishes segment) :
    names (list.foldl (push scheme) segments) < names segments + list.length := by
  obtain ⟨front, rest, rfl⟩ := List.append_of_mem h
  rw [List.foldl_append, List.foldl_cons, List.length_append, List.length_cons]
  have hfront := names_foldl_push_le hfile segments front
  have hpush := names_push_of_vanishes hfile (front.foldl (push scheme) segments) hvanishes
  have hrest := names_foldl_push_le hfile (push scheme (front.foldl (push scheme) segments) segment) rest
  omega

end Push

end Campus.Url
