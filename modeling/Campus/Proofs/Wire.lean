import Campus.Proofs.Json.Record
import Campus.Proofs.Text.Utf8
import Campus.Wire

/-! # Records over the wire and back

A wire format is lossless when a reader finds each value in front of any text. What one service encodes another one then decodes
to the same value, from the text as well as from its bytes. A moment has no text of its own in a leap second inside a minute, so a record
that holds such a moment arrives with the moment that has its text.
-/
namespace Campus

open Json

namespace Wire

/-- How the values of a type travel: each is written like a sound one, a sound one is read back from what is written for it, and nothing
else is read. -/
structure Conveys (α : Type) [Wire α] (IsSound : α → Prop) (asRead : α → α) : Prop where
  isSound_asRead (a : α) : IsSound (asRead a)
  write_asRead (a : α) : write (asRead a) = write a
  read_write {a : α} (h : IsSound a) (rest : List Glyph) : read ((write a).map some ++ rest) = .ok (a, rest)
  isSound_of_read {a : α} {cs rest : List Glyph} : read cs = .ok (a, rest) → IsSound a

/-- What travels in a format arrives: each value is decoded as the value it is read as, from its text and from the bytes of its text, and
whatever value a text is decoded to, stray bytes or not, is decoded again from its own text. -/
structure Arrives (α : Type) [Wire α] (asRead : α → α) : Prop where
  decode_encode (a : α) : decode (encode a) = .ok (asRead a)
  decodeGlyphs_bytes (a : α) : decodeGlyphs (Text.Utf8.places (Text.utf8Bytes (encode a).toList)) = .ok (asRead a)
  decode_again (cs : List Glyph) (a : α) : decodeGlyphs cs = .ok a → decode (encode a) = .ok a

abbrev RoundTrips (α : Type) [Wire α] : Prop := Arrives α id

namespace Conveys

variable {α : Type} [Wire α] {IsSound : α → Prop} {asRead : α → α}

theorem decodeGlyphs_write (h : Conveys α IsSound asRead) {a : α} (ha : IsSound a) :
    decodeGlyphs ((write a).map some) = .ok a := by
  have hread := h.read_write ha []
  rw [List.append_nil] at hread
  simp [decodeGlyphs, whole, hread, bind, Except.bind, skipSpace, pure, Except.pure]

theorem decode_encode (h : Conveys α IsSound asRead) {a : α} (ha : IsSound a) : decode (encode a) = .ok a := by
  rw [decode, encode, glyphs, String.toList_ofList]
  exact h.decodeGlyphs_write ha

theorem decodeGlyphs_places_utf8Bytes (h : Conveys α IsSound asRead) {a : α} (ha : IsSound a) :
    decodeGlyphs (Text.Utf8.places (Text.utf8Bytes (write a))) = .ok a := by
  have hplaces : Text.Utf8.places (Text.utf8Bytes (write a)) = (write a).map some := by
    rw [Text.Utf8.places, Text.Utf8.pieces_utf8Bytes, List.flatMap_map]
    exact List.map_eq_flatMap.symm
  rw [hplaces, h.decodeGlyphs_write ha]

theorem isSound_of_decodeGlyphs (h : Conveys α IsSound asRead) {cs : List Glyph} {a : α} (ha : decodeGlyphs cs = .ok a) :
    IsSound a := by
  rcases hread : (read cs : Reading α) with flaw | ⟨b, rest⟩ <;>
    simp only [decodeGlyphs, whole, hread, bind, Except.bind] at ha
  · cases ha
  · split at ha
    case isTrue =>
      cases ha
      exact h.isSound_of_read hread
    case isFalse => cases ha

theorem arrives (h : Conveys α IsSound asRead) : Arrives α asRead where
  decode_encode a := by
    rw [encode, ← h.write_asRead a]
    exact h.decode_encode (h.isSound_asRead a)
  decodeGlyphs_bytes a := by
    rw [encode, String.toList_ofList, ← h.write_asRead a]
    exact h.decodeGlyphs_places_utf8Bytes (h.isSound_asRead a)
  decode_again _ _ ha := h.decode_encode (h.isSound_of_decodeGlyphs ha)

end Conveys

/-- A type whose values are read back from what is written for them. -/
class Lossless (α : Type) [Wire α] : Prop where
  opens (a : α) : OpensItem (write a)
  read_write (a : α) (rest : List Glyph) : read ((write a).map some ++ rest) = .ok (a, rest)

theorem conveys_lossless (α : Type) [Wire α] [Lossless α] : Conveys α (fun _ => True) id where
  isSound_asRead _ := trivial
  write_asRead _ := rfl
  read_write _ := Lossless.read_write _
  isSound_of_read _ := trivial

theorem decodeGlyphs_places_utf8Bytes {α : Type} [Wire α] [Lossless α] (a : α) :
    decodeGlyphs (Text.Utf8.places (Text.utf8Bytes (write a))) = .ok a :=
  (conveys_lossless α).decodeGlyphs_places_utf8Bytes trivial

instance {α : Type} [Wire α] [Lossless α] : Lossless (List α) where
  opens _ := ⟨'[', _, rfl, rfl, by decide⟩
  read_write := readList_written Lossless.opens Lossless.read_write

/-- A record is read back from what is written for it when each field keeps its value and the values make it up again. -/
theorem read_write_ofSchema {β : Type} {fields : List Field} {values : β → List Scalar} {make : List Scalar → Option β} {b : β}
    (hnames : (fields.map Field.name).Nodup) (hkeeps : List.Forall₂ Field.Keeps fields (values b))
    (hmake : make (values b) = some b) (rest : List Glyph) :
    (ofSchema fields values make).read (((ofSchema fields values make).write b).map some ++ rest) = .ok (b, rest) := by
  have hrecord := readRecord_written hnames hkeeps rest
  simp only [read, write, hrecord, hmake]

theorem lossless_ofSchema {β : Type} {fields : List Field} {values : β → List Scalar} {make : List Scalar → Option β}
    (hnames : (fields.map Field.name).Nodup) (hkeeps : ∀ b, List.Forall₂ Field.Keeps fields (values b))
    (hmake : ∀ b, make (values b) = some b) : @Lossless β (ofSchema fields values make) :=
  letI := ofSchema fields values make
  { opens := fun _ => ⟨'\x7b', _, rfl, rfl, by decide⟩
    read_write := fun b rest => read_write_ofSchema hnames (hkeeps b) (hmake b) rest }

/-- The values of a record that is read leap at the end of a minute, if its defaults do. -/
theorem exists_values_of_read_ofSchema {β : Type} {fields : List Field} {values : β → List Scalar}
    {make : List Scalar → Option β} (hdefaults : DefaultsLeapAtEnd fields) {cs rest : List Glyph} {b : β}
    (h : (ofSchema fields values make).read cs = .ok (b, rest)) :
    ∃ vs, make vs = some b ∧ ∀ v ∈ vs, v.LeapsAtEnd := by
  simp only [read] at h
  split at h
  case h_1 => cases h
  case h_2 hrecord =>
    split at h
    case h_1 hmake =>
      cases h
      exact ⟨_, hmake, leapsAtEnd_readRecord hdefaults hrecord⟩
    case h_2 => cases h

theorem keeps_required {name : String} {shape : Shape} {v : Scalar} (h : Legible shape v) :
    (Field.required name shape).Keeps v := by
  rw [Field.Keeps, if_neg (by simp [Field.required])]
  exact h

theorem legible_int64 (v : Int64) : Legible int64 (.int v.toInt) :=
  legible_int (by decide) (by decide) v.minValue_le_toInt v.toInt_le

theorem legible_int32 (v : Int32) : Legible int32 (.int v.toInt) :=
  legible_int (by decide) (by decide) v.minValue_le_toInt v.toInt_le

theorem legible_uint32 (v : UInt32) : Legible uint32 (.int v.toNat) := by
  have hsize : v.toNat < 4294967296 := v.toNat_lt
  exact legible_int (by decide) (by decide) (by omega) (by omega)

theorem keeps_optional (name : String) (s : Option String) : (Field.optional name).Keeps (s.elim .absent .text) := by
  rw [Field.Keeps, if_neg (by simp [Field.optional])]
  cases s with
  | none => exact legible_absent
  | some s => exact legible_optionalText s

theorem keeps_grade (v : Int32) : gradeField.Keeps (.int v.toInt) := by
  rw [Field.Keeps]
  split
  case isTrue hzero => exact hzero
  case isFalse => exact legible_int32 v

/-- The grade of a payload is written even when it is zero. -/
theorem keeps_newGrade (v : Int32) : newGradeField.Keeps (.int v.toInt) := by
  rw [Field.Keeps, if_neg (by simp [newGradeField])]
  exact legible_int32 v

instance : Lossless Student := lossless_ofSchema (by decide)
  (fun s => .cons (keeps_required (legible_int64 s.id)) (.cons (keeps_required (legible_text s.fullname))
    (.cons (keeps_required (legible_date s.dateOfBirth)) (.cons (keeps_grade s.grade)
      (.cons (keeps_required (legible_int64 s.phone)) .nil)))))
  (fun s => by simp)

instance : Lossless Course := lossless_ofSchema (by decide)
  (fun c => .cons (keeps_required (legible_int64 c.id)) (.cons (keeps_required (legible_text c.name)) .nil))
  (fun c => by simp)

instance : Lossless NewStudent := lossless_ofSchema (by decide)
  (fun s => .cons (keeps_required (legible_text s.fullname)) (.cons (keeps_required (legible_date s.dateOfBirth))
    (.cons (keeps_newGrade s.grade) (.cons (keeps_required (legible_int64 s.phone)) .nil))))
  (fun s => by simp)

instance : Lossless NewCourse := lossless_ofSchema (by decide)
  (fun c => .cons (keeps_required (legible_text c.name)) .nil)
  (fun _ => rfl)

instance : Lossless NewEnrollment := lossless_ofSchema (by decide)
  (fun e => .cons (keeps_required (legible_int64 e.courseId)) .nil)
  (fun e => by simp)

instance : Lossless NewAccount := lossless_ofSchema (by decide)
  (fun a => .cons (keeps_required (legible_text a.username)) (.cons (keeps_required (legible_text a.fullName))
    (.cons (keeps_required (legible_text a.email)) .nil)))
  (fun _ => rfl)

instance : Lossless AccountUpdate := lossless_ofSchema (by decide)
  (fun u => by
    have hname := keeps_optional "full_name" u.fullName
    have hemail := keeps_optional "email" u.email
    obtain ⟨fullName, email⟩ := u
    cases fullName <;> cases email <;> exact .cons hname (.cons hemail .nil))
  (fun u => by
    obtain ⟨fullName, email⟩ := u
    cases fullName <;> cases email <;> rfl)

instance : Lossless Page := lossless_ofSchema (by decide)
  (fun p => .cons (keeps_required (legible_uint32 p.limit)) (.cons (keeps_required (legible_uint32 p.offset)) .nil))
  (fun p => by simp)

end Wire

theorem FaultKind.ofLabel?_label (k : FaultKind) : ofLabel? k.label = some k := by
  cases k <;> decide

instance : Wire.Lossless FaultKind where
  opens _ := ⟨'"', _, rfl, rfl, by decide⟩
  read_write k := readName_written k.ofLabel?_label

instance : Wire.Lossless ErrorEnvelope := Wire.lossless_ofSchema (by decide)
  (fun e => .cons (Wire.keeps_required (legible_text e.error)) .nil)
  (fun _ => rfl)

def Enrollment.asRead (e : Enrollment) : Enrollment := { e with createdAt := e.createdAt.asRead }

def Account.asRead (a : Account) : Account := { a with createdAt := a.createdAt.asRead }

namespace Wire

theorem conveys_enrollment : Conveys Enrollment (fun e => e.createdAt.LeapsAtEnd) Enrollment.asRead where
  isSound_asRead e := e.createdAt.leapsAtEnd_asRead
  write_asRead e := by
    simp only [write, Enrollment.asRead, writeRecord, Field.required, List.zip_cons_cons, List.filterMap_cons, Scalar.chars,
      Moment.text_asRead]
    rfl
  read_write {e} h := read_write_ofSchema (by decide)
    (.cons (keeps_required (legible_int64 e.id)) (.cons (keeps_required (legible_int64 e.studentId))
      (.cons (keeps_required (legible_int64 e.courseId)) (.cons (keeps_required (legible_moment h)) .nil))))
    (by simp)
  isSound_of_read h := by
    obtain ⟨vs, hmake, hvs⟩ := exists_values_of_read_ofSchema (by simp [DefaultsLeapAtEnd, Field.required]) h
    split at hmake
    case h_1 =>
      cases hmake
      exact hvs (.moment _) (by simp)
    case h_2 => cases hmake

theorem conveys_account : Conveys Account (fun a => a.createdAt.LeapsAtEnd) Account.asRead where
  isSound_asRead a := a.createdAt.leapsAtEnd_asRead
  write_asRead a := by
    simp only [write, Account.asRead, writeRecord, Field.required, List.zip_cons_cons, List.filterMap_cons, Scalar.chars,
      Moment.text_asRead]
    rfl
  read_write {a} h := read_write_ofSchema (by decide)
    (.cons (keeps_required (legible_text a.username)) (.cons (keeps_required (legible_text a.fullName))
      (.cons (keeps_required (legible_text a.email)) (.cons (keeps_required (legible_moment h)) .nil))))
    rfl
  isSound_of_read h := by
    obtain ⟨vs, hmake, hvs⟩ := exists_values_of_read_ofSchema (by simp [DefaultsLeapAtEnd, Field.required]) h
    split at hmake
    case h_1 =>
      cases hmake
      exact hvs (.moment _) (by simp)
    case h_2 => cases hmake

/-- Every record, list, page, envelope and fault kind that travels arrives as it was sent, except that an enrollment or an account whose
moment lies in a leap second inside a minute arrives with the moment that has the same text, in the second after. -/
theorem arrives_all : RoundTrips Student ∧ RoundTrips NewStudent ∧ RoundTrips Course ∧ RoundTrips (List Course) ∧
    RoundTrips NewCourse ∧ Arrives Enrollment Enrollment.asRead ∧ RoundTrips NewEnrollment ∧ Arrives Account Account.asRead ∧
    RoundTrips NewAccount ∧ RoundTrips AccountUpdate ∧ RoundTrips Page ∧ RoundTrips ErrorEnvelope ∧ RoundTrips FaultKind ∧
    ∀ m : Moment, m.asRead = m ↔ m.LeapsAtEnd := by
  refine ⟨?_, ?_, ?_, ?_, ?_, conveys_enrollment.arrives, ?_, conveys_account.arrives, ?_, ?_, ?_, ?_, ?_,
    Moment.asRead_eq_iff⟩ <;> exact (conveys_lossless _).arrives

/-- Half a second into a leap second that comes 30 seconds into a minute. -/
def insideMinute : Moment := ⟨⟨2024, 9, 3, by decide⟩, 28830, 1500000000, by decide, by decide⟩

/-- An enrollment of that moment does not come back. -/
theorem not_roundTrips_enrollment :
    decode (encode (⟨1, 1, 10, insideMinute⟩ : Enrollment)) ≠ .ok (⟨1, 1, 10, insideMinute⟩ : Enrollment) := by
  rw [conveys_enrollment.arrives.decode_encode]
  intro h
  have hmoment : insideMinute.asRead = insideMinute := congrArg Enrollment.createdAt (Except.ok.inj h)
  exact absurd hmoment (by decide)

end Wire

end Campus
