import Campus.Json.Schema
import Campus.Proofs.Calendar.Moment
import Campus.Proofs.Json.Text
import Mathlib.Data.List.Forall2

/-! # Records and lists in JSON and back

A value is legible as a shape when a reader of that shape finds it in front of any text that can follow it. A record of legible
values is read back from what is written for it, and so is a list whose items are. No moment that is read lies in a leap second inside a
minute.
-/
namespace Campus.Json

/-! ## Values -/

/-- A value that a reader of a shape reads back from what is written for it. -/
def Legible (shape : Shape) (v : Scalar) : Prop :=
  ∀ rest, EndsValue rest → readScalar shape (v.chars.map some ++ rest) = .ok (v, rest)

theorem skipSpace_quote (cs : List Glyph) : skipSpace (some '"' :: cs) = some '"' :: cs := skipSpace_cons rfl cs

theorem readTextAs_written (make : String → Option Scalar) {s : String} {v : Scalar} (h : make s = some v)
    (rest : List Glyph) :
    readTextAs make (some '"' :: ((s.toList.flatMap escapeChar ++ ['"']).map some ++ rest)) = .ok (v, rest) := by
  simp only [readTextAs, stringRest_written, h]

theorem legible_text (s : String) : Legible .text (.text s) := by
  intro rest _
  have hread := readTextAs_written (fun s => some (.text s)) (s := s) rfl rest
  simp only [readScalar, Scalar.chars, stringChars_eq, List.map_cons, List.cons_append, skipSpace_quote, hread]

theorem legible_date (d : Date) : Legible .date (.date d) := by
  intro rest _
  have hmake : (Date.parse? d.text).map Scalar.date = some (.date d) := by rw [Date.parse?_text, Option.map_some]
  have hread := readTextAs_written (fun s => (Date.parse? s).map .date) hmake rest
  simp only [readScalar, Scalar.chars, stringChars_eq, List.map_cons, List.cons_append, skipSpace_quote, hread]

theorem legible_moment {m : Moment} (h : m.LeapsAtEnd) : Legible .moment (.moment m) := by
  intro rest _
  have hmake : (Moment.parse? m.text).map Scalar.moment = some (.moment m) := by
    rw [Moment.parse?_text, Moment.asRead_of_leapsAtEnd h, Option.map_some]
  have hread := readTextAs_written (fun s => (Moment.parse? s).map .moment) hmake rest
  simp only [readScalar, Scalar.chars, stringChars_eq, List.map_cons, List.cons_append, skipSpace_quote, hread]

theorem legible_optionalText (s : String) : Legible .optionalText (.text s) := by
  intro rest _
  have hread := readTextAs_written (fun s => some (.text s)) (s := s) rfl rest
  simp only [readScalar, Scalar.chars, stringChars_eq, List.map_cons, List.cons_append, skipSpace_quote, hread]
  rfl

theorem legible_absent : Legible .optionalText .absent := by
  intro rest _
  have hword : word ['u', 'l', 'l'] (some 'u' :: some 'l' :: some 'l' :: rest) = .ok rest := by simp [word]
  have hspace : isSpace (some 'n') = false := rfl
  simp only [readScalar, Scalar.chars, List.map_cons, List.map_nil, List.cons_append, List.nil_append,
    skipSpace_cons hspace, hword]
  rfl

theorem head_intChars (v : Int) : ∃ c cs, intChars v = c :: cs ∧ (c = '-' ∨ c.isDigit = true) := by
  unfold intChars
  split
  case isTrue => exact ⟨'-', _, rfl, .inl rfl⟩
  case isFalse =>
    obtain ⟨c, cs, hcons⟩ := List.exists_cons_of_ne_nil (Text.digits_ne_nil v.natAbs)
    exact ⟨c, cs, hcons, .inr (Text.isDigit_of_mem_digits (by rw [hcons]; exact List.mem_cons_self))⟩

theorem isSpace_digit {c : Char} (h : c = '-' ∨ c.isDigit = true) : isSpace (some c) = false := by
  rw [Bool.eq_false_iff]
  intro hspace
  have hspaces : ((c = ' ' ∨ c = '\n') ∨ c = '\t') ∨ c = '\r' := by simpa [isSpace] using hspace
  rcases hspaces with ((rfl | rfl) | rfl) | rfl <;> revert h <;> decide

theorem legible_int {lo hi v : Int} (hwide : -9223372036854775808 ≤ lo) (hnarrow : hi < UInt64.size) (hlo : lo ≤ v)
    (hhi : v ≤ hi) : Legible (.int lo hi) (.int v) := by
  intro rest hrest
  have hnumeral := numeral_intChars (Int.le_trans hwide hlo) (Int.lt_of_le_of_lt hhi hnarrow) hrest
  obtain ⟨c, cs, hcons, hc⟩ := head_intChars v
  rw [hcons, List.map_cons, List.cons_append] at hnumeral
  have hfirst : some c = some '-' ∨ isDigit (some c) = true := hc.imp (congrArg some) id
  simp only [readScalar, Scalar.chars, hcons, List.map_cons, List.cons_append, skipSpace_cons (isSpace_digit hc), hfirst,
    if_true, hnumeral, hlo, hhi, and_self]

/-! ## Items between commas -/

section Items

def itemsChars {α : Type} (write : α → List Char) (isFirst : Bool) : List α → List Char
  | [] => []
  | a :: as => (if isFirst then [] else [',']) ++ (write a ++ itemsChars write false as)

variable {α : Type}

theorem commaSeparated_items (write : α → List Char) (as : List α) :
    commaSeparated (as.map write) = itemsChars write true as := by
  induction as with
  | nil => rfl
  | cons a as ih =>
    cases as with
    | nil => simp [commaSeparated, itemsChars]
    | cons b as => simp_all [commaSeparated, itemsChars]

/-- A text that can be an item: it begins with a character that is neither white space nor a closing bracket. -/
def OpensItem (cs : List Char) : Prop := ∃ c tail, cs = c :: tail ∧ isSpace (some c) = false ∧ c ≠ ']'

theorem length_le_itemsChars {write : α → List Char} (hopens : ∀ a, OpensItem (write a)) (isFirst : Bool) (as : List α) :
    as.length ≤ (itemsChars write isFirst as).length := by
  induction as generalizing isFirst with
  | nil => exact Nat.le_refl 0
  | cons a as ih =>
    obtain ⟨c, tail, hcons, _⟩ := hopens a
    have hrest := ih false
    simp only [itemsChars, hcons, List.length_append, List.length_cons]
    omega

theorem endsValue_items (write : α → List Char) {mark : Char} (hmark : mark ∈ [',', ']', '\x7d']) (as : List α)
    (rest : List Glyph) :
    EndsValue ((itemsChars write false as).map some ++ some mark :: rest) := by
  cases as with
  | nil => exact ⟨mark, hmark, rfl⟩
  | cons a as => exact ⟨',', by simp, rfl⟩

end Items

/-! ## Records -/

/-- A field and its value make it to the other side: the value is legible, or it is left out and stands for itself there. -/
def Field.Keeps (f : Field) (v : Scalar) : Prop := if f.unwritten = some v then f.default = some v else Legible f.shape v

def written (fields : List Field) (values : List Scalar) : List (String × List Char) :=
  (fields.zip values).filterMap fun (f, v) => if f.unwritten = some v then none else some (f.name, v.chars)

def found (fields : List Field) (values : List Scalar) : List (Option Scalar) :=
  List.zipWith (fun f v => if f.unwritten = some v then none else some v) fields values

def entryChars (e : String × List Char) : List Char := stringChars e.1 ++ ':' :: e.2

theorem opensItem_entry (e : String × List Char) : OpensItem (entryChars e) := ⟨'"', _, rfl, rfl, by decide⟩

theorem writeRecord_eq (fields : List Field) (values : List Scalar) :
    writeRecord fields values = '\x7b' :: (itemsChars entryChars true (written fields values) ++ ['\x7d']) := by
  rw [writeRecord, recordChars]
  exact congrArg (fun cs => '\x7b' :: (cs ++ ['\x7d'])) (commaSeparated_items entryChars _)

theorem nextEntry_closing (isFirst : Bool) (rest : List Glyph) : nextEntry isFirst (some '\x7d' :: rest) = .ok none := by
  simp [nextEntry, skipSpace, isSpace]

theorem nextEntry_entry (isFirst : Bool) (e : String × List Char) (es : List (String × List Char)) (rest : List Glyph) :
    nextEntry isFirst ((itemsChars entryChars isFirst (e :: es)).map some ++ rest) =
      .ok (some ((e.1.toList.flatMap escapeChar ++ ['"']).map some ++
        some ':' :: (e.2.map some ++ ((itemsChars entryChars false es).map some ++ rest)))) := by
  cases isFirst <;> simp [nextEntry, itemsChars, entryChars, stringChars_eq, skipSpace, isSpace]

theorem readColon_colon (rest : List Glyph) : readColon (some ':' :: rest) = .ok rest := by
  simp [readColon, skipSpace, isSpace]

theorem findIdx?_name {front back : List Field} {f : Field} (hnames : ((front ++ f :: back).map Field.name).Nodup) :
    (front ++ f :: back).findIdx? (fun g => g.name == f.name) = some front.length := by
  have hfront : front.findIdx? (fun g => g.name == f.name) = none := by
    rw [List.findIdx?_eq_none_iff]
    intro g hg
    have hne : g.name ≠ f.name := by
      rw [List.map_append, List.map_cons, List.nodup_append] at hnames
      exact hnames.2.2 _ (List.mem_map_of_mem hg) _ List.mem_cons_self
    simpa using hne
  rw [List.findIdx?_append, hfront, List.findIdx?_cons]
  simp

theorem readEntries_written (front : List Field) {back : List Field} {values : List Scalar} (slots : List (Option Scalar))
    (hnames : ((front ++ back).map Field.name).Nodup) (hslots : slots.length = front.length)
    (hkeeps : List.Forall₂ Field.Keeps back values) (isFirst : Bool) {fuel : Nat}
    (hfuel : (written back values).length < fuel) (rest : List Glyph) :
    readEntries (front ++ back) fuel isFirst (slots ++ back.map fun _ => none)
        ((itemsChars entryChars isFirst (written back values)).map some ++ some '\x7d' :: rest) =
      .ok (slots ++ found back values, some '\x7d' :: rest) := by
  induction hkeeps generalizing front slots isFirst fuel with
  | nil =>
    obtain ⟨fuel, rfl⟩ := Nat.exists_eq_add_of_lt hfuel
    simp [written, found, itemsChars, readEntries, nextEntry_closing]
  | @cons f v back values hkeep _ ih =>
    have hfields : front ++ f :: back = (front ++ [f]) ++ back := by simp
    have hone : ∀ slot : Option Scalar, (slots ++ [slot]).length = (front ++ [f]).length := by simp [hslots]
    have hrest := fun slot => ih (front ++ [f]) (slots ++ [slot]) (hfields ▸ hnames) (hone slot)
    by_cases hunwritten : f.unwritten = some v
    · have hwritten : written (f :: back) (v :: values) = written back values := by simp [written, hunwritten]
      have hfound : found (f :: back) (v :: values) = none :: found back values := by simp [found, hunwritten]
      rw [hwritten] at hfuel ⊢
      rw [hfields, hfound]
      simpa using hrest none isFirst hfuel
    · have hwritten : written (f :: back) (v :: values) = (f.name, v.chars) :: written back values := by
        simp [written, hunwritten]
      have hfound : found (f :: back) (v :: values) = some v :: found back values := by simp [found, hunwritten]
      have hlegible : Legible f.shape v := by rwa [Field.Keeps, if_neg hunwritten] at hkeep
      have hbrace : '\x7d' ∈ [',', ']', '\x7d'] := by simp
      have hscalar := hlegible _ (endsValue_items entryChars hbrace (written back values) rest)
      have hindex := findIdx?_name hnames
      have hempty : ((slots ++ none :: back.map fun _ => (none : Option Scalar))[front.length]?.join).isSome = false := by
        simp [← hslots]
      have hset : (slots ++ none :: back.map fun _ => (none : Option Scalar)).set front.length (some v) =
          (slots ++ [some v]) ++ back.map fun _ => none := by
        simp [← hslots]
      have hshape : ((front ++ f :: back)[front.length]?.map Field.shape).getD .text = f.shape := by simp
      obtain ⟨fuel, rfl⟩ := Nat.exists_eq_add_of_lt hfuel
      rw [hwritten, List.map_cons, hfound, readEntries, nextEntry_entry]
      simp only [stringRest_written, hindex, hempty, Bool.false_eq_true, if_false, readColon_colon, hshape, hscalar, hset]
      rw [hfields, hrest (some v) false, List.append_assoc]
      · rfl
      · rw [List.length_cons]
        omega

theorem fillSlots_found {fields : List Field} {values : List Scalar} (h : List.Forall₂ Field.Keeps fields values) :
    fillSlots fields (found fields values) = some values := by
  induction h with
  | nil => rfl
  | @cons f v fields values hkeep _ ih =>
    have hvalue : (if f.unwritten = some v then none else some v).or f.default = some v := by
      by_cases hunwritten : f.unwritten = some v
      · rw [Field.Keeps, if_pos hunwritten] at hkeep
        rw [if_pos hunwritten, hkeep, Option.none_or]
      · rw [if_neg hunwritten, Option.some_or]
    have hstep : found (f :: fields) (v :: values) =
        (if f.unwritten = some v then none else some v) :: found fields values := rfl
    simp only [hstep, fillSlots, List.head?_cons, Option.join_some, hvalue, List.tail_cons, ih, bind, Option.bind]
    rfl

theorem readRecord_written {fields : List Field} {values : List Scalar} (hnames : (fields.map Field.name).Nodup)
    (hkeeps : List.Forall₂ Field.Keeps fields values) (rest : List Glyph) :
    readRecord fields ((writeRecord fields values).map some ++ rest) = .ok (values, rest) := by
  have htext : (writeRecord fields values).map some ++ rest =
      some '\x7b' :: ((itemsChars entryChars true (written fields values)).map some ++ some '\x7d' :: rest) := by
    rw [writeRecord_eq]
    simp
  have hfuel : (written fields values).length <
      ((itemsChars entryChars true (written fields values)).map some ++ some '\x7d' :: rest).length + 1 := by
    have hlength := length_le_itemsChars opensItem_entry true (written fields values)
    rw [List.length_append, List.length_map]
    omega
  have hentries := readEntries_written [] [] hnames rfl hkeeps true hfuel rest
  simp only [List.nil_append] at hentries
  rw [htext, readRecord, skipSpace_cons rfl]
  simp only [hentries, fillSlots_found hkeeps]
  simp [readClosing, skipSpace, isSpace, Except.map]

/-! ## What is read -/

theorem exists_of_map_eq_ok {ε α β : Type} {f : α → β} {x : Except ε α} {b : β} (h : x.map f = .ok b) :
    ∃ a, x = .ok a ∧ f a = b := by
  cases x with
  | error e => cases h
  | ok a => exact ⟨a, rfl, Except.ok.inj h⟩

/-- A value whose leap second, if it lies in one, comes at the end of a minute. -/
def Scalar.LeapsAtEnd : Scalar → Prop
  | .moment m => m.LeapsAtEnd
  | _ => True

theorem exists_make_of_readTextAs {make : String → Option Scalar} {cs rest : List Glyph} {v : Scalar}
    (h : readTextAs make cs = .ok (v, rest)) : ∃ s, make s = some v := by
  unfold readTextAs at h
  split at h
  case h_2 => cases h
  case h_1 =>
    split at h
    case h_1 => cases h
    case h_2 =>
      split at h
      case h_1 heq =>
        cases h
        exact ⟨_, heq⟩
      case h_2 => cases h

theorem leapsAtEnd_readScalar {shape : Shape} {cs rest : List Glyph} {v : Scalar}
    (h : readScalar shape cs = .ok (v, rest)) : v.LeapsAtEnd := by
  unfold readScalar at h
  dsimp only at h
  split at h
  case h_1 => cases h
  case h_2 =>
    split at h
    case isFalse => cases h
    case isTrue =>
      split at h
      case h_1 => cases h
      case h_2 =>
        split at h
        case isTrue =>
          cases h
          trivial
        case isFalse => cases h
      case h_3 => cases h
  case h_3 =>
    obtain ⟨s, hs⟩ := exists_make_of_readTextAs h
    cases hs
    trivial
  case h_4 =>
    obtain ⟨s, hs⟩ := exists_make_of_readTextAs h
    obtain ⟨d, -, rfl⟩ := Option.map_eq_some_iff.mp hs
    trivial
  case h_5 =>
    obtain ⟨s, hs⟩ := exists_make_of_readTextAs h
    obtain ⟨m, hm, rfl⟩ := Option.map_eq_some_iff.mp hs
    exact Moment.leapsAtEnd_of_parse? hm
  case h_6 =>
    obtain ⟨_, -, heq⟩ := exists_of_map_eq_ok h
    cases heq
    trivial
  case h_7 =>
    obtain ⟨s, hs⟩ := exists_make_of_readTextAs h
    cases hs
    trivial

def SlotsLeapAtEnd (slots : List (Option Scalar)) : Prop := ∀ v, some v ∈ slots → v.LeapsAtEnd

theorem leapsAtEnd_readEntries {fields : List Field} {fuel : Nat} {isFirst : Bool} {slots found : List (Option Scalar)}
    {cs rest : List Glyph} (hslots : SlotsLeapAtEnd slots)
    (h : readEntries fields fuel isFirst slots cs = .ok (found, rest)) : SlotsLeapAtEnd found := by
  induction fuel generalizing isFirst slots cs with
  | zero => cases h
  | succ fuel ih =>
    unfold readEntries at h
    split at h
    case h_1 => cases h
    case h_2 =>
      cases h
      exact hslots
    case h_3 =>
      split at h
      case h_1 => cases h
      case h_2 =>
        split at h
        case h_1 =>
          split at h
          case isTrue => cases h
          case isFalse =>
            split at h
            case h_1 => cases h
            case h_2 =>
              split at h
              case h_1 => cases h
              case h_2 hscalar =>
                refine ih (fun v hv => ?_) h
                rcases List.mem_or_eq_of_mem_set hv with hv | hv
                · exact hslots v hv
                · cases hv
                  exact leapsAtEnd_readScalar hscalar
        case h_2 =>
          split at h
          case h_1 => cases h
          case h_2 =>
            split at h
            case h_1 => cases h
            case h_2 => exact ih hslots h

/-- Fields of which no default lies in a leap second inside a minute. -/
def DefaultsLeapAtEnd (fields : List Field) : Prop := ∀ f ∈ fields, ∀ v ∈ f.default, v.LeapsAtEnd

theorem leapsAtEnd_fillSlots {fields : List Field} (hdefaults : DefaultsLeapAtEnd fields) {slots : List (Option Scalar)}
    (hslots : SlotsLeapAtEnd slots) {values : List Scalar} (h : fillSlots fields slots = some values) :
    ∀ v ∈ values, v.LeapsAtEnd := by
  induction fields generalizing slots values with
  | nil =>
    cases h
    rintro v ⟨⟩
  | cons f fields ih =>
    obtain ⟨v, hv, h⟩ := Option.bind_eq_some_iff.mp h
    obtain ⟨vs, hvs, h⟩ := Option.bind_eq_some_iff.mp h
    cases h
    have hrest := ih (fun g hg => hdefaults g (List.mem_cons_of_mem _ hg)) (fun w hw => hslots w (List.mem_of_mem_tail hw)) hvs
    refine List.forall_mem_cons.mpr ⟨?_, hrest⟩
    rcases Option.or_eq_some_iff.mp hv with hfound | ⟨-, hdefault⟩
    · exact hslots v (List.mem_of_head? (Option.join_eq_some_iff.mp hfound))
    · exact hdefaults f List.mem_cons_self v hdefault

theorem leapsAtEnd_readItems {fields : List Field} (hdefaults : DefaultsLeapAtEnd fields) {isFirst : Bool}
    {cs rest : List Glyph} {values : List Scalar} (h : readItems isFirst fields cs = .ok (values, rest)) :
    ∀ v ∈ values, v.LeapsAtEnd := by
  induction fields generalizing isFirst cs values with
  | nil =>
    cases h
    rintro v ⟨⟩
  | cons f fields ih =>
    have hrest : DefaultsLeapAtEnd fields := fun g hg => hdefaults g (List.mem_cons_of_mem _ hg)
    unfold readItems at h
    split at h
    case h_1 => cases h
    case h_2 =>
      split at h
      case h_1 => cases h
      case h_2 hdefault =>
        obtain ⟨⟨vs, _⟩, hvs, heq⟩ := exists_of_map_eq_ok h
        cases heq
        exact List.forall_mem_cons.mpr ⟨hdefaults f List.mem_cons_self _ hdefault, ih hrest hvs⟩
    case h_3 =>
      split at h
      case h_1 => cases h
      case h_2 hscalar =>
        obtain ⟨⟨vs, _⟩, hvs, heq⟩ := exists_of_map_eq_ok h
        cases heq
        exact List.forall_mem_cons.mpr ⟨leapsAtEnd_readScalar hscalar, ih hrest hvs⟩

/-- A moment that is read does not lie in a leap second inside a minute. -/
theorem leapsAtEnd_readRecord {fields : List Field} (hdefaults : DefaultsLeapAtEnd fields) {cs rest : List Glyph}
    {values : List Scalar} (h : readRecord fields cs = .ok (values, rest)) : ∀ v ∈ values, v.LeapsAtEnd := by
  unfold readRecord at h
  split at h
  case h_1 => cases h
  case h_2 =>
    split at h
    case h_1 => cases h
    case h_2 hentries =>
      split at h
      case h_1 => cases h
      case h_2 hfilled =>
        obtain ⟨_, -, heq⟩ := exists_of_map_eq_ok h
        cases heq
        refine leapsAtEnd_fillSlots hdefaults (leapsAtEnd_readEntries ?_ hentries) hfilled
        intro v hv
        obtain ⟨_, -, hnone⟩ := List.mem_map.mp hv
        cases hnone
  case h_3 =>
    split at h
    case h_1 => cases h
    case h_2 hitems =>
      obtain ⟨_, -, heq⟩ := exists_of_map_eq_ok h
      cases heq
      exact leapsAtEnd_readItems hdefaults hitems
  case h_4 => cases h

/-! ## Names -/

theorem readName_written {α : Type} {make : String → Option α} {s : String} {a : α} (h : make s = some a)
    (rest : List Glyph) : readName make ((stringChars s).map some ++ rest) = .ok (a, rest) := by
  simp only [readName, stringChars_eq, List.map_cons, List.cons_append, skipSpace_quote, nameRest, stringRest_written, h]

/-! ## Lists -/

variable {α : Type} {write : α → List Char} {item : List Glyph → Reading α}

theorem listChars_eq (as : List α) : listChars (as.map write) = '[' :: (itemsChars write true as ++ [']']) := by
  rw [listChars, commaSeparated_items write]
  rfl

theorem nextItem_closing (isFirst : Bool) (rest : List Glyph) : nextItem isFirst (some ']' :: rest) = .ok none := by
  simp [nextItem, skipSpace, isSpace]

theorem nextItem_item (hopens : ∀ a, OpensItem (write a)) (isFirst : Bool) (a : α) (as : List α) (rest : List Glyph) :
    nextItem isFirst ((itemsChars write isFirst (a :: as)).map some ++ rest) =
      .ok (some ((write a).map some ++ ((itemsChars write false as).map some ++ rest))) := by
  obtain ⟨c, tail, hcons, hspace, hmark⟩ := hopens a
  have hcomma : isSpace (some ',') = false := rfl
  cases isFirst <;> simp [nextItem, itemsChars, hcons, skipSpace_cons hspace, skipSpace_cons hcomma, hmark]

theorem readListFrom_written (hopens : ∀ a, OpensItem (write a))
    (hitem : ∀ a rest, item ((write a).map some ++ rest) = .ok (a, rest)) (isFirst : Bool) (read as : List α) {fuel : Nat}
    (hfuel : as.length < fuel) (rest : List Glyph) :
    readListFrom item fuel isFirst read ((itemsChars write isFirst as).map some ++ some ']' :: rest) =
      .ok (read.reverse ++ as, rest) := by
  induction as generalizing read isFirst fuel with
  | nil =>
    obtain ⟨fuel, rfl⟩ := Nat.exists_eq_add_of_lt hfuel
    simp [itemsChars, readListFrom, nextItem_closing, readClosing, skipSpace, isSpace, Except.map]
  | cons a as ih =>
    obtain ⟨fuel, rfl⟩ := Nat.exists_eq_add_of_lt hfuel
    rw [readListFrom, nextItem_item hopens]
    simp only [hitem]
    rw [ih false (a :: read) (by rw [List.length_cons]; omega), List.reverse_cons, List.append_assoc, List.singleton_append]

theorem readList_written (hopens : ∀ a, OpensItem (write a))
    (hitem : ∀ a rest, item ((write a).map some ++ rest) = .ok (a, rest)) (as : List α) (rest : List Glyph) :
    readList item ((listChars (as.map write)).map some ++ rest) = .ok (as, rest) := by
  have htext : (listChars (as.map write)).map some ++ rest =
      some '[' :: ((itemsChars write true as).map some ++ some ']' :: rest) := by
    rw [listChars_eq]
    simp
  have hfuel : as.length < ((itemsChars write true as).map some ++ some ']' :: rest).length + 1 := by
    have hlength := length_le_itemsChars hopens true as
    rw [List.length_append, List.length_map]
    omega
  rw [htext, readList, skipSpace_cons rfl]
  exact readListFrom_written hopens hitem true [] as hfuel rest

end Campus.Json
