import Campus.Peer.Address
import Campus.Peer.Client
import Campus.Proofs.Http.Request
import Campus.Proofs.Url.Path

/-! # Ids on their way to a peer

The path of a request is what is kept of the path of the peer's address, then the template with the id in its place as one segment
that is read as the id. That holds of every id but those that are dots and those with tabs or line breaks: such an id is left out or
changed on the way.
-/
namespace Campus.Peer

open Text

theorem parse_of_parseAddress {raw : String} {base : Url} (h : parseAddress raw = .ok base) :
    ∃ name rest, (name = "http".toList ∨ name = "https".toList) ∧ Url.parse (name ++ "://".toList ++ rest) = .ok base := by
  unfold parseAddress at h
  dsimp only at h
  split at h
  case h_2 => cases h
  case h_1 u hparse =>
    obtain rfl := Except.ok.inj h
    split at hparse
    case isFalse => exact ⟨"http".toList, raw.toList, .inl rfl, hparse⟩
    case isTrue hcomplete =>
      rw [Bool.or_eq_true, List.isPrefixOf_iff_prefix, List.isPrefixOf_iff_prefix] at hcomplete
      rcases hcomplete with ⟨rest, hrest⟩ | ⟨rest, hrest⟩
      · exact ⟨"http".toList, rest, .inl rfl, hrest ▸ hparse⟩
      · exact ⟨"https".toList, rest, .inr rfl, hrest ▸ hparse⟩

/-- The address of a peer is one of the web, with a path of whole segments. -/
theorem parseAddress_ok {raw : String} {base : Url} (h : parseAddress raw = .ok base) :
    (base.scheme = "http".toList ∨ base.scheme = "https".toList) ∧
      ∃ list, base.path = .segments list ∧ ∀ s ∈ list, Url.Whole s := by
  obtain ⟨name, rest, hname, hparse⟩ := parse_of_parseAddress h
  obtain ⟨hscheme, cs, hpath⟩ := Url.parse_web hname hparse
  exact ⟨hscheme ▸ hname, _, hpath, fun s => Url.whole_of_mem_readSegments (Url.namesFiles_of_web hname)⟩

namespace PathTemplate

def isPlain (c : Char) : Bool := 0x20 ≤ c.toNat && c.toNat < 0x7f && !Percent.segmentSet c && c != '\\'

/-- A text that stands for itself as a segment. -/
structure IsName (text : List Char) : Prop where
  ne_nil : text ≠ []
  ne_dot : text ≠ ['.']
  ne_dots : text ≠ ['.', '.']
  plain : text.all isPlain = true

/-- The parts of a template are names, but for the place of the id. -/
def OfNames (t : PathTemplate) : Prop := ∀ text, .literal text ∈ t.parts → IsName text

/-- A path carries an id: behind what is kept of an address it has the segments of the template, and the one in the place of the id is
read as the id. -/
def Carries (t : PathTemplate) (kept : List (List Char)) (id : List Char) (path : List (List Char)) : Prop :=
  ∃ segment, Utf8.decode? (Percent.decode segment) = some id ∧ path = kept ++ t.parts.map (fill segment)

variable {t : PathTemplate} {template : String}

/-! ## Templates -/

theorem parse_ok (h : parse template = .ok t) :
    ∃ before behind, t.parts = before ++ .id :: behind ∧ .id ∉ before ∧ .id ∉ behind := by
  unfold parse at h
  dsimp only at h
  split at h
  case isFalse => cases h
  case isTrue hcount =>
    obtain rfl := Except.ok.inj h
    have hmem := List.count_pos_iff.mp (by rw [hcount]; exact Nat.one_pos)
    obtain ⟨before, behind, hsplit⟩ := List.append_of_mem hmem
    rw [hsplit, List.count_append, List.count_cons_self] at hcount
    exact ⟨before, behind, hsplit, List.count_eq_zero.mp (by omega), List.count_eq_zero.mp (by omega)⟩

theorem map_fill_congr {parts : List TemplatePart} (h : .id ∉ parts) (x y : List Char) :
    parts.map (fill x) = parts.map (fill y) := by
  refine List.map_congr_left fun p hp => ?_
  cases p with
  | literal text => rfl
  | id => exact absurd hp h

theorem IsName.of_mem {text : List Char} (h : IsName text) {c : Char} (hc : c ∈ text) :
    0x20 ≤ c.toNat ∧ c.toNat < 0x7f ∧ Percent.segmentSet c = false ∧ c ≠ '\\' := by
  have hplain := List.all_eq_true.mp h.plain c hc
  simpa [isPlain, and_assoc] using hplain

theorem IsName.travels {text : List Char} (h : IsName text) : Url.Travels text where
  ne_dot := h.ne_dot
  ne_dots := h.ne_dots
  unbroken_eq := by
    refine List.filter_eq_self.mpr fun c hc => ?_
    have hlow := (h.of_mem hc).1
    simp only [decide_eq_true_eq]
    refine ⟨?_, ?_, ?_⟩ <;> rintro rfl <;> exact absurd hlow (by decide)

theorem IsName.escape_eq {text : List Char} (h : IsName text) (scheme : List Char) : Url.escape scheme text = text := by
  refine Percent.encode_of_plain fun c hc => ?_
  obtain ⟨hlow, hhigh, hset, hback⟩ := h.of_mem hc
  refine ⟨?_, hlow, hhigh⟩
  simp [hset, hback]

theorem IsName.whole {text : List Char} (h : IsName text) : Url.Whole text :=
  h.escape_eq [] ▸ Url.whole_escape [] text

/-! ## Paths -/

theorem resolve_ok {base : Url} {list : List (List Char)} (hpath : base.path = .segments list) (id : String) :
    t.resolve base id = .ok { base with
      path := .segments ((t.parts.map (fill id.toList)).foldl (Url.push base.scheme) (Url.dropEmptyEnd list)) } := by
  unfold resolve
  rw [hpath]

section Paths

variable {scheme : List Char} (hfile : Url.namesFiles scheme = false) (hnames : t.OfNames) (hplace : .id ∈ t.parts)
  (list : List (List Char)) {id : List Char}
include hfile hplace

include hnames in
/-- An id that does not vanish arrives in its place, without its tabs and line breaks. -/
theorem path_of_not_vanishes (h : ¬Url.Vanishes id) :
    (t.parts.map (fill id)).foldl (Url.push scheme) (Url.dropEmptyEnd list) =
      Url.carried list ++ t.parts.map (fill (Url.escape scheme (Url.unbroken id))) := by
  have hparts : t.parts.map (fill id) ≠ [] := fun hnil => by simp [List.map_eq_nil_iff.mp hnil] at hplace
  have hstay : ∀ s ∈ t.parts.map (fill id), ¬Url.Vanishes s := by
    intro s hs
    obtain ⟨p, hp, rfl⟩ := List.mem_map.mp hs
    cases p with
    | literal text => exact (hnames text hp).travels.not_vanishes (hnames text hp).ne_nil
    | id => exact h
  rw [Url.foldl_push hfile _ _ hparts hstay, Url.giveWay_dropEmptyEnd, List.map_map]
  congr 1
  refine List.map_congr_left fun p hp => ?_
  cases p with
  | literal text => exact (congrArg _ (hnames text hp).travels.unbroken_eq).trans ((hnames text hp).escape_eq scheme)
  | id => rfl

/-- An id that vanishes leaves less to read than the template has parts. -/
theorem names_path_lt (h : Url.Vanishes id) :
    Url.names ((t.parts.map (fill id)).foldl (Url.push scheme) (Url.dropEmptyEnd list)) <
      Url.names list + t.parts.length := by
  have hmem : id ∈ t.parts.map (fill id) := List.mem_map.mpr ⟨.id, hplace, rfl⟩
  have hlt := Url.names_foldl_push_lt hfile (Url.dropEmptyEnd list) _ hmem h
  rwa [List.length_map, Url.names_dropEmptyEnd] at hlt

omit hfile hplace in
include hnames in
theorem names_filled {segment : List Char} (h : segment ≠ []) :
    Url.names (Url.carried list ++ t.parts.map (fill segment)) = Url.names list + t.parts.length := by
  have hall : Url.names (t.parts.map (fill segment)) = (t.parts.map (fill segment)).length := by
    refine List.countP_eq_length.mpr fun s hs => ?_
    obtain ⟨p, hp, rfl⟩ := List.mem_map.mp hs
    cases p with
    | literal text => exact decide_eq_true (hnames text hp).ne_nil
    | id => exact decide_eq_true h
  rw [Url.names_append, hall, List.length_map, ← Url.giveWay_dropEmptyEnd, Url.names_giveWay, Url.names_dropEmptyEnd]

include hnames in
theorem carries_iff (hid : id ≠ []) :
    t.Carries (Url.carried list) id ((t.parts.map (fill id)).foldl (Url.push scheme) (Url.dropEmptyEnd list)) ↔
      Url.Travels id := by
  constructor
  · rintro ⟨segment, hread, hpath⟩
    have hsegment : segment ≠ [] := by
      rintro rfl
      exact hid (Option.some.inj hread).symm
    by_cases hvanishes : Url.Vanishes id
    · have hlt := names_path_lt hfile hplace list hvanishes
      rw [hpath, names_filled hnames list hsegment] at hlt
      exact absurd hlt (Nat.lt_irrefl _)
    · rw [path_of_not_vanishes hfile hnames hplace list hvanishes] at hpath
      have hfill : Url.escape scheme (Url.unbroken id) = segment :=
        List.map_inj_left.mp (List.append_cancel_left hpath) .id hplace
      rw [← hfill, Url.text_escape] at hread
      exact Url.travels_of_unbroken hvanishes (Option.some.inj hread)
  · intro h
    refine ⟨Url.escape scheme id, Url.text_escape scheme id, ?_⟩
    rw [path_of_not_vanishes hfile hnames hplace list (h.not_vanishes hid), h.unbroken_eq]

end Paths

/-- Two segments in the place of the id give one address only if they are the same. -/
theorem filled_injective (ht : parse template = .ok t) {base : Url} {kept : List (List Char)} {x y : List Char}
    (h : ({ base with path := .segments (kept ++ t.parts.map (fill x)) } : Url).text =
      ({ base with path := .segments (kept ++ t.parts.map (fill y)) } : Url).text) : x = y := by
  obtain ⟨before, behind, hparts, hbefore, hbehind⟩ := parse_ok ht
  have hpath := Url.pathChars_eq_of_text h
  rw [hparts] at hpath
  simp only [Url.pathChars, List.map_append, List.map_cons, List.flatMap_append, List.flatMap_cons, fill,
    map_fill_congr hbefore x y, map_fill_congr hbehind x y] at hpath
  have hplaced := List.append_cancel_right (List.append_cancel_left (List.append_cancel_left hpath))
  exact (List.cons.inj hplaced).2

end PathTemplate

/-! ## What the peer makes of a path -/

/-- A service that is sent a request for an address sees these segments. -/
def Shows (u : Url) (path : List (List Char)) : Prop :=
  ∀ r : Http.Request, r.target = u.target → Http.Place.segments r.path = path.map String.ofList

/-- A service that is sent a request for an address takes it for an operation. -/
def Asks (kind : ServiceKind) (u : Url) (op : Operation) : Prop :=
  ∀ r : Http.Request, r.method = "GET" → r.target = u.target → r.understand kind = .ok (.operation op)

theorem idText_escape {scheme : List Char} {id name : String} {place : Http.Place}
    (hplace : place.parameter? = some (name, Url.escape scheme id.toList)) : Http.Request.idText place = .ok id := by
  rw [Http.Request.idText, hplace]
  simp only [Url.text_escape, String.ofList_toList]

section Asks

variable {u : Url} {scheme : List Char} {id : String}

/-- The courses service takes a request for one course for what it is. -/
theorem asks_course (hid : id ≠ "") (h : Shows u ["courses".toList, Url.escape scheme id.toList]) :
    Asks .courses u (.getCourse id) := by
  intro r hmethod htarget
  have hsegment : Url.escape scheme id.toList ≠ [] :=
    Url.escape_ne_nil scheme fun hnil => hid (String.toList_eq_nil_iff.mp hnil)
  have hplace : Http.Place.locate? .courses r.path = some (.course (Url.escape scheme id.toList)) := by
    rw [Http.Place.locate?, h r htarget]
    simp [Http.Place.ofCourses?, hsegment]
  rw [Http.Request.understand_get hmethod hplace (by rfl) (idText_escape rfl)]
  simp only [Http.Request.intent, hmethod]
  rfl

/-- The students service takes a request for the students of a course for what it is. -/
theorem asks_roster (h : Shows u ["courses".toList, Url.escape scheme id.toList, "students".toList]) :
    Asks .students u (.getCourseStudents id) := by
  intro r hmethod htarget
  have hplace : Http.Place.locate? .students r.path = some (.roster (Url.escape scheme id.toList)) := by
    rw [Http.Place.locate?, h r htarget]
    simp [Http.Place.ofStudents?]
  rw [Http.Request.understand_get hmethod hplace (by rfl) (idText_escape rfl), Http.Request.intent]
  rfl

end Asks

/-! ## Requests for an id -/

namespace PathTemplate

variable {t : PathTemplate}

theorem parse_courseEndpoint : parse courseEndpoint.path = .ok ⟨[.literal "courses".toList, .id]⟩ := rfl

theorem parse_rosterEndpoint :
    parse rosterEndpoint.path = .ok ⟨[.literal "courses".toList, .id, .literal "students".toList]⟩ := rfl

/-- A service sees the whole segments of an address with a path behind which a template was filled. -/
theorem shows_filled (hnames : t.OfNames) (hplace : .id ∈ t.parts) (base : Url) {kept : List (List Char)} {segment : List Char}
    (hsegment : Url.Whole segment) (hkept : ∀ s ∈ kept, Url.Whole s) :
    Shows { base with path := .segments (kept ++ t.parts.map (fill segment)) } (kept ++ t.parts.map (fill segment)) := by
  intro r htarget
  have hne : kept ++ t.parts.map (fill segment) ≠ [] := by
    intro hnil
    simp [List.map_eq_nil_iff.mp (List.append_eq_nil_iff.mp hnil).2] at hplace
  refine Http.Request.segments_of_target rfl hne (fun s hs => ?_) htarget
  rcases List.mem_append.mp hs with hs | hs
  · exact hkept s hs
  · obtain ⟨p, hp, rfl⟩ := List.mem_map.mp hs
    cases p with
    | literal text => exact (hnames text hp).whole
    | id => exact hsegment

/-- The templates of both kinds of request are made of names. -/
theorem ofNames_of_endpoint (h : parse courseEndpoint.path = .ok t ∨ parse rosterEndpoint.path = .ok t) : t.OfNames := by
  have hcourses : IsName "courses".toList := ⟨by decide, by decide, by decide, by decide⟩
  have hstudents : IsName "students".toList := ⟨by decide, by decide, by decide, by decide⟩
  intro text htext
  rcases h with h | h
  · obtain rfl := Except.ok.inj (parse_courseEndpoint.symm.trans h)
    obtain rfl : text = "courses".toList := by simpa using htext
    exact hcourses
  · obtain rfl := Except.ok.inj (parse_rosterEndpoint.symm.trans h)
    obtain rfl | rfl : text = "courses".toList ∨ text = "students".toList := by simpa using htext
    · exact hcourses
    · exact hstudents

/-- The address of a request is that of the peer but for its path, and the path carries the id if and only if the id is no dots and
holds no tabs and line breaks. The addresses of such ids differ, and a service that is sent a request for one sees the segments of
its path. Where nothing is kept of the peer's own path, the peer takes it for a request for the id. -/
theorem resolve_carries_id {raw template : String} {base : Url} (hbase : parseAddress raw = .ok base)
    (ht : parse template = .ok t) (hnames : t.OfNames) {id : String} (hid : id ≠ "") :
    ∃ list path, base.path = .segments list ∧ t.resolve base id = .ok { base with path := .segments path } ∧
      (t.Carries (Url.carried list) id.toList path ↔ Url.Travels id.toList) ∧
      (Url.Travels id.toList →
        (∀ id' url, id' ≠ "" → Url.Travels id'.toList → t.resolve base id' = .ok url →
          url.text = ({ base with path := .segments path } : Url).text → id' = id) ∧
        Shows { base with path := .segments path } path ∧
        (Url.carried list = [] →
          (template = courseEndpoint.path → Asks .courses { base with path := .segments path } (.getCourse id)) ∧
          (template = rosterEndpoint.path → Asks .students { base with path := .segments path } (.getCourseStudents id)))) := by
  obtain ⟨hscheme, list, hlist, hwhole⟩ := parseAddress_ok hbase
  obtain ⟨before, behind, hparts, -, -⟩ := parse_ok ht
  have hfile := Url.namesFiles_of_web hscheme
  have hplace : .id ∈ t.parts := by simp [hparts]
  have hne {id : String} (hid : id ≠ "") : id.toList ≠ [] := fun hnil => hid (String.toList_eq_nil_iff.mp hnil)
  have hpath {id : String} (hid : id ≠ "") (h : Url.Travels id.toList) :
      (t.parts.map (fill id.toList)).foldl (Url.push base.scheme) (Url.dropEmptyEnd list) =
        Url.carried list ++ t.parts.map (fill (Url.escape base.scheme id.toList)) := by
    rw [path_of_not_vanishes hfile hnames hplace list (h.not_vanishes (hne hid)), h.unbroken_eq]
  refine ⟨list, _, hlist, resolve_ok hlist id, carries_iff hfile hnames hplace list (hne hid), fun htravels => ?_⟩
  have hshows := shows_filled hnames hplace base (Url.whole_escape base.scheme id.toList)
    fun s hs => hwhole s (Url.mem_of_mem_carried hs)
  rw [hpath hid htravels]
  refine ⟨?_, hshows, fun hkept => ⟨?_, ?_⟩⟩
  · intro id' url hid' htravels' hurl htext
    rw [resolve_ok hlist id', hpath hid' htravels'] at hurl
    rw [← Except.ok.inj hurl] at htext
    exact String.toList_inj.mp (Url.escape_injective _ (filled_injective ht htext))
  · rintro rfl
    obtain rfl := Except.ok.inj (parse_courseEndpoint.symm.trans ht)
    rw [hkept] at hshows ⊢
    exact asks_course hid hshows
  · rintro rfl
    obtain rfl := Except.ok.inj (parse_rosterEndpoint.symm.trans ht)
    rw [hkept] at hshows ⊢
    exact asks_roster hshows

theorem resolve_carries_slash :
    ∃ base t, parseAddress "http://h" = .ok base ∧ parse courseEndpoint.path = .ok t ∧ t.OfNames ∧ "a/b" ≠ "" ∧
      Url.Travels "a/b".toList ∧ ∃ list path, base.path = .segments list ∧
        t.resolve base "a/b" = .ok { base with path := .segments path } ∧ t.Carries (Url.carried list) "a/b".toList path := by
  have hbase : parseAddress "http://h" =
      .ok ⟨"http".toList, [], [], some (.domain "h"), none, false, .segments [[]], none, none⟩ := rfl
  have htravels : Url.Travels "a/b".toList := ⟨by decide, by decide, by decide⟩
  have hnames := ofNames_of_endpoint (.inl parse_courseEndpoint)
  obtain ⟨list, path, hlist, hresolve, hcarries, -⟩ :=
    resolve_carries_id hbase parse_courseEndpoint hnames (by decide : "a/b" ≠ "")
  exact ⟨_, _, hbase, parse_courseEndpoint, hnames, by decide, htravels, list, path, hlist, hresolve, hcarries.mpr htravels⟩

end PathTemplate

end Campus.Peer
