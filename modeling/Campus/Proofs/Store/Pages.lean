import Campus.Proofs.Http.Routes
import Campus.Proofs.Store.Roster

/-! # Pages of a list

A list that is read page by page. A page shows the rows whose ranks lie in its window, where the rank of a row is the number of rows
under smaller ids, and it shows them in increasing order. So pages of one size stand edge to edge, and read up to the first empty one
they show every row once. The order in which a table keeps its rows does not show.
-/
namespace Campus

/-! ## Windows on an increasing list -/

section Increasing

variable {ρ : Type} {key : ρ → Int64} {l : List ρ} {row : ρ}

/-- In an increasing list each row has as many smaller ones as stand in front of it. -/
theorem countP_getElem_of_increasing (h : l.Pairwise fun a b => key a < key b) {i : Nat} (hi : i < l.length) :
    (l.countP fun a => key a < key l[i]) = i := by
  induction l generalizing i with
  | nil => cases hi
  | cons a l ih =>
    obtain ⟨hfirst, hrest⟩ := List.pairwise_cons.mp h
    cases i with
    | zero =>
      refine List.countP_eq_zero.mpr fun b hb => ?_
      rcases List.mem_cons.mp hb with rfl | hb
      · simp
      · simpa using Int64.le_of_lt (hfirst b hb)
    | succ i =>
      have hi' : i < l.length := Nat.lt_of_succ_lt_succ hi
      have hless : key a < key l[i] := hfirst _ (List.getElem_mem hi')
      simp [ih hrest hi', hless]

theorem mem_window_iff (h : l.Pairwise fun a b => key a < key b) {offset limit : Nat} :
    row ∈ (l.drop offset).take limit ↔ row ∈ l ∧
      offset ≤ (l.countP fun a => key a < key row) ∧ (l.countP fun a => key a < key row) < offset + limit := by
  constructor
  · intro hmem
    obtain ⟨i, hi, rfl⟩ := List.mem_iff_getElem.mp hmem
    rw [List.length_take, List.length_drop] at hi
    have hin : offset + i < l.length := by omega
    rw [List.getElem_take, List.getElem_drop, countP_getElem_of_increasing h hin]
    exact ⟨List.getElem_mem hin, by omega, by omega⟩
  · rintro ⟨hmem, hlow, hhigh⟩
    obtain ⟨i, hi, rfl⟩ := List.mem_iff_getElem.mp hmem
    rw [countP_getElem_of_increasing h hi] at hlow hhigh
    have hin : i - offset < ((l.drop offset).take limit).length := by
      rw [List.length_take, List.length_drop]
      omega
    have hsame : ((l.drop offset).take limit)[i - offset] = l[i] := by
      simp only [List.getElem_take, List.getElem_drop, Nat.add_sub_cancel' hlow]
    exact hsame ▸ List.getElem_mem hin

/-- Windows of one size that begin where the last one ended show the front of a list. -/
theorem flatMap_windows (l : List ρ) (limit k : Nat) :
    ((List.range k).flatMap fun j => (l.drop (j * limit)).take limit) = l.take (k * limit) := by
  induction k with
  | zero => simp
  | succ k ih => rw [List.range_succ, List.flatMap_append, ih, List.flatMap_singleton, Nat.succ_mul, List.take_add]

end Increasing

/-! ## Pages of a table -/

namespace Table

variable {ρ : Type}

/-- How many rows of a table stand under smaller ids. -/
def rank (t : Table Int64 ρ) (id : Int64) : Nat := t.entries.countP fun e => e.1 < id

/-- What the pages of a table are to show. -/
structure Paged (t : Table Int64 ρ) (key : ρ → Int64) (view : Page → List ρ) : Prop where
  increasing : ∀ page, (view page).Pairwise fun a b => key a < key b
  /-- A page shows the rows whose ranks lie in its window. -/
  mem_iff : ∀ page row, row ∈ view page ↔ t.get? (key row) = some row ∧
    page.offset.toNat ≤ t.rank (key row) ∧ t.rank (key row) < page.offset.toNat + page.limit.toNat
  /-- A page is full unless the table ends in it. -/
  length_eq : ∀ page, (view page).length = min page.limit.toNat (t.entries.length - page.offset.toNat)
  /-- The pages in front of an empty one, each behind the last, show every row once and in order. -/
  tile : ∀ (limit : UInt32) (k : Nat), k * limit.toNat < UInt32.size → limit ≠ 0 → view ⟨limit, .ofNat (k * limit.toNat)⟩ = [] →
    let all := (List.range k).flatMap fun j => view ⟨limit, .ofNat (j * limit.toNat)⟩
    (all.Pairwise fun a b => key a < key b) ∧ ∀ row, row ∈ all ↔ t.get? (key row) = some row
  /-- There is an empty page as long as an offset can lie behind the table. -/
  ends : ∀ limit : UInt32, limit ≠ 0 → t.entries.length + limit.toNat ≤ UInt32.size →
    ∃ k, k * limit.toNat < UInt32.size ∧ view ⟨limit, .ofNat (k * limit.toNat)⟩ = []

variable {t t' : Table Int64 ρ} {key : ρ → Int64}

namespace Keeps

theorem mem_rows_iff (h : t.Keeps fun id row => key row = id) {row : ρ} : row ∈ t.rows ↔ t.get? (key row) = some row := by
  rw [h.get?_eq_some_iff, rows, List.mem_map]
  constructor
  · rintro ⟨e, he, rfl⟩
    rw [h.fits e he]
    exact he
  · exact fun he => ⟨_, he, rfl⟩

theorem keys_eq (h : t.Keeps fun id row => key row = id) : t.rows.map key = t.entries.map Prod.fst := by
  rw [rows, List.map_map]
  exact List.map_congr_left h.fits

/-- Ids are distinct, so rows that are sorted by them increase. -/
theorem increasing (h : t.Keeps fun id row => key row = id) :
    (t.rows.mergeSort fun a b => key a ≤ key b).Pairwise fun a b => key a < key b := by
  have hkeys : (t.rows.map key).Nodup := h.keys_eq ▸ h.distinct
  have hdistinct : ((t.rows.mergeSort fun a b => key a ≤ key b).map key).Nodup :=
    ((List.mergeSort_perm t.rows _).map key).nodup_iff.mpr hkeys
  exact ((rows_sorted key t.rows).and (List.pairwise_map.mp hdistinct)).imp fun hab => Int64.lt_of_le_of_ne hab.1 hab.2

theorem rank_eq (h : t.Keeps fun id row => key row = id) (id : Int64) :
    t.rank id = (t.rows.mergeSort fun a b => key a ≤ key b).countP fun a => key a < id := by
  rw [(List.mergeSort_perm t.rows _).countP_eq, rank, rows, List.countP_map]
  refine List.countP_congr fun e he => ?_
  simp [h.fits e he]

theorem rows_perm (h : t.Keeps fun id row => key row = id) (hperm : t'.entries.Perm t.entries) (page : Page) :
    page.select key t'.rows = page.select key t.rows := by
  have h' : t'.Keeps fun id row => key row = id :=
    ⟨(hperm.map _).nodup_iff.mpr h.distinct, fun e he => h.fits e (hperm.mem_iff.mp he)⟩
  have hsorted : (t'.rows.mergeSort fun a b => key a ≤ key b) = t.rows.mergeSort fun a b => key a ≤ key b :=
    eq_of_increasing h'.increasing h.increasing
      ((List.mergeSort_perm _ _).trans ((hperm.map _).trans (List.mergeSort_perm _ _).symm))
  rw [Page.select, Page.select, hsorted]

theorem length_select (page : Page) :
    (page.select key t.rows).length = min page.limit.toNat (t.entries.length - page.offset.toNat) := by
  simp [Page.select, rows]

theorem paged (h : t.Keeps fun id row => key row = id) : t.Paged key fun page => page.select key t.rows where
  increasing page := h.increasing.sublist ((List.take_sublist _ _).trans (List.drop_sublist _ _))
  mem_iff page row := by
    rw [Page.select, mem_window_iff h.increasing, List.mem_mergeSort, h.mem_rows_iff, h.rank_eq]
  length_eq page := length_select page
  tile limit k hk hlimit hempty := by
    have hoffset {j : Nat} (hj : j ≤ k) : (UInt32.ofNat (j * limit.toNat)).toNat = j * limit.toNat :=
      UInt32.toNat_ofNat_of_lt' (Nat.lt_of_le_of_lt (Nat.mul_le_mul_right _ hj) hk)
    have hend : t.entries.length ≤ k * limit.toNat := by
      have hpos : 0 < limit.toNat := Nat.pos_of_ne_zero fun hzero => hlimit (UInt32.toNat_inj.mp hzero)
      have hlength : 0 = min limit.toNat (t.entries.length - (UInt32.ofNat (k * limit.toNat)).toNat) := by
        rw [← length_select ⟨limit, .ofNat (k * limit.toNat)⟩, hempty, List.length_nil]
      rw [hoffset (Nat.le_refl k)] at hlength
      omega
    have hall : ((List.range k).flatMap fun j => Page.select ⟨limit, .ofNat (j * limit.toNat)⟩ key t.rows) =
        t.rows.mergeSort fun a b => key a ≤ key b := by
      have hpages : ((List.range k).flatMap fun j => Page.select ⟨limit, .ofNat (j * limit.toNat)⟩ key t.rows) =
          (List.range k).flatMap fun j =>
            ((t.rows.mergeSort fun a b => key a ≤ key b).drop (j * limit.toNat)).take limit.toNat := by
        refine List.flatMap_congr fun j hj => ?_
        rw [Page.select, hoffset (Nat.le_of_lt (List.mem_range.mp hj))]
      rw [hpages, flatMap_windows, List.take_of_length_le]
      simpa [rows] using hend
    intro all
    have hsame : all = t.rows.mergeSort fun a b => key a ≤ key b := hall
    rw [hsame]
    exact ⟨h.increasing, fun row => List.mem_mergeSort.trans h.mem_rows_iff⟩
  ends limit hlimit hroom := by
    have hpos : 0 < limit.toNat := Nat.pos_of_ne_zero fun hzero => hlimit (UInt32.toNat_inj.mp hzero)
    have hbelow := Nat.div_mul_le_self (t.entries.length + limit.toNat - 1) limit.toNat
    have habove := Nat.lt_div_mul_add hpos (a := t.entries.length + limit.toNat - 1)
    have hfits : (t.entries.length + limit.toNat - 1) / limit.toNat * limit.toNat < UInt32.size := by omega
    refine ⟨_, hfits, List.length_eq_zero_iff.mp ?_⟩
    rw [length_select, UInt32.toNat_ofNat_of_lt' hfits]
    omega

end Keeps

end Table

/-! ## Lists of students and courses -/

namespace Store

def Catalogued (s : Store) : Prop := s.courses.Keeps fun id row => row.id = id

variable {s : Store}

theorem Catalogued.change (h : s.Catalogued) (c : Change) : (s.change c).Catalogued := by
  cases c with
  | createCourse payload => exact h.put rfl
  | updateCourse id payload => exact h.modify fun _ hid => hid
  | deleteCourse id =>
    simp only [Store.change, deleteCourse]
    split
    · exact h.filter_entries _
    · exact h
  | deleteStudent id =>
    simp only [Store.change, deleteStudent]
    split <;> exact h
  | createAccount payload createdAt =>
    simp only [Store.change, createAccount]
    split <;> exact h
  | enroll | createStudent | updateStudent | updateAccount => exact h

theorem Catalogued.after (h : s.Catalogued) (changes : List Change) : (s.after changes).Catalogued :=
  keeps_after (fun c h => h.change c) h changes

theorem catalogued_empty : empty.Catalogued := Table.keeps_empty

end Store

namespace Http.Request

variable {kind : ServiceKind} {r : Request} {place : Place} {limit offset : UInt32}

/-- The window of a request has the numbers that its query gives, and a limit of zero stands for the default one. -/
theorem page_eq_sized (hlimit : Query.field? ["limit", "Limit"] r.query = some limit)
    (hoffset : Query.field? ["offset", "Offset"] r.query = some offset) : r.page = .ok (.sized limit offset) := by
  simp [page, Query.page?, hlimit, hoffset]

/-- To get the list of a service, or its head, is to list the window of the request. -/
theorem understand_list {page : Page} (hmethod : r.method = "GET" ∨ r.method = "HEAD") (hpage : r.page = .ok page) :
    (Place.locate? .students r.path = some .students → r.understand .students = .ok (.operation (.listStudents page))) ∧
      (Place.locate? .courses r.path = some .courses → r.understand .courses = .ok (.operation (.listCourses page))) := by
  have hserves : Place.students.methods.contains r.method = true ∧ Place.courses.methods.contains r.method = true := by
    rcases hmethod with h | h <;> rw [h] <;> decide
  have hintent : r.intent .students "" = .ok (.operation (.listStudents page)) ∧
      r.intent .courses "" = .ok (.operation (.listCourses page)) := by
    rcases hmethod with h | h <;> simp [intent, h, hpage]
  constructor <;> intro hplace
  · rw [understand_at hplace hserves.1 rfl, hintent.1]
    rfl
  · rw [understand_at hplace hserves.2 rfl, hintent.2]
    rfl

end Http.Request

namespace Service

open Store

/-- The lists of students and courses can be read page by page, however the tables are ordered inside, and each page shows the rows
of its window. A request for a list asks for the window that its query gives, and a limit of zero asks for a hundred rows. -/
theorem lists_tile {s : Store} (hstudents : s.Filed) (hcourses : s.Catalogued) :
    (s.students.Paged Student.id s.listStudents ∧
      ∀ s' : Store, s'.students.entries.Perm s.students.entries → ∀ linked wall method page,
        handle .students linked wall method (.listStudents page) (.sound s') =
          (.reply (.ok (.students (s.listStudents page))), .sound s')) ∧
    (s.courses.Paged Course.id s.listCourses ∧
      ∀ s' : Store, s'.courses.entries.Perm s.courses.entries → ∀ linked wall method page,
        handle .courses linked wall method (.listCourses page) (.sound s') =
          (.reply (.ok (.courses (s.listCourses page))), .sound s')) ∧
    ∀ (r : Http.Request) (limit offset : UInt32), r.method = "GET" ∨ r.method = "HEAD" →
      Http.Query.field? ["limit", "Limit"] r.query = some limit → Http.Query.field? ["offset", "Offset"] r.query = some offset →
        let page : Page := ⟨if limit = 0 then 100 else limit, offset⟩
        (Http.Place.locate? .students r.path = some .students →
          r.understand .students = .ok (.operation (.listStudents page))) ∧
        (Http.Place.locate? .courses r.path = some .courses →
          r.understand .courses = .ok (.operation (.listCourses page))) := by
  refine ⟨⟨hstudents.paged, ?_⟩, ⟨hcourses.paged, ?_⟩, ?_⟩
  · intro s' hperm linked wall method page
    have hsame : s'.listStudents page = s.listStudents page := hstudents.rows_perm hperm page
    simp only [handle, students, answer, Backend.read_sound, hsame]
    rfl
  · intro s' hperm linked wall method page
    have hsame : s'.listCourses page = s.listCourses page := hcourses.rows_perm hperm page
    simp only [handle, courses, answer, Backend.read_sound, hsame]
    rfl
  · intro r limit offset hmethod hlimit hoffset
    exact Http.Request.understand_list hmethod (Http.Request.page_eq_sized hlimit hoffset)

def thinned : List Change :=
  [.createStudent ⟨"Ada", Moment.epoch, 5, 1⟩, .createStudent ⟨"Grace", Moment.epoch, 5, 2⟩,
    .createStudent ⟨"Emmy", Moment.epoch, 5, 3⟩, .createCourse ⟨"Algebra"⟩, .createCourse ⟨"Logic"⟩, .deleteStudent 2,
    .deleteCourse 1]

/-- Asks for the courses behind the first one, without a limit of its own. -/
def unlimited : Http.Request := ⟨"GET", "/courses?limit=0&offset=1".toList, none, none, []⟩

/-- Two students are left, and one page each shows them, the one with the lower id first. Behind them comes an empty page. With the
table turned round the answers are the same, and a limit of zero asks for a hundred courses. -/
theorem lists_tile_thinned :
    let s := Store.empty.after thinned
    (∀ s' ∈ [s, { s with students := ⟨s.students.entries.reverse⟩ }],
      ∀ p ∈ [(0, [⟨1, "Ada", Moment.epoch, 5, 1⟩]), (1, [⟨3, "Emmy", Moment.epoch, 5, 3⟩]), (2, [])],
        handle .students true Overlap.inMay "list_students" (.listStudents ⟨1, p.1⟩) (.sound s') =
          (.reply (.ok (.students p.2)), .sound s')) ∧
    s.listCourses ⟨4294967295, 0⟩ = [⟨2, "Logic"⟩] ∧
    unlimited.understand .courses = .ok (.operation (.listCourses ⟨100, 1⟩)) := by
  intro s
  have hfiled : s.Filed := filed_empty.after thinned
  have hcatalogued : s.Catalogued := catalogued_empty.after thinned
  obtain ⟨⟨hstudents, hreply⟩, ⟨hcourses, -⟩, hlimit⟩ := lists_tile hfiled hcatalogued
  -- A row that is known to be on a page of one row is all of the page.
  have halone {ρ : Type} {l : List ρ} {row : ρ} (hlength : l.length = 1) (hrow : row ∈ l) : l = [row] := by
    obtain ⟨other, rfl⟩ := List.length_eq_one_iff.mp hlength
    rw [List.mem_singleton.mp hrow]
  refine ⟨fun s' hs' p hp => ?_, ?_, ?_⟩
  · have hpage : s.listStudents ⟨1, p.1⟩ = p.2 := by
      simp only [List.mem_cons, List.not_mem_nil, or_false] at hp
      rcases hp with rfl | rfl | rfl
      · exact halone (hstudents.length_eq _) ((hstudents.mem_iff _ _).mpr (by decide +kernel))
      · exact halone (hstudents.length_eq _) ((hstudents.mem_iff _ _).mpr (by decide +kernel))
      · exact List.length_eq_zero_iff.mp (hstudents.length_eq _)
    rw [← hpage]
    rcases List.mem_pair.mp hs' with rfl | rfl
    · exact hreply _ (.refl _) _ _ _ _
    · exact hreply _ (List.reverse_perm _) _ _ _ _
  · exact halone (hcourses.length_eq _) ((hcourses.mem_iff _ _).mpr (by decide +kernel))
  · exact (hlimit unlimited 0 1 (.inl rfl) (by decide +kernel) (by decide +kernel)).2 (by decide +kernel)

end Service

end Campus
