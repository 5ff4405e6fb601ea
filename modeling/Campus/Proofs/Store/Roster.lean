import Campus.Proofs.Service.Overlap
import Campus.Proofs.Store.WellFormed

/-! # Who is enrolled in a course

The roster of a course is taken from the enrollments: their students are sorted, written once each, and looked up. Sorting comes
first, so a student that is enrolled again stands next to itself, and looking up comes last, so a student that is gone is left out.
The order in which the tables keep their rows does not show.
-/
namespace Campus

namespace Table

variable {κ ρ : Type} [DecidableEq κ] {fits : κ → ρ → Prop} {t t' : Table κ ρ} {k : κ} {row : ρ}

theorem Keeps.get?_eq_some_iff (h : t.Keeps fits) : t.get? k = some row ↔ (k, row) ∈ t.entries := by
  constructor
  · intro hrow
    obtain ⟨e, hfind, rfl⟩ := Option.map_eq_some_iff.mp hrow
    have hkey : e.1 = k := by simpa using List.find?_some hfind
    exact hkey ▸ List.mem_of_find?_eq_some hfind
  · intro hmem
    have hkey : k ∈ t.entries.map Prod.fst := List.mem_map_of_mem hmem
    obtain ⟨old, hold⟩ := Option.isSome_iff_exists.mp (isSome_get?_iff.mpr hkey)
    obtain ⟨e, hfind, rfl⟩ := Option.map_eq_some_iff.mp hold
    have hfound : e.1 = k := by simpa using List.find?_some hfind
    have hsame := List.inj_on_of_nodup_map h.distinct (List.mem_of_find?_eq_some hfind) hmem hfound
    rw [hold, hsame]

/-- What stands under a key does not depend on the order of a table. -/
theorem Keeps.get?_perm (h : t.Keeps fits) (hperm : t'.entries.Perm t.entries) (k : κ) : t'.get? k = t.get? k := by
  have h' : t'.Keeps fits := ⟨(hperm.map _).nodup_iff.mpr h.distinct, fun e he => h.fits e (hperm.mem_iff.mp he)⟩
  ext row
  rw [h.get?_eq_some_iff, h'.get?_eq_some_iff, hperm.mem_iff]

/-- Rows in increasing order do not show the order in which they came. -/
theorem eq_of_increasing {key : ρ → Int64} {l l' : List ρ} (h : l.Pairwise fun a b => key a < key b)
    (h' : l'.Pairwise fun a b => key a < key b) (hperm : l.Perm l') : l = l' :=
  List.Perm.eq_of_pairwise (fun _ _ _ _ hab hba => absurd (Int64.lt_trans hab hba) Int64.lt_irrefl) h h' hperm

end Table

namespace Store

/-! ## Changes of a store -/

/-- What changes a store. A student can be enrolled that is gone, or never was. -/
inductive Change where
  | createStudent (payload : NewStudent)
  | updateStudent (id : Int64) (payload : NewStudent)
  | deleteStudent (id : Int64)
  | enroll (student course : Int64) (createdAt : Moment)
  | createCourse (payload : NewCourse)
  | updateCourse (id : Int64) (payload : NewCourse)
  | deleteCourse (id : Int64)
  | createAccount (payload : NewAccount) (createdAt : Moment)
  | updateAccount (username : String) (update : AccountUpdate)

def change (s : Store) : Change → Store
  | .createStudent payload => (s.createStudent payload).2
  | .updateStudent id payload => (s.updateStudent id payload).2
  | .deleteStudent id => (s.deleteStudent id).2
  | .enroll student course createdAt => (s.createEnrollment student course createdAt).2
  | .createCourse payload => (s.createCourse payload).2
  | .updateCourse id payload => (s.updateCourse id payload).2
  | .deleteCourse id => (s.deleteCourse id).2
  | .createAccount payload createdAt => (s.createAccount payload createdAt).2
  | .updateAccount username update => (s.updateAccount username update).2

def after (s : Store) (changes : List Change) : Store := changes.foldl change s

variable {s : Store}

theorem keeps_after {P : Store → Prop} (hchange : ∀ {s : Store} (c : Change), P s → P (s.change c)) (h : P s)
    (changes : List Change) : P (s.after changes) := by
  induction changes generalizing s with
  | nil => exact h
  | cons c changes ih => exact ih (hchange c h)

def Filed (s : Store) : Prop := s.students.Keeps fun id row => row.id = id

theorem Filed.change (h : s.Filed) (c : Change) : (s.change c).Filed := by
  cases c with
  | createStudent payload => exact h.put rfl
  | updateStudent id payload => exact h.modify fun _ _ => rfl
  | deleteStudent id =>
    simp only [Store.change, deleteStudent]
    split
    · exact h.filter_entries _
    · exact h
  | deleteCourse id =>
    simp only [Store.change, deleteCourse]
    split <;> exact h
  | createAccount payload createdAt =>
    simp only [Store.change, createAccount]
    split <;> exact h
  | enroll | createCourse | updateCourse | updateAccount => exact h

theorem Filed.after (h : s.Filed) (changes : List Change) : (s.after changes).Filed :=
  keeps_after (fun c h => h.change c) h changes

theorem filed_empty : empty.Filed := Table.keeps_empty

/-! ## Sorted ids -/

theorem mem_dropRepeats {l : List Int64} {x : Int64} : x ∈ dropRepeats l ↔ x ∈ l := by
  fun_induction dropRepeats l with
  | case1 => rfl
  | case2 => rfl
  | case3 b rest ih => simp [ih]
  | case4 a b rest _ ih => simp [ih]

/-- Once they are sorted, ids that are equal are neighbours, so what is left increases. -/
theorem pairwise_dropRepeats {l : List Int64} (h : l.Pairwise (· ≤ ·)) : (dropRepeats l).Pairwise (· < ·) := by
  fun_induction dropRepeats l with
  | case1 => exact List.Pairwise.nil
  | case2 a => exact List.pairwise_singleton _ a
  | case3 b rest ih => exact ih h.of_cons
  | case4 a b rest hne ih =>
    refine List.pairwise_cons.mpr ⟨fun x hx => ?_, ih h.of_cons⟩
    have hab : a < b := Int64.lt_of_le_of_ne (List.rel_of_pairwise_cons h List.mem_cons_self) hne
    rcases List.mem_cons.mp (mem_dropRepeats.mp hx) with rfl | hrest
    · exact hab
    · exact Int64.lt_of_lt_of_le hab (List.rel_of_pairwise_cons h.of_cons hrest)

theorem sortIds_perm {l l' : List Int64} (h : l'.Perm l) :
    (l'.mergeSort fun a b => a ≤ b) = l.mergeSort fun a b => a ≤ b := by
  apply List.Perm.eq_of_pairwise (fun a b _ _ => Int64.le_antisymm) (Table.rows_sorted id l') (Table.rows_sorted id l)
  exact (List.mergeSort_perm l' _).trans (h.trans (List.mergeSort_perm l _).symm)

/-! ## The roster of a course -/

/-- The ids with an enrollment in a course, each once and in increasing order. -/
def enrolledIds (s : Store) (course : Int64) : List Int64 :=
  dropRepeats (((s.enrollments.rows.filter fun e => e.courseId = course).map Enrollment.studentId).mergeSort fun a b => a ≤ b)

def enrolled (s : Store) (course : Int64) : List Student := (s.enrolledIds course).filterMap s.student?

variable {course : Int64}

theorem mem_enrolledIds {id : Int64} :
    id ∈ s.enrolledIds course ↔ ∃ e ∈ s.enrollments.rows, e.studentId = id ∧ e.courseId = course := by
  rw [enrolledIds, mem_dropRepeats, List.mem_mergeSort, List.mem_map]
  constructor
  · rintro ⟨e, he, rfl⟩
    obtain ⟨hrow, hcourse⟩ := List.mem_filter.mp he
    exact ⟨e, hrow, rfl, of_decide_eq_true hcourse⟩
  · rintro ⟨e, hrow, rfl, hcourse⟩
    exact ⟨e, List.mem_filter.mpr ⟨hrow, decide_eq_true hcourse⟩, rfl⟩

theorem enrolledIds_sorted (s : Store) (course : Int64) : (s.enrolledIds course).Pairwise (· < ·) :=
  pairwise_dropRepeats (Table.rows_sorted _ _)

namespace Filed

theorem mem_enrolled (h : s.Filed) {row : Student} :
    row ∈ s.enrolled course ↔
      s.student? row.id = some row ∧ ∃ e ∈ s.enrollments.rows, e.studentId = row.id ∧ e.courseId = course := by
  rw [enrolled, List.mem_filterMap]
  constructor
  · rintro ⟨id, hid, hrow⟩
    obtain rfl : row.id = id := h.get? hrow
    exact ⟨hrow, mem_enrolledIds.mp hid⟩
  · rintro ⟨hrow, henrolled⟩
    exact ⟨row.id, mem_enrolledIds.mpr henrolled, hrow⟩

/-- The rows stand under their own ids, so they come in the order of these. -/
theorem enrolled_sorted (h : s.Filed) (course : Int64) : (s.enrolled course).Pairwise fun a b => a.id < b.id := by
  refine List.Pairwise.filterMap _ ?_ (s.enrolledIds_sorted course)
  intro id id' hlt row hrow row' hrow'
  have hid : row.id = id := h.get? hrow
  have hid' : row'.id = id' := h.get? hrow'
  rw [hid, hid']
  exact hlt

/-- What a page shows of a roster. The rows are in order already when they are sorted for the page. -/
theorem roster_eq (h : s.Filed) (course : Int64) (page : Page) :
    s.roster course page = ((s.enrolled course).drop page.offset.toNat).take page.limit.toNat := by
  have hsorted : (s.enrolled course).Pairwise fun a b => decide (a.id ≤ b.id) = true :=
    (h.enrolled_sorted course).imp fun hlt => decide_eq_true (Int64.le_of_lt hlt)
  change Page.select page Student.id (s.enrolled course) = _
  rw [Page.select, List.mergeSort_of_pairwise hsorted]

theorem roster_perm (h : s.Filed) {s' : Store} (hstudents : s'.students.entries.Perm s.students.entries)
    (henrollments : s'.enrollments.entries.Perm s.enrollments.entries) (course : Int64) (page : Page) :
    s'.roster course page = s.roster course page := by
  have hids := sortIds_perm (((henrollments.map Prod.snd).filter fun e => e.courseId = course).map Enrollment.studentId)
  have hlookup : s'.student? = s.student? := by
    funext id
    exact Table.Keeps.get?_perm h hstudents id
  simp only [roster, Table.rows, hids, hlookup]

end Filed

end Store

/-- Students in the order of their ids are told by which of them there are. -/
theorem Student.eq_of_increasing {l l' : List Student} (h : l.Pairwise fun a b => a.id < b.id)
    (h' : l'.Pairwise fun a b => a.id < b.id) (hmem : ∀ row, row ∈ l ↔ row ∈ l') : l = l' := by
  have hdistinct : ∀ {m : List Student}, (m.Pairwise fun a b => a.id < b.id) → m.Nodup := by
    intro m hm
    refine hm.imp ?_
    rintro a b hlt rfl
    exact Int64.lt_irrefl hlt
  exact Table.eq_of_increasing h h' ((List.perm_ext_iff_of_nodup (hdistinct h) (hdistinct h')).mpr hmem)

namespace Service

open Store

/-- The students service answers for a course with the students that exist and have an enrollment in it, as they stand now: each
once, in the increasing order of their ids, and at most the first thousand. However the tables are ordered inside, the answer is the
same. -/
theorem getCourseStudents_exact (changes : List Change) (linked : Bool) (wall : Moment) (method : String) {raw : String}
    {course : Int64} (hraw : Check.id raw = .ok course) :
    let s := Store.empty.after changes
    ∃ every : List Student, (every.Pairwise fun a b => a.id < b.id) ∧
      (∀ row, row ∈ every ↔
        s.student? row.id = some row ∧ ∃ e ∈ s.enrollments.rows, e.studentId = row.id ∧ e.courseId = course) ∧
      ∀ s' : Store, s'.students.entries.Perm s.students.entries → s'.enrollments.entries.Perm s.enrollments.entries →
        handle .students linked wall method (.getCourseStudents raw) (.sound s') =
          (.reply (.ok (.students (every.take 1000))), .sound s') := by
  intro s
  have hfiled : s.Filed := filed_empty.after changes
  refine ⟨s.enrolled course, hfiled.enrolled_sorted course, fun row => hfiled.mem_enrolled, ?_⟩
  intro s' hstudents henrollments
  have hroster : s'.roster course relationPage = (s.enrolled course).take 1000 := by
    rw [hfiled.roster_perm hstudents henrollments, hfiled.roster_eq]
    rfl
  simp only [handle, students, onward, hraw, answer, Backend.read_sound, hroster]
  rfl

/-- Two students who take a course, one of them twice and one renamed since, and the enrollment of a third who is gone. -/
def crowdedCourse : List Change :=
  [.createStudent ⟨"Ada", Moment.epoch, 5, 1⟩, .createStudent ⟨"Grace", Moment.epoch, 5, 2⟩,
    .createStudent ⟨"Emmy", Moment.epoch, 5, 3⟩, .enroll 2 7 Overlap.inMay, .enroll 1 7 Overlap.inMay, .enroll 2 7 Overlap.inMay, .enroll 1 8 Overlap.inMay,
    .updateStudent 1 ⟨"Ada L.", Moment.epoch, 6, 1⟩, .deleteStudent 3, .enroll 3 7 Overlap.inMay]

/-- Each of the two comes once, the one with the lower id first, and the third not at all. With the tables turned round the answer
is the same. -/
theorem getCourseStudents_crowdedCourse :
    let s := Store.empty.after crowdedCourse
    ∀ s' ∈ [s, { s with students := ⟨s.students.entries.reverse⟩, enrollments := ⟨s.enrollments.entries.reverse⟩ }],
      handle .students true Overlap.inMay "get_course_students" (.getCourseStudents "7") (.sound s') =
        (.reply (.ok (.students [⟨1, "Ada L.", Moment.epoch, 6, 1⟩, ⟨2, "Grace", Moment.epoch, 5, 2⟩])), .sound s') := by
  intro s
  have hfiled : s.Filed := filed_empty.after crowdedCourse
  have hraw : Check.id "7" = .ok 7 := by rfl
  obtain ⟨every, hsorted, hmem, hreply⟩ := getCourseStudents_exact crowdedCourse true Overlap.inMay "get_course_students" hraw
  have hlist : every = [⟨1, "Ada L.", Moment.epoch, 6, 1⟩, ⟨2, "Grace", Moment.epoch, 5, 2⟩] := by
    refine Student.eq_of_increasing hsorted (by decide) fun row => (hmem row).trans ⟨?_, ?_⟩
    · rintro ⟨hrow, -⟩
      exact List.mem_map_of_mem (f := Prod.snd) (hfiled.get?_eq_some_iff.mp hrow)
    · intro hrow
      rcases List.mem_pair.mp hrow with rfl | rfl
      · exact ⟨by decide +kernel, by decide +kernel⟩
      · exact ⟨by decide +kernel, by decide +kernel⟩
  rw [hlist] at hreply
  intro s' hs'
  rcases List.mem_pair.mp hs' with rfl | rfl
  · exact hreply _ (.refl _) (.refl _)
  · exact hreply _ (List.reverse_perm _) (List.reverse_perm _)

end Service

end Campus
