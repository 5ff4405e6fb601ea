import Campus.Proofs.Service.Effect
import Campus.Proofs.Store.WellFormed

/-! # The numbers and usernames that were given out

The operations that succeeded, seen beside the store that they left. The numbers of new students, of new courses and of new
enrollments are counted through from one, so none of them comes back when its row is deleted. A username is given out once, and its
account stays.
-/
namespace Campus

inductive Numbering where
  | students
  | courses
  | enrollments
  deriving DecidableEq

def Operation.newRow? : Operation → Option Numbering
  | createStudent _ => some .students
  | createCourse _ => some .courses
  | enrollStudent _ _ => some .enrollments
  | _ => none

def Operation.newUsername? : Operation → Option String
  | createAccount p => some p.username
  | _ => none

def Response.number : Response → Int64
  | student s => s.id
  | course c => c.id
  | enrollment e => e.id
  | _ => 0

def Store.next (s : Store) : Numbering → Int64
  | .students => s.nextStudent
  | .courses => s.nextCourse
  | .enrollments => s.nextEnrollment

/-- The operations that succeeded with their responses, the latest last. -/
abbrev Answers := List (Operation × Response)

namespace Answers

/-- The numbers that were given out for a table, the latest last. -/
def numbers (answers : Answers) (k : Numbering) : List Int64 :=
  (answers.filter fun a => a.1.newRow? = some k).map fun a => a.2.number

def usernames (answers : Answers) : List String := answers.filterMap fun a => a.1.newUsername?

end Answers

/-- Numbers that are counted through from one, and the one that comes next. -/
structure Numbered (ids : List Int64) (next : Int64) : Prop where
  counted : ids = (List.range ids.length).map fun i => Int64.ofNat (i + 1)
  next : next = Int64.ofNat (ids.length + 1)

/-- What a store holds of the operations that succeeded: each numbering goes on from the numbers that were given out, and each
account that was created is still there with its username and its date. -/
structure Recorded (s : Store) (answers : Answers) : Prop where
  numbered : ∀ k, Numbered (answers.numbers k) (s.next k)
  named : answers.usernames.Nodup
  accounts : ∀ p r, (.createAccount p, r) ∈ answers → ∃ created row, r = .account created ∧ created.username = p.username ∧
    s.account? p.username = some row ∧ row.username = created.username ∧ row.createdAt = created.createdAt

/-! ## Numbers that are counted through -/

namespace Numbered

variable {ids : List Int64} {next : Int64}

theorem nil : Numbered [] 1 := ⟨rfl, rfl⟩

theorem concat (h : Numbered ids next) : Numbered (ids ++ [next]) (next + 1) where
  counted := by
    rw [List.length_append, List.length_singleton, List.range_succ, List.map_append, ← h.counted, h.next]
    rfl
  next := by
    rw [List.length_append, List.length_singleton, h.next, Int64.ofNat_add (ids.length + 1) 1]
    rfl

/-- Short of an overflow the number at a place has the value that was counted. -/
theorem toInt_ofNat {n i : Nat} (hn : (n : Int) ≤ int64Max) (hi : i < n) : (Int64.ofNat (i + 1)).toInt = i + 1 := by
  unfold int64Max at hn
  exact Int64.toInt_ofNat_of_lt (by omega)

theorem increasing (h : Numbered ids next) (hfew : (ids.length : Int) ≤ int64Max) : ids.Pairwise (· < ·) := by
  rw [h.counted, List.pairwise_map]
  refine List.pairwise_lt_range.imp_of_mem ?_
  intro i j hi hj hij
  rw [Int64.lt_iff_toInt_lt, toInt_ofNat hfew (List.mem_range.mp hi), toInt_ofNat hfew (List.mem_range.mp hj)]
  omega

theorem positive (h : Numbered ids next) (hfew : (ids.length : Int) ≤ int64Max) : ∀ id ∈ ids, 0 < id := by
  intro id hid
  rw [h.counted] at hid
  obtain ⟨i, hi, rfl⟩ := List.mem_map.mp hid
  rw [Int64.lt_iff_toInt_lt, toInt_ofNat hfew (List.mem_range.mp hi), Int64.toInt_zero]
  omega

end Numbered

namespace Store

variable {s : Store}

/-! ## What a change leaves alone -/

theorem deleteStudent_eq (s : Store) (id : Int64) :
    ∃ students enrollments, (s.deleteStudent id).2 = { s with students, enrollments } := by
  unfold deleteStudent
  split <;> exact ⟨_, _, rfl⟩

theorem deleteCourse_eq (s : Store) (id : Int64) : ∃ courses, (s.deleteCourse id).2 = { s with courses } := by
  unfold deleteCourse
  split <;> exact ⟨_, rfl⟩

theorem createAccount_eq (s : Store) (p : NewAccount) (wall : Moment) :
    ∃ accounts, (s.createAccount p wall).2 = { s with accounts } := by
  unfold createAccount
  split <;> exact ⟨_, rfl⟩

theorem account?_updateAccount (u : AccountUpdate) (name k : String) :
    (s.updateAccount name u).2.account? k = if k = name then (s.account? name).map u.apply else s.account? k :=
  Table.get?_modify s.accounts name _ k

theorem createAccount_of_some {p : NewAccount} {wall : Moment} {row : Account} (h : (s.createAccount p wall).1 = some row) :
    s.account? p.username = none ∧ row = ⟨p.username, p.fullName, p.email, wall⟩ ∧
      ∀ name, (s.createAccount p wall).2.account? name = if name = p.username then some row else s.account? name := by
  unfold createAccount at h ⊢
  split at h
  case h_1 => cases h
  case h_2 hnone =>
    obtain rfl := Option.some.inj h
    exact ⟨hnone, rfl, Table.get?_put s.accounts p.username _⟩

end Store

namespace Service.Effect

variable {wall : Moment} {s s' : Store} {op : Operation} {r : Response}

/-! ## What an operation leaves behind -/

/-- An operation that passed its checks keeps a store well-formed. -/
theorem wellFormed (h : Effect wall s op r s') (hs : s.WellFormed) : s'.WellFormed := by
  cases h with
  | read hop => exact hs
  | studentCreated hp => exact hs.createStudent (Check.student_ok.mp hp)
  | studentUpdated hp hid hrow => exact hs.updateStudent (Check.student_ok.mp hp) _
  | studentDeleted hid hgone => exact hs.deleteStudent _
  | enrolled hp => exact hs.createEnrollment (Check.enrollment_ok.mp hp) _ _
  | courseCreated hp => exact hs.createCourse (Check.course_ok.mp hp)
  | courseUpdated hp hid hrow => exact hs.updateCourse (Check.course_ok.mp hp) _
  | courseDeleted hid hgone => exact hs.deleteCourse _
  | accountCreated hp hrow => exact hs.createAccount (Check.account_ok.mp hp) _
  | accountUpdated hname hu hrow => exact hs.updateAccount (Check.update_ok.mp hu) _

/-- An operation that creates a numbered row takes the next number of its table, and no other operation counts on. -/
theorem takes_next (h : Effect wall s op r s') (k : Numbering) :
    if op.newRow? = some k then r.number = s.next k ∧ s'.next k = s.next k + 1 else s'.next k = s.next k := by
  cases h with
  | read hop =>
    have hnone : op.newRow? = none := by cases op <;> first | rfl | cases hop
    simp [hnone]
  | studentCreated hp =>
    cases k <;> simp [Operation.newRow?, Store.next, Store.createStudent, NewStudent.toStudent, Response.number]
  | studentUpdated hp hid hrow => rfl
  | @studentDeleted id key hid hgone =>
    obtain ⟨students, enrollments, hs⟩ := s.deleteStudent_eq key
    rw [hs]
    rfl
  | enrolled hp => cases k <;> simp [Operation.newRow?, Store.next, Store.createEnrollment, Response.number]
  | courseCreated hp => cases k <;> simp [Operation.newRow?, Store.next, Store.createCourse, Response.number]
  | courseUpdated hp hid hrow => rfl
  | @courseDeleted id key hid hgone =>
    obtain ⟨courses, hs⟩ := s.deleteCourse_eq key
    rw [hs]
    rfl
  | @accountCreated p row hp hrow =>
    obtain ⟨accounts, hs⟩ := s.createAccount_eq p wall
    rw [hs]
    rfl
  | accountUpdated hname hu hrow => rfl

theorem account_stays (h : Effect wall s op r s') {name : String} {row : Account} (hrow : s.account? name = some row) :
    ∃ row', s'.account? name = some row' ∧ row'.username = row.username ∧ row'.createdAt = row.createdAt := by
  cases h with
  | @studentDeleted id key hid hgone =>
    obtain ⟨students, enrollments, hs⟩ := s.deleteStudent_eq key
    exact ⟨row, hs ▸ hrow, rfl, rfl⟩
  | @courseDeleted id key hid hgone =>
    obtain ⟨courses, hs⟩ := s.deleteCourse_eq key
    exact ⟨row, hs ▸ hrow, rfl, rfl⟩
  | accountCreated hp hcreated =>
    obtain ⟨hnone, -, hget⟩ := Store.createAccount_of_some hcreated
    refine ⟨row, ?_, rfl, rfl⟩
    rw [hget, if_neg, hrow]
    rintro rfl
    rw [hrow] at hnone
    cases hnone
  | @accountUpdated target u _ hname hu hupdated =>
    by_cases htarget : name = target
    · refine ⟨u.apply row, ?_, rfl, rfl⟩
      rw [Store.account?_updateAccount, if_pos htarget, ← htarget, hrow]
      rfl
    · exact ⟨row, by rw [Store.account?_updateAccount, if_neg htarget, hrow], rfl, rfl⟩
  | _ => exact ⟨row, hrow, rfl, rfl⟩

theorem account_created {p : NewAccount} (h : Effect wall s (.createAccount p) r s') : s.account? p.username = none ∧
    ∃ row, r = .account row ∧ row.username = p.username ∧ s'.account? p.username = some row := by
  cases h with
  | read hop => cases hop
  | accountCreated hp hcreated =>
    obtain ⟨hnone, hrow, hget⟩ := Store.createAccount_of_some hcreated
    exact ⟨hnone, _, rfl, by rw [hrow], by rw [hget, if_pos rfl]⟩

end Service.Effect

/-! ## A store beside the operations that succeeded -/

namespace Answers

theorem numbers_concat (answers : Answers) (op : Operation) (r : Response) (k : Numbering) :
    numbers (answers ++ [(op, r)]) k = if op.newRow? = some k then answers.numbers k ++ [r.number] else answers.numbers k := by
  by_cases hop : op.newRow? = some k <;> simp [numbers, List.filter_append, hop]

theorem usernames_concat (answers : Answers) (op : Operation) (r : Response) :
    usernames (answers ++ [(op, r)]) = answers.usernames ++ op.newUsername?.toList := by
  rw [usernames, List.filterMap_append, ← usernames]
  cases op <;> rfl

theorem mem_usernames {answers : Answers} {name : String} :
    name ∈ answers.usernames ↔ ∃ p r, (Operation.createAccount p, r) ∈ answers ∧ p.username = name := by
  simp only [usernames, List.mem_filterMap]
  constructor
  · rintro ⟨⟨op, r⟩, hmem, hname⟩
    cases op with
    | createAccount p => exact ⟨p, r, hmem, Option.some.inj hname⟩
    | _ => cases hname
  · rintro ⟨p, r, hmem, rfl⟩
    exact ⟨_, hmem, rfl⟩

end Answers

namespace Recorded

variable {wall : Moment} {s s' : Store} {answers : Answers} {op : Operation} {r : Response}

theorem empty : Recorded .empty [] where
  numbered k := by cases k <;> exact .nil
  named := List.nodup_nil
  accounts p r h := by cases h

theorem account_isSome (h : Recorded s answers) {name : String} (hname : name ∈ answers.usernames) :
    (s.account? name).isSome = true := by
  obtain ⟨p, r, hmem, rfl⟩ := Answers.mem_usernames.mp hname
  obtain ⟨created, row, -, -, hrow, -⟩ := h.accounts p r hmem
  rw [hrow]
  rfl

theorem concat (h : Recorded s answers) (heffect : Service.Effect wall s op r s') : Recorded s' (answers ++ [(op, r)]) where
  numbered k := by
    have hnext := heffect.takes_next k
    rw [Answers.numbers_concat]
    by_cases hop : op.newRow? = some k
    · rw [if_pos hop] at hnext ⊢
      rw [hnext.1, hnext.2]
      exact (h.numbered k).concat
    · rw [if_neg hop] at hnext ⊢
      rw [hnext]
      exact h.numbered k
  named := by
    rw [Answers.usernames_concat]
    cases op with
    | createAccount p =>
      have hfresh : p.username ∉ answers.usernames := fun hmem => by
        have hsome := h.account_isSome hmem
        rw [heffect.account_created.1] at hsome
        cases hsome
      exact List.Nodup.append h.named (List.nodup_singleton _) (List.disjoint_singleton.mpr hfresh)
    | _ => exact (List.append_nil _).symm ▸ h.named
  accounts p r' hmem := by
    rcases List.mem_append.mp hmem with hold | hnew
    · obtain ⟨created, row, hr, hname, hrow, husername, hdate⟩ := h.accounts p r' hold
      obtain ⟨row', hrow', husername', hdate'⟩ := heffect.account_stays hrow
      exact ⟨created, row', hr, hname, hrow', husername'.trans husername, hdate'.trans hdate⟩
    · obtain ⟨rfl, rfl⟩ := Prod.mk.inj (List.mem_singleton.mp hnew)
      obtain ⟨-, row, hr, hname, hrow⟩ := heffect.account_created
      exact ⟨row, row, hr, hname, hrow, rfl, rfl⟩

end Recorded

end Campus
