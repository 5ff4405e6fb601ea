import Campus.Http.Intent
import Campus.Service

/-! # Routes

Where requests lead in each service. A place of a service stands for operations that the service knows, and a request that cannot be
read as one of them is invalid.
-/
namespace Campus.Http

namespace Place

/-- Whether a place belongs to the records of a service. The other places tell how a service is. -/
def isOf : ServiceKind → Place → Bool
  | .students, students | .students, student _ | .students, studentCourses _ | .students, roster _ => true
  | .courses, courses | .courses, course _ | .courses, roster _ => true
  | .accounts, accounts | .accounts, account _ => true
  | _, _ => false

def isProbe : Place → Bool
  | health | live | ready => true
  | _ => false

theorem isOf_of_ofStudents? {parts : List String} {place : Place} (h : ofStudents? parts = some place) :
    place.isOf .students = true := by
  unfold ofStudents? at h
  split at h
  all_goals first
    | cases h; rfl
    | split at h <;> cases h; rfl
    | cases h

theorem isOf_of_ofCourses? {parts : List String} {place : Place} (h : ofCourses? parts = some place) :
    place.isOf .courses = true := by
  unfold ofCourses? at h
  split at h
  all_goals first
    | cases h; rfl
    | split at h <;> cases h; rfl
    | cases h

theorem isOf_of_ofAccounts? {parts : List String} {place : Place} (h : ofAccounts? parts = some place) :
    place.isOf .accounts = true := by
  unfold ofAccounts? at h
  split at h
  all_goals first
    | cases h; rfl
    | split at h <;> cases h; rfl
    | cases h

/-- A path leads to the records of the service itself, or tells how it is. -/
theorem isOf_of_locate? {kind : ServiceKind} {path : List Char} {place : Place} (h : locate? kind path = some place)
    (hrecords : place.isProbe = false) : place.isOf kind = true := by
  unfold locate? at h
  split at h
  case h_1 => cases h; cases hrecords
  case h_2 => cases h; cases hrecords
  case h_3 => cases h; cases hrecords
  case h_4 =>
    cases kind with
    | students => exact isOf_of_ofStudents? h
    | courses => exact isOf_of_ofCourses? h
    | accounts => exact isOf_of_ofAccounts? h

end Place

namespace Request

/-- A request for a place that serves its method asks what the place stands for. -/
theorem understand_at {kind : ServiceKind} {r : Request} {place : Place} {id : String}
    (hplace : Place.locate? kind r.path = some place) (hserves : place.methods.contains r.method = true)
    (hid : idText place = .ok id) : r.understand kind = (r.intent place id).mapError Answer.ofFault := by
  unfold understand
  rw [hplace]
  simp only [hserves, hid]
  rfl

/-- What is asked of a service is an operation that it knows, or the request is invalid. -/
inductive Leads (kind : ServiceKind) : Except Fault Intent → Prop
  | asks {op : Operation} (hknown : op.method ∈ Service.methods kind) : Leads kind (.ok (.operation op))
  | refused (reason : String) : Leads kind (.error (.validation reason))

variable {kind : ServiceKind} {r : Request} {place : Place}

theorem validation_of_read {α : Type} [Wire α] {f : Fault} (h : (r.read : Except Fault α) = .error f) :
    ∃ reason, f = .validation reason := by
  unfold read at h
  split at h
  case isTrue =>
    cases h
    exact ⟨_, rfl⟩
  split at h
  case isTrue =>
    cases h
    exact ⟨_, rfl⟩
  split at h <;> cases h
  all_goals exact ⟨_, rfl⟩

theorem validation_of_page {f : Fault} (h : r.page = .error f) : ∃ reason, f = .validation reason := by
  unfold page at h
  split at h <;> cases h
  exact ⟨_, rfl⟩

theorem leads_made {α : Type} {value : Except Fault α} (hvalue : ∀ f, value = .error f → ∃ reason, f = .validation reason)
    {make : α → Operation} (hknown : ∀ a, (make a).method ∈ Service.methods kind) :
    Leads kind (do return .operation (make (← value))) := by
  cases value with
  | ok a => exact .asks (hknown a)
  | error f =>
    obtain ⟨reason, rfl⟩ := hvalue f rfl
    exact .refused reason

/-- Whatever is asked of a place of a service, the service knows the operation. -/
theorem leads_intent (h : place.isOf kind = true) (id : String) : Leads kind (r.intent place id) := by
  unfold intent
  split
  -- These places tell how a service is.
  case h_1 | h_2 | h_3 => cases kind <;> cases h
  all_goals first
    | refine leads_made (fun _ => validation_of_read) fun _ => ?_
    | refine leads_made (fun _ => validation_of_page) fun _ => ?_
    | refine .asks ?_
  all_goals
    cases kind <;> first
      | cases h; done
      | simp [Operation.method, Service.methods]

theorem eq_ok_of_mapError {intent : Except Fault Intent} {a : Intent} (h : intent.mapError Answer.ofFault = .ok a) :
    intent = .ok a := by
  cases intent with
  | error f => cases h
  | ok b => rw [Except.ok.inj h]

/-- A service knows every operation that requests ask of it. -/
theorem mem_methods_of_understand {op : Operation} (h : r.understand kind = .ok (.operation op)) :
    op.method ∈ Service.methods kind := by
  unfold understand at h
  split at h
  case h_1 => cases h
  case h_2 place hplace =>
    split at h
    case isTrue => cases h
    case isFalse =>
      cases hid : idText place with
      | error answer =>
        rw [hid] at h
        cases h
      | ok id =>
        rw [hid] at h
        have hintent : r.intent place id = .ok (.operation op) := eq_ok_of_mapError h
        cases hprobe : place.isProbe with
        | true => cases place <;> first | cases hprobe; done | cases hintent
        | false =>
          have hleads := leads_intent (r := r) (Place.isOf_of_locate? hplace hprobe) id
          rw [hintent] at hleads
          cases hleads with
          | asks hknown => exact hknown

end Request

end Campus.Http
