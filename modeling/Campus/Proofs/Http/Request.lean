import Campus.Http.Intent
import Campus.Proofs.Url.Reading

/-! # Requests for an address

A request for an address names its path and its query at the host. The service that it comes to sees the segments of the path as
they stand in the address, if these are whole, and finds the place to which they lead.
-/
namespace Campus

def Url.target (u : Url) : List Char := pathChars u.path ++ (u.query.map ('?' :: ·)).getD []

namespace Http.Request

variable {r : Request} {u : Url} {segments : List (List Char)}

theorem path_of_target (hpath : u.path = .segments segments) (hne : segments ≠ []) (hwhole : ∀ s ∈ segments, Url.Whole s)
    (h : r.target = u.target) : r.path = Url.pathChars (.segments segments) := by
  have hclean {mark : Char} (hslash : mark ≠ '/') (hmark : ∀ s ∈ segments, mark ∉ s) :
      ∀ c ∈ Url.pathChars (.segments segments), decide (c ≠ mark) = true := by
    intro c hc
    obtain ⟨s, hs, hin⟩ := List.mem_flatMap.mp hc
    refine decide_eq_true ?_
    rintro rfl
    rcases List.mem_cons.mp hin with rfl | hin
    · exact hslash rfl
    · exact hmark s hs hin
  have hresource : r.resource = Url.pathChars (.segments segments) ++
      ((u.query.map ('?' :: ·)).getD []).takeWhile (· ≠ '#') := by
    obtain ⟨s, rest, rfl⟩ := List.exists_cons_of_ne_nil hne
    unfold resource
    rw [h, Url.target, hpath, List.takeWhile_append_of_pos (hclean (by decide) fun s hs => (hwhole s hs).hash)]
    rfl
  rw [path, hresource, List.takeWhile_append_of_pos (hclean (by decide) fun s hs => (hwhole s hs).mark)]
  cases u.query with
  | none => exact List.append_nil _
  | some query => exact List.append_nil _

/-- What a service sees of the path of a request are the segments of the address that it is for. -/
theorem segments_of_target (hpath : u.path = .segments segments) (hne : segments ≠ []) (hwhole : ∀ s ∈ segments, Url.Whole s)
    (h : r.target = u.target) : Place.segments r.path = segments.map String.ofList := by
  have hcut := Url.cut_pathChars hwhole (List.not_mem_nil : '/' ∉ [])
  rw [path_of_target hpath hne hwhole h, Place.segments, ← List.nil_append (Url.pathChars _), hcut]
  rfl

/-- A request that gets what a place stands for asks it of the id in the place. -/
theorem understand_get {kind : ServiceKind} {place : Place} {id : String} (hmethod : r.method = "GET")
    (hplace : Place.locate? kind r.path = some place) (hget : place.methods.contains "GET" = true)
    (hid : idText place = .ok id) : r.understand kind = (r.intent place id).mapError Answer.ofFault := by
  unfold understand
  rw [hplace]
  simp only [hmethod, hget, hid]
  rfl

end Http.Request

end Campus
