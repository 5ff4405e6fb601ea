import Campus.Proofs.Text.Cut
import Campus.Proofs.Url.Path
import Campus.Url

/-! # Addresses of the web

What is read of an address that begins with `http://` or `https://`: its scheme is the one it begins with, and its path is made of
segments that hold no sign that ends a segment or a path. The text of such a path is cut back into its segments.
-/
namespace Campus

namespace Url

open Text

/-! ## Segments -/

/-- A path of whole segments is cut back into them, behind what stands in front. -/
theorem cut_pathChars {segments : List (List Char)} (h : ∀ s ∈ segments, Whole s) {front : List Char} (hfront : '/' ∉ front) :
    cut '/' (front ++ pathChars (.segments segments)) = front :: segments := by
  induction segments generalizing front with
  | nil => exact cut_front hfront (cut_nil '/')
  | cons s rest ih =>
    have hrest := ih (fun r hr => h r (List.mem_cons_of_mem s hr)) (h s (by simp)).slash
    have hpath : pathChars (.segments (s :: rest)) = '/' :: (s ++ pathChars (.segments rest)) := rfl
    rw [hpath]
    exact cut_front hfront (by rw [cut_mark, hrest])

/-- A segment of a resolved path was there before, or it is empty. -/
theorem mem_resolve {walked segments : List (List Char)} {s : List Char} (h : s ∈ resolve false walked segments) :
    s ∈ walked ∨ s ∈ segments ∨ s = [] := by
  induction segments generalizing walked with
  | nil => exact .inl h
  | cons segment rest ih =>
    have hlast : s ∈ (if rest.isEmpty then [[]] else [] : List (List Char)) → s = [] := by
      split <;> simp
    have hback : s ∈ back walked → s ∈ walked := by
      unfold back
      split
      case isTrue => exact id
      case isFalse => exact fun h => (List.dropLast_sublist walked).subset h
    have hwalked : s ∈ resolve false walked (segment :: rest) → s ∈ walked ∨ s = segment ∨ s ∈ rest ∨ s = [] := by
      intro h
      unfold resolve at h
      dsimp only at h
      split at h
      all_goals
        have hcases := ih h
        simp only [enter, Bool.false_and, Bool.false_eq_true, if_false, List.mem_append, List.mem_singleton] at hcases
        grind
    rcases hwalked h with hw | hs | hr | hn
    · exact .inl hw
    · exact .inr (.inl (hs ▸ List.mem_cons_self ..))
    · exact .inr (.inl (List.mem_cons_of_mem segment hr))
    · exact .inr (.inr hn)

theorem whole_of_mem_readSegments {scheme cs s : List Char} (hfile : namesFiles scheme = false)
    (h : s ∈ readSegments scheme cs) : Whole s := by
  unfold readSegments at h
  rw [hfile] at h
  rcases mem_resolve h with hnone | hread | rfl
  · cases hnone
  · obtain ⟨part, hpart, rfl⟩ := List.mem_map.mp hread
    have hslash := mark_notMem_cut hpart
    constructor
    · intro hmem
      rcases Percent.mem_encode hmem with hdigit | ⟨hin, -⟩
      · revert hdigit
        decide
      · exact hslash hin
    · exact Percent.notMem_encode (by rfl) (by decide) part
    · exact Percent.notMem_encode (by rfl) (by decide) part
  · exact whole_nil

/-! ## Reading -/

/-- Cleaning leaves the front of an address alone if it holds neither blanks nor controls, and what it makes of the rest does not
depend on the front. -/
theorem clean_append (rest : List Char) :
    ∃ rest', ∀ front : List Char, front ≠ [] → (∀ c ∈ front, 0x20 < c.toNat) → clean (front ++ rest) = front ++ rest' := by
  have hstays {cs : List Char} (h : ∀ c ∈ cs, 0x20 < c.toNat) (hcs : cs ≠ []) (behind : List Char) :
      (cs ++ behind).dropWhile (fun c => c.toNat ≤ 0x20) = cs ++ behind := by
    obtain ⟨c, cs, rfl⟩ := List.exists_cons_of_ne_nil hcs
    exact List.dropWhile_cons_of_neg (by have hc := h c (by simp); simpa using hc)
  let back := rest.reverse.dropWhile fun c => decide (c.toNat ≤ 0x20)
  refine ⟨back.reverse.filter fun c => c ≠ '\t' ∧ c ≠ '\n' ∧ c ≠ '\r', fun front hne hfront => ?_⟩
  have hkept : front.filter (fun c => c ≠ '\t' ∧ c ≠ '\n' ∧ c ≠ '\r') = front := by
    refine List.filter_eq_self.mpr fun c hc => ?_
    have hvisible := hfront c hc
    simp only [decide_eq_true_eq]
    refine ⟨?_, ?_, ?_⟩ <;> rintro rfl <;> exact absurd hvisible (by decide)
  have hback := hstays (fun c hc => hfront c (List.mem_reverse.mp hc)) (mt List.reverse_eq_nil_iff.mp hne) []
  rw [List.append_nil] at hback
  have hends : (rest.reverse ++ front.reverse).dropWhile (fun c => decide (c.toNat ≤ 0x20)) = back ++ front.reverse := by
    rw [List.dropWhile_append]
    split
    case isTrue hempty => rw [hback, show back = [] from List.isEmpty_iff.mp hempty, List.nil_append]
    case isFalse => rfl
  have hclean : clean (front ++ rest) = (((((front ++ rest).dropWhile fun c => c.toNat ≤ 0x20).reverse.dropWhile
      fun c => c.toNat ≤ 0x20).reverse).filter fun c => c ≠ '\t' ∧ c ≠ '\n' ∧ c ≠ '\r') := rfl
  rw [hclean, hstays hfront hne, List.reverse_append, hends, List.reverse_append, List.reverse_reverse, List.filter_append, hkept]

theorem namesFiles_of_web {scheme : List Char} (h : scheme = "http".toList ∨ scheme = "https".toList) :
    namesFiles scheme = false := by
  rcases h with rfl | rfl <;> rfl

theorem isSpecial_of_web {scheme : List Char} (h : scheme = "http".toList ∨ scheme = "https".toList) : isSpecial scheme = true := by
  rcases h with rfl | rfl <;> decide

/-- What is read of an address that is `http://` or `https://` and something behind it once it is cleaned. -/
theorem parse_of_clean {name text rest : List Char} (hname : name = "http".toList ∨ name = "https".toList)
    (hclean : clean text = name ++ "://".toList ++ rest) :
    parse text =
      let (body, query, fragment) := cutTail true ("//".toList ++ rest)
      let (site, path) := (body.dropWhile fun c => c = '/' || c = '\\').span fun c => !endsAuthority true c
      (readSite name (path = [] ∧ query.isNone ∧ fragment.isNone) site).map fun site =>
        ⟨name, site.username, site.password, some site.host, site.port, false,
          .segments (readSegments name (if site.rest = [] then (site.rest ++ path).drop 1 else site.rest ++ path)), query, fragment⟩ := by
  have hscheme : scheme? (name ++ "://".toList ++ rest) = some (name, "//".toList ++ rest) := by
    rcases hname with rfl | rfl <;> rfl
  simp only [parse, hclean, hscheme, isSpecial_of_web hname, namesFiles_of_web hname, Bool.false_eq_true, if_false, if_true]
  have hmap {α β : Type} (r : Except UrlFault α) {f : α → Except UrlFault β} {g : α → β} (h : ∀ a, f a = .ok (g a)) :
      r >>= f = r.map g := by
    cases r with
    | error fault => rfl
    | ok a => exact h a
  exact hmap _ fun site => congrArg (fun path => Except.ok (Url.mk _ _ _ _ _ _ (.segments path) _ _)) (if_neg (by simp))

theorem clean_web {name : List Char} (hname : name = "http".toList ∨ name = "https".toList) (rest : List Char) :
    ∃ rest', clean (name ++ "://".toList ++ rest) = name ++ "://".toList ++ rest' := by
  obtain ⟨rest', hclean⟩ := clean_append rest
  refine ⟨rest', hclean _ (by simp) ?_⟩
  rcases hname with rfl | rfl <;> simp

theorem parse_web {name rest : List Char} {u : Url} (hname : name = "http".toList ∨ name = "https".toList)
    (h : parse (name ++ "://".toList ++ rest) = .ok u) : u.scheme = name ∧ ∃ cs, u.path = .segments (readSegments name cs) := by
  obtain ⟨rest', hclean⟩ := clean_web hname rest
  rw [parse_of_clean hname hclean] at h
  dsimp only at h
  generalize readSite name _ _ = site at h
  cases site with
  | error fault => cases h
  | ok site =>
    obtain rfl := Except.ok.inj h
    exact ⟨rfl, _, rfl⟩

/-! ## Writing -/

/-- The text of an address tells its path, if the rest of the address is known. -/
theorem pathChars_eq_of_text {u : Url} {p q : UrlPath}
    (h : ({ u with path := p } : Url).text = ({ u with path := q } : Url).text) : pathChars p = pathChars q := by
  have hchars : ({ u with path := p } : Url).chars = ({ u with path := q } : Url).chars := by
    have hlists := congrArg String.toList h
    rwa [text, text, String.toList_ofList, String.toList_ofList] at hlists
  unfold chars at hchars
  exact List.append_cancel_left (List.append_cancel_right (List.append_cancel_right hchars))

end Url

end Campus
