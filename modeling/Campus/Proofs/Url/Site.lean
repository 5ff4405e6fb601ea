import Campus.Proofs.Text.Percent
import Campus.Proofs.Url.Reading
import Mathlib.Data.List.TakeDrop
import Mathlib.Data.List.TakeWhile

/-! # Authorities of the web

The part of an address of the web that names the host. The host that is read is never empty. Letters of a name are small or large without
a difference. Where the name of a scheme and its colon stand in the place of an authority, they are read as a host without a port.
-/
namespace Campus

open Text

/-! ## Hosts -/

namespace Host

theorem ne_empty_of_parse {cs : List Char} {host : Host} (h : Host.parse cs = .ok host) : host ≠ .domain "" := by
  have hnumber {α : Type} {make : α → Host} {read : Option α} {fault : UrlFault} (hmake : ∀ a, make a ≠ .domain "")
      (h : number make read fault = .ok host) : host ≠ .domain "" := by
    cases read with
    | none => cases h
    | some a =>
      obtain rfl := Except.ok.inj h
      exact hmake a
  unfold Host.parse at h
  split at h
  case h_1 =>
    split at h
    case isTrue => exact hnumber (by simp) h
    case isFalse => cases h
  case h_2 =>
    split at h
    case h_1 => cases h
    case h_2 => cases h
    case h_3 name hname hread =>
      split at h
      case isTrue => exact hnumber (by simp) h
      case isFalse =>
        obtain rfl := Except.ok.inj h
        intro hempty
        have hnil := congrArg String.toList (Host.domain.inj hempty)
        rw [String.toList_ofList] at hnil
        exact hname hnil

end Host

namespace Name

theorem mapM_fold? {name : List Char} (h : ∀ c ∈ name, c.toNat < 128) : name.mapM fold? = some (name.map fun c => [c.toLower]) := by
  induction name with
  | nil => rfl
  | cons c name ih =>
    have hc : fold? c = some [c.toLower] := if_pos (h c List.mem_cons_self)
    rw [List.mapM_cons, hc, ih fun d hd => h d (List.mem_cons_of_mem c hd)]
    rfl

/-- The letters of a name in ASCII may be small or large. -/
theorem ascii?_congr {name other : List Char} (hname : ∀ c ∈ name, c.toNat < 128) (hother : ∀ c ∈ other, c.toNat < 128)
    (h : name.map Char.toLower = other.map Char.toLower) : ascii? name = ascii? other := by
  have hletters : (name.map fun c => [c.toLower]) = other.map fun c => [c.toLower] := by
    simpa [Function.comp_def] using congrArg (List.map fun c => [c]) h
  unfold ascii?
  rw [mapM_fold? hname, mapM_fold? hother, hletters]

end Name

namespace Url

/-! ## Hosts of the web -/

theorem parse_host_of_readSite {scheme cs : List Char} {isLast : Bool} {site : Site} (hspecial : isSpecial scheme = true)
    (h : readSite scheme isLast cs = .ok site) : ∃ text, Host.parse text = .ok site.host := by
  simp only [readSite, hspecial, if_true] at h
  split at h
  case isTrue => cases h
  split at h
  case isTrue => cases h
  simp only [bind, Except.bind] at h
  split at h
  case h_1 => cases h
  case h_2 host hhost =>
    split at h
    case h_1 => cases h
    case h_2 =>
      obtain rfl := Except.ok.inj h
      exact ⟨_, hhost⟩

theorem host_of_web {name rest : List Char} {u : Url} (hname : name = "http".toList ∨ name = "https".toList)
    (h : parse (name ++ "://".toList ++ rest) = .ok u) : ∃ host, u.host = some host ∧ host ≠ .domain "" := by
  obtain ⟨rest', hclean⟩ := clean_web hname rest
  rw [parse_of_clean hname hclean] at h
  dsimp only at h
  cases hsite : readSite name _ _ with
  | error fault =>
    rw [hsite] at h
    cases h
  | ok site =>
    rw [hsite] at h
    obtain rfl := Except.ok.inj h
    obtain ⟨text, htext⟩ := parse_host_of_readSite (isSpecial_of_web hname) hsite
    exact ⟨_, rfl, Host.ne_empty_of_parse htext⟩

/-! ## Schemes in any letters -/

/-- A text is the name of a scheme of the web, its letters being small or large. -/
def NamesWeb (scheme : List Char) : Prop :=
  scheme.map Char.toLower = "http".toList ∨ scheme.map Char.toLower = "https".toList

instance (scheme : List Char) : Decidable (NamesWeb scheme) := inferInstanceAs (Decidable (_ ∨ _))

theorem mem_of_toLower_mem {c : Char} (h : c.toLower ∈ "https".toList) : c ∈ "httpsHTTPS".toList := by
  rcases of_toLower_eq (rfl : c.toLower = c.toLower) with hsame | ⟨hvalue, -, -⟩
  · rw [← hsame] at h
    exact List.mem_append_left "HTTPS".toList h
  · have hlarge : ∀ d ∈ "https".toList, Char.ofNat (d.toNat - 32) ∈ "httpsHTTPS".toList := by simp
    have hc : c = Char.ofNat (c.toLower.toNat - 32) := by rw [← hvalue, Nat.add_sub_cancel, Char.ofNat_toNat]
    rw [hc]
    exact hlarge _ h

namespace NamesWeb

variable {scheme : List Char}

theorem mem (h : NamesWeb scheme) {c : Char} (hc : c ∈ scheme) : c ∈ "httpsHTTPS".toList := by
  have hlower := List.mem_map_of_mem (f := Char.toLower) hc
  refine mem_of_toLower_mem ?_
  rcases h with h | h
  · exact (show "http".toList ⊆ "https".toList by decide) (h ▸ hlower)
  · exact h ▸ hlower

theorem letters {p : Char → Prop} (h : NamesWeb scheme) (hp : ∀ c ∈ "httpsHTTPS".toList, p c) : ∀ c ∈ scheme, p c :=
  fun c hc => hp c (h.mem hc)

theorem letters_append {p : Char → Prop} (h : NamesWeb scheme) {signs : List Char} (hp : ∀ c ∈ "httpsHTTPS".toList ++ signs, p c) :
    ∀ c ∈ scheme ++ signs, p c := by
  rw [List.forall_mem_append] at hp ⊢
  exact ⟨h.letters hp.1, hp.2⟩

theorem ne_nil (h : NamesWeb scheme) : scheme ≠ [] := by
  rintro rfl
  revert h
  decide

theorem parse_host (h : NamesWeb scheme) : Host.parse scheme = .ok (.domain (String.ofList (scheme.map Char.toLower))) := by
  have hascii : ∀ c ∈ scheme, c.toNat < 128 := h.letters (by simp)
  have hname : Name.ascii? scheme = some (scheme.map Char.toLower) := by
    have hsame {small : List Char} (hsmall : ∀ c ∈ small, c.toNat < 128) (hkept : small.map Char.toLower = small)
        (h : scheme.map Char.toLower = small) : Name.ascii? scheme = Name.ascii? small :=
      Name.ascii?_congr hascii hsmall (h.trans hkept.symm)
    rcases h with h | h
    all_goals
      rw [hsame (by simp) (by decide) h, h]
      decide +kernel
  have hread : Utf8.decode? (Percent.decode scheme) = some scheme := by
    have hplain : Percent.encode (· == '%') scheme = scheme := Percent.encode_of_plain (h.letters (by simp))
    have hback : Utf8.decode? (Percent.decode (Percent.encode (· == '%') scheme)) = some scheme := Percent.text_encode (by decide) scheme
    rwa [hplain] at hback
  unfold Host.parse
  split
  case h_1 => exact absurd (h.mem (List.mem_cons_self (a := '['))) (by decide)
  case h_2 =>
    rw [hread, Option.bind_some, hname]
    have hnumber : V4.endsInNumber (scheme.map Char.toLower) = false := by
      rcases h with h | h <;> rw [h] <;> decide
    split
    case h_1 hnone => cases hnone
    case h_2 hempty => exact absurd (List.map_eq_nil_iff.mp (Option.some.inj hempty)) h.ne_nil
    case h_3 name hsome =>
      obtain rfl := Option.some.inj hsome
      rw [hnumber]
      rfl

theorem visible (h : NamesWeb scheme) : ∀ c ∈ scheme ++ "://".toList, 0x20 < c.toNat := h.letters_append (by simp)

theorem scheme?_append (h : NamesWeb scheme) (rest : List Char) :
    scheme? (scheme ++ "://".toList ++ rest) = some (scheme.map Char.toLower, "//".toList ++ rest) := by
  have hsplit : scheme ++ "://".toList ++ rest = scheme ++ ':' :: ("//".toList ++ rest) := by simp
  have hhead : ∀ c ∈ scheme, c.isAlpha = true := h.letters (by simp)
  unfold scheme?
  rw [hsplit, List.span_eq_takeWhile_dropWhile, List.takeWhile_append_of_pos, List.dropWhile_append_of_pos,
    List.takeWhile_cons_of_neg (by decide), List.dropWhile_cons_of_neg (by decide), List.append_nil]
  · obtain ⟨c, cs, rfl⟩ := List.exists_cons_of_ne_nil h.ne_nil
    exact if_pos (hhead c List.mem_cons_self)
  all_goals exact h.letters (show ∀ c ∈ "httpsHTTPS".toList, (c.isAlphanum || c == '+' || c == '-' || c == '.') = true by simp)

/-- The letters of a scheme are small or large without a difference to what is read. -/
theorem parse_toLower (h : NamesWeb scheme) (rest : List Char) :
    parse (scheme ++ "://".toList ++ rest) = parse (scheme.map Char.toLower ++ "://".toList ++ rest) := by
  have htwice : (scheme.map Char.toLower).map Char.toLower = scheme.map Char.toLower := by
    rcases h with h | h <;> rw [h] <;> decide
  have hsmall : NamesWeb (scheme.map Char.toLower) := by
    rwa [NamesWeb, htwice]
  obtain ⟨rest', hclean⟩ := clean_append rest
  unfold parse
  rw [hclean _ (by simp) h.visible, hclean _ (by simp) hsmall.visible, h.scheme?_append, hsmall.scheme?_append, htwice]
end NamesWeb

theorem hostText_append {cs : List Char} (h : ∀ c ∈ cs, c ≠ ':' ∧ c ≠ '[' ∧ c ≠ ']') (rest : List Char) :
    hostText false (cs ++ ':' :: rest) = (cs, ':' :: rest) := by
  induction cs with
  | nil => rfl
  | cons c cs ih =>
    obtain ⟨hcolon, hopen, hclose⟩ := h c List.mem_cons_self
    have hrest := ih fun d hd => h d (List.mem_cons_of_mem c hd)
    simp [hostText, hcolon, hopen, hclose, hrest]

/-- In the place of an authority the name of a scheme is a host, and its colon stands in front of a port that is not given. -/
theorem NamesWeb.readSite_eq {scheme : List Char} (h : NamesWeb scheme) (isLast : Bool) :
    readSite "http".toList isLast (scheme ++ [':']) =
      .ok ⟨[], [], .domain (String.ofList (scheme.map Char.toLower)), none, []⟩ := by
  have hsigns : ∀ c ∈ scheme, c ≠ ':' ∧ c ≠ '[' ∧ c ≠ ']' := h.letters (by simp)
  have hwhole : ((scheme ++ [':']).reverse.span (· ≠ '@')).1.reverse = scheme ++ [':'] := by
    have hat : ∀ c ∈ (scheme ++ [':']).reverse, decide (c ≠ '@') = true := fun c hc =>
      h.letters_append (p := fun c => decide (c ≠ '@') = true) (by simp) c (List.mem_reverse.mp hc)
    rw [List.span_eq_takeWhile_dropWhile, List.takeWhile_eq_self_iff.mpr hat, List.reverse_reverse]
  have hspecial : isSpecial "http".toList = true := isSpecial_of_web (.inl rfl)
  simp only [readSite, hwhole, hostText_append hsigns, h.parse_host, hspecial, h.ne_nil, Nat.lt_irrefl, Nat.sub_self, Nat.zero_sub,
    List.take_zero, false_and, if_false, if_true]
  rfl

/-- A front without the signs of a query and of a fragment stays in front. -/
theorem cutTail_append {front : List Char} (h : ∀ c ∈ front, c ≠ '#' ∧ c ≠ '?') (special : Bool) (rest : List Char) :
    ∃ body query fragment, cutTail special (front ++ rest) = (front ++ body, query, fragment) := by
  have hkept {sign : Char} (hsign : ∀ c ∈ front, c ≠ sign) (cs : List Char) :
      (front ++ cs).span (· ≠ sign) = (front ++ cs.takeWhile (· ≠ sign), cs.dropWhile (· ≠ sign)) := by
    have hall : ∀ c ∈ front, decide (c ≠ sign) = true := fun c hc => decide_eq_true (hsign c hc)
    rw [List.span_eq_takeWhile_dropWhile, List.takeWhile_append_of_pos hall, List.dropWhile_append_of_pos hall]
  unfold cutTail
  rw [hkept fun c hc => (h c hc).1]
  dsimp only
  rw [hkept fun c hc => (h c hc).2]
  exact ⟨_, _, _, rfl⟩

/-- Behind `http://` the name of a scheme is the host, and what would be the host is part of the path. -/
theorem NamesWeb.parse_behind_http {scheme : List Char} (h : NamesWeb scheme) (rest : List Char) :
    ∃ path query fragment, parse ("http://".toList ++ (scheme ++ "://".toList ++ rest)) =
      .ok ⟨"http".toList, [], [], some (.domain (String.ofList (scheme.map Char.toLower))), none, false, .segments path, query,
        fragment⟩ := by
  obtain ⟨rest', hclean⟩ : ∃ rest', clean ("http://".toList ++ (scheme ++ "://".toList ++ rest)) =
      "http".toList ++ "://".toList ++ (scheme ++ "://".toList ++ rest') := by
    have hvisible : ∀ c ∈ "http://".toList ++ (scheme ++ "://".toList), 0x20 < c.toNat :=
      List.forall_mem_append.mpr ⟨by simp, h.visible⟩
    obtain ⟨rest', hclean⟩ := clean_append rest
    exact ⟨rest', by simpa [List.append_assoc] using hclean _ (by simp) hvisible⟩
  obtain ⟨body, query, fragment, htail⟩ : ∃ body query fragment,
      cutTail true ("//".toList ++ (scheme ++ "://".toList ++ rest')) =
        ("//".toList ++ (scheme ++ "://".toList ++ body), query, fragment) := by
    have hsigns : ∀ c ∈ "//".toList ++ (scheme ++ "://".toList), c ≠ '#' ∧ c ≠ '?' :=
      List.forall_mem_append.mpr ⟨by simp, h.letters_append (by simp)⟩
    simpa [List.append_assoc] using cutTail_append hsigns true rest'
  have hfront : ("//".toList ++ (scheme ++ "://".toList ++ body)).dropWhile (fun c => c = '/' || c = '\\') =
      scheme ++ "://".toList ++ body := by
    have hslash : ∀ c ∈ scheme, ¬(c = '/' || c = '\\') = true := h.letters (by simp)
    rw [List.dropWhile_append_of_pos (by simp)]
    obtain ⟨c, cs, rfl⟩ := List.exists_cons_of_ne_nil h.ne_nil
    exact List.dropWhile_cons_of_neg (by simpa using hslash c List.mem_cons_self)
  have hsite : (scheme ++ "://".toList ++ body).span (fun c => !endsAuthority true c) = (scheme ++ [':'], "//".toList ++ body) := by
    have hstays : ∀ c ∈ scheme ++ [':'], (!endsAuthority true c) = true := h.letters_append (by simp [endsAuthority])
    have hsplit : scheme ++ "://".toList ++ body = scheme ++ [':'] ++ '/' :: ('/' :: body) := by simp
    rw [hsplit, List.span_eq_takeWhile_dropWhile, List.takeWhile_append_of_pos hstays, List.dropWhile_append_of_pos hstays,
      List.takeWhile_cons_of_neg (by decide), List.dropWhile_cons_of_neg (by decide), List.append_nil]
    rfl
  rw [parse_of_clean (.inl rfl) hclean, htail]
  dsimp only
  rw [hfront, hsite]
  dsimp only
  rw [h.readSite_eq]
  exact ⟨_, _, _, rfl⟩

end Url

end Campus
