import Campus.Proofs.Peer.Address
import Campus.Proofs.Url.Site

/-! # Completing the address of a peer

An address is read as it stands if and only if it begins with `http://` or `https://` in small letters. Whatever is read is an address of
the web that names a host and can carry a path. A scheme in other letters is missed, although reading an address does not tell the
letters apart: the name of the scheme is then taken for the host, and the host for a part of the path.
-/
namespace Campus.Peer

open Text Url

/-- An address begins with the name of a scheme of the web in small letters. -/
def IsCompleteInSmallLetters (raw : String) : Prop := "http://".toList <+: raw.toList ∨ "https://".toList <+: raw.toList

instance (raw : String) : Decidable (IsCompleteInSmallLetters raw) := inferInstanceAs (Decidable (_ ∨ _))

/-- What the address of a peer is if another text is read in its place. -/
def readAs (raw : String) (text : List Char) : Except Fault Url :=
  (Url.parse text).mapError fun e => .configuration s!"invalid peer URL {Text.quote raw}: {e.message}"

theorem parseAddress_eq (raw : String) :
    parseAddress raw = readAs raw (if IsCompleteInSmallLetters raw then raw.toList else "http://".toList ++ raw.toList) := by
  have hcomplete : ("http://".toList.isPrefixOf raw.toList || "https://".toList.isPrefixOf raw.toList) = true ↔
      IsCompleteInSmallLetters raw := by
    rw [Bool.or_eq_true, List.isPrefixOf_iff_prefix, List.isPrefixOf_iff_prefix]
    rfl
  unfold parseAddress readAs
  simp only [hcomplete]
  generalize Url.parse _ = read
  cases read <;> rfl

theorem not_complete_of_no_mark {raw : String} (h : ¬"://".toList <:+: raw.toList) : ¬IsCompleteInSmallLetters raw := by
  rintro (⟨rest, hraw⟩ | ⟨rest, hraw⟩)
  · exact h ⟨"http".toList, rest, hraw⟩
  · exact h ⟨"https".toList, rest, hraw⟩

theorem parseAddress_in_small_letters {raw : String} (h : IsCompleteInSmallLetters raw) : parseAddress raw = readAs raw raw.toList := by
  rw [parseAddress_eq, if_pos h]

theorem parseAddress_otherwise {raw : String} (h : ¬IsCompleteInSmallLetters raw) :
    parseAddress raw = readAs raw ("http://".toList ++ raw.toList) := by
  rw [parseAddress_eq, if_neg h]

theorem parseAddress_in_other_letters {raw : String} (hsmall : ¬IsCompleteInSmallLetters raw) {scheme rest : List Char}
    (hscheme : NamesWeb scheme) (hraw : raw.toList = scheme ++ "://".toList ++ rest) :
    ∃ path query fragment, parseAddress raw =
      .ok ⟨"http".toList, [], [], some (.domain (String.ofList (scheme.map Char.toLower))), none, false, .segments path, query,
        fragment⟩ := by
  obtain ⟨path, query, fragment, hparse⟩ := hscheme.parse_behind_http rest
  refine ⟨path, query, fragment, ?_⟩
  rw [parseAddress_otherwise hsmall, readAs, hraw, hparse]
  rfl

theorem host_of_parseAddress {raw : String} {base : Url} (h : parseAddress raw = .ok base) :
    ∃ host, base.host = some host ∧ host ≠ .domain "" := by
  obtain ⟨name, rest, hname, hparse⟩ := parse_of_parseAddress h
  exact host_of_web hname hparse

/-- An address that begins with `http://` or `https://` in small letters is read as it stands, and every other address behind `http://`,
above all one without a scheme. What is read is an address of the web with a host, and every template can be filled behind it. A scheme
that is written with large letters is not seen, although reading knows it: it becomes the host of the address. -/
theorem parseAddress_completes (raw : String) :
    (IsCompleteInSmallLetters raw → parseAddress raw = readAs raw raw.toList) ∧
      (¬IsCompleteInSmallLetters raw → parseAddress raw = readAs raw ("http://".toList ++ raw.toList)) ∧
      (¬"://".toList <:+: raw.toList → ¬IsCompleteInSmallLetters raw) ∧
      (∀ base, parseAddress raw = .ok base →
        (base.scheme = "http".toList ∨ base.scheme = "https".toList) ∧ (∃ host, base.host = some host ∧ host ≠ .domain "") ∧
          ∀ (t : PathTemplate) (id : String), ∃ url, t.resolve base id = .ok url) ∧
      ∀ scheme rest, NamesWeb scheme → raw.toList = scheme ++ "://".toList ++ rest →
        Url.parse raw.toList = Url.parse (scheme.map Char.toLower ++ "://".toList ++ rest) ∧
        (¬IsCompleteInSmallLetters raw → ∃ path query fragment, parseAddress raw =
          .ok ⟨"http".toList, [], [], some (.domain (String.ofList (scheme.map Char.toLower))), none, false, .segments path, query,
            fragment⟩) := by
  refine ⟨parseAddress_in_small_letters, parseAddress_otherwise, not_complete_of_no_mark, ?_, ?_⟩
  · intro base h
    obtain ⟨hscheme, list, hlist, -⟩ := parseAddress_ok h
    exact ⟨hscheme, host_of_parseAddress h, fun t id => ⟨_, PathTemplate.resolve_ok hlist id⟩⟩
  · intro scheme rest hscheme hraw
    exact ⟨hraw ▸ hscheme.parse_toLower rest, fun hsmall => parseAddress_in_other_letters hsmall hscheme hraw⟩

theorem parseAddress_completes_large_letters :
    ∃ raw scheme rest, NamesWeb scheme ∧ raw.toList = scheme ++ "://".toList ++ rest ∧ ¬IsCompleteInSmallLetters raw ∧
      (Url.parse raw.toList).map Url.text = .ok "http://h:8080/lms" ∧
        ∃ base, parseAddress raw = .ok base ∧ base.host = some (.domain "http") ∧ base.port = none := by
  have hscheme : NamesWeb "HTTP".toList := by decide
  have hraw : "HTTP://h:8080/lms".toList = "HTTP".toList ++ "://".toList ++ "h:8080/lms".toList := by decide
  have hlarge : ¬IsCompleteInSmallLetters "HTTP://h:8080/lms" := by decide
  have hsmall : String.ofList ("HTTP".toList.map Char.toLower) = "http" := by decide
  obtain ⟨hread, hmissed⟩ := (parseAddress_completes "HTTP://h:8080/lms").2.2.2.2 _ _ hscheme hraw
  obtain ⟨path, query, fragment, hbase⟩ := hmissed hlarge
  rw [hsmall] at hbase
  refine ⟨_, _, _, hscheme, hraw, hlarge, ?_, _, hbase, rfl, rfl⟩
  rw [hread]
  decide +kernel

end Campus.Peer
