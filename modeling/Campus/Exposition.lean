import Campus.Journal

/-! # Exposition

The counters of a service as the lines that a monitor scrapes: one line for each set of labels as it reads, with the number of
its samples.
-/
namespace Campus

/-- What is counted together: a metric of a service, under its labels in order. -/
structure Series where
  metric : String
  labels : List (String × String)
  deriving DecidableEq, Repr

/-- The numbers of samples by series, in the order in which the series first appeared. -/
structure Exposition where
  counts : List (Series × Nat)
  deriving DecidableEq, Repr

namespace Exposition

def empty : Exposition := ⟨[]⟩

def addTo (s : Series) : List (Series × Nat) → List (Series × Nat)
  | [] => [(s, 1)]
  | (t, n) :: rest => if t = s then (t, n + 1) :: rest else (t, n) :: addTo s rest

/-- Takes note of a counted or observed call of a service; other entries leave no sample. -/
def record (x : Exposition) (service : String) : Entry → Exposition
  | .counted method outcome =>
    ⟨addTo ⟨requestsTotal, [("service", service), ("method", method), ("outcome", outcome.label)]⟩ x.counts⟩
  | .observed method _ =>
    ⟨addTo ⟨requestDuration ++ "_count", [("service", service), ("method", method)]⟩ x.counts⟩
  | _ => x

/-- The characters of a label value. Quotes, line feeds and backslashes are escaped; a backslash that already escapes the
quote or backslash behind it is kept, and `held` says that one waits for what follows. -/
def labelChars (held : Bool) : List Char → List Char
  | [] => if held then ['\\', '\\'] else []
  | '\n' :: rest => '\\' :: 'n' :: labelChars held rest
  | '"' :: rest => '\\' :: '"' :: labelChars false rest
  | '\\' :: rest => (if held then ['\\', '\\'] else []) ++ labelChars (!held) rest
  | c :: rest => (if held then ['\\', '\\'] else []) ++ c :: labelChars false rest

def seriesText (s : Series) : String :=
  let label (l : String × String) : String := l.1 ++ "=\"" ++ String.ofList (labelChars false l.2.toList) ++ "\""
  s.metric ++ "\x7b" ++ String.intercalate "," (s.labels.map label) ++ "\x7d"

/-- One more series for the lines. Of two counts whose series read alike the later one stands; the samples of two observations
are put together. -/
def merge (lines : List (String × Nat)) (row : Series × Nat) : List (String × Nat) :=
  let (s, n) := row
  let text := seriesText s
  match lines.lookup text with
  | none => lines ++ [(text, n)]
  | some m => lines.map fun line => if line.1 = text then (text, if s.metric = requestsTotal then n else m + n) else line

def lines (x : Exposition) : List String :=
  ((x.counts.foldl merge []).map fun (text, n) => text ++ " " ++ toString n).mergeSort fun a b => a ≤ b

end Exposition

end Campus
