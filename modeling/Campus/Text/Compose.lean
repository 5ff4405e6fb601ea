import Campus.Text.Compose.Pairs
import Campus.Text.Mark

/-! # Composed text

Many letters with marks can be written in more than one way. The composed form of a text takes every letter apart, puts the marks
behind a base in the order of their classes, and then joins each base with the marks that it takes. Texts that read alike have
one composed form.
-/
namespace Campus.Text

/-! ## Syllables of Hangul

A syllable is a leading letter, a vowel and perhaps a trailing letter; their code points are counted through. -/

def leads : Nat := 19
def vowels : Nat := 21
def trails : Nat := 28

def leadBase : Nat := 0x1100
def vowelBase : Nat := 0x1161
def trailBase : Nat := 0x11a7
def syllableBase : Nat := 0xac00

def letters? (c : Char) : Option (List Char) :=
  let n := c.toNat - syllableBase
  if c.toNat < syllableBase ∨ leads * vowels * trails ≤ n then none
  else
    let front := [Char.ofNat (leadBase + n / (vowels * trails)), Char.ofNat (vowelBase + n / trails % vowels)]
    some (if n % trails = 0 then front else front ++ [Char.ofNat (trailBase + n % trails)])

def syllable? (a b : Char) : Option Char :=
  let (m, n) := (a.toNat, b.toNat)
  if leadBase ≤ m ∧ m < leadBase + leads ∧ vowelBase ≤ n ∧ n < vowelBase + vowels then
    some (Char.ofNat (syllableBase + ((m - leadBase) * vowels + (n - vowelBase)) * trails))
  else if syllableBase ≤ m ∧ m < syllableBase + leads * vowels * trails ∧ (m - syllableBase) % trails = 0 ∧
      trailBase < n ∧ n < trailBase + trails then
    some (Char.ofNat (m + (n - trailBase)))
  else none

example : letters? '각' = some ['ᄀ', 'ᅡ', 'ᆨ'] ∧ syllable? '가' 'ᆨ' = some '각' := by decide

/-! ## Taking apart -/

/-- A character without any of its marks joined to it; no character takes more than `fuel` of them. -/
def apart : Nat → Char → List Char
  | 0, c => [c]
  | fuel + 1, c =>
    if c.toNat < 0xc0 then [c]
    else match composites.image? c with
      | some cs => cs.flatMap (apart fuel)
      | none => (letters? c).getD [c]

abbrev Ranked := Char × Nat

/-- Puts a character in front of a text whose marks are in order, behind the marks of lower classes. -/
def place (c : Ranked) : List Ranked → List Ranked
  | [] => [c]
  | d :: ds => if d.2 ≠ 0 ∧ d.2 < c.2 then d :: place c ds else c :: d :: ds

def decompose (cs : List Char) : List Ranked := ((cs.flatMap (apart 4)).map fun c => (c, markClass c)).foldr place []

/-! ## Joining -/

def join? (a b : Char) : Option Char :=
  if b.toNat < 0x300 then none else (syllable? a b).or (composites.source? [a, b])

/-- A base and the marks that stay behind it, given the last of them first. -/
def standing (base : Char) (kept : List Ranked) : List Char := base :: (kept.map Prod.fst).reverse

/-- Joins a base with what follows it. A mark reaches the base past the marks that stay, of which `kept` holds the last first,
unless the last of them has its class or a higher one. -/
def joinFrom (base : Char) (kept : List Ranked) : List Ranked → List Char
  | [] => standing base kept
  | (c, rank) :: cs =>
    let reaches := kept.head?.all fun k => k.2 < rank
    match if reaches then join? base c else none with
    | some joined => joinFrom joined kept cs
    | none => if rank = 0 then standing base kept ++ joinFrom c [] cs else joinFrom base ((c, rank) :: kept) cs

def join : List Ranked → List Char
  | [] => []
  | (c, rank) :: cs => if rank = 0 then joinFrom c [] cs else c :: join cs

def compose (cs : List Char) : List Char := join (decompose cs)

end Campus.Text
