import Campus.Text.Compose
import Campus.Text.Cut
import Campus.Url.Label
import Campus.Url.Name.Direction
import Campus.Url.Name.Joiner
import Campus.Url.Name.Letter

/-! # Names of hosts

The form in which a name is looked up. Every character becomes the ones that it stands for, the text is composed and cut into
labels, and each label is written in ASCII. A label that is in ASCII form already must be the form of a label that stays as it
is. Labels must not begin with a mark, hold joiners only where they show, and keep to one direction if any of them holds letters
that run from right to left.
-/
namespace Campus.Name

/-- Whether characters stand for themselves in a name, and are composed. -/
def isSettled (label : List Char) : Bool :=
  (label.all fun c => fold? c = some [c] && !isForbidden c) && Text.compose label = label

def meant? (label : List Char) : Option (List Char) :=
  if Label.mark.isPrefixOf label then (Label.unicode? (label.drop Label.mark.length)).filter isSettled else some label

def longestLabel : Nat := 1000

def isFit (label : List Char) : Bool :=
  !(label.head?.any Text.isMark) && joinersFit [] label && (label.all Label.isAscii || label.length ≤ longestLabel)

def ascii? (name : List Char) : Option (List Char) := do
  let letters ← name.mapM fold?
  let text := Text.compose letters.flatten
  if text.any isForbidden then none
  else
    let labels ← (Text.cut '.' text).mapM meant?
    let directions := labels.map fun label => label.map Direction.of
    if labels.all isFit ∧ (directions.flatten.all (fun d => !d.turns) ∨ directions.all Direction.isKept) then
      return ((labels.map Label.ascii).intersperse ['.']).flatten
    else none

end Campus.Name
