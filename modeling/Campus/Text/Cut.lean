/-! # Cutting text

A text between the marks that separate its parts.
-/
namespace Campus.Text

/-- A text cut at every occurrence of a mark. There is one part more than there are marks. -/
def cut (mark : Char) (cs : List Char) : List (List Char) :=
  cs.foldr (fun c parts => if c = mark then [] :: parts else match parts with
    | part :: rest => (c :: part) :: rest
    | [] => [[c]]) [[]]

example : cut ',' ['a', ',', ','] = [['a'], [], []] := rfl

end Campus.Text
