import Campus.Url.Name.Folded
import Campus.Url.Name.Refused

/-! # Letters of names

What a character of a name stands for. Letters become small, forms of a letter become the letter, and some characters are left
out.
-/
namespace Campus.Name

def fold? (c : Char) : Option (List Char) :=
  if c.toNat < 128 then some [c.toLower]
  else if refused.holds c then none
  else if dropped.holds c then some []
  else some ((folded.image? c).getD [c])

def isForbidden (c : Char) : Bool := c.toNat ≤ 0x20 || c = '\x7f' || "%#/:<>?@[\\]^|".toList.contains c

end Campus.Name
