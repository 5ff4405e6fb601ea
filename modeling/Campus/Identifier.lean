import Campus.Text.Digits
import Campus.Text.Quoted

/-! # Identifiers

Numeric record identifiers and account names, read from the text that arrives in a path. Nothing is trimmed: a path
segment should already be clean.
-/
namespace Campus

def wholeNumber? : List Char → Option Int
  | '-' :: ds => if ds ≠ [] ∧ ds.all Char.isDigit then some (-(Text.digitsValue ds : Int)) else none
  | '+' :: ds => if ds ≠ [] ∧ ds.all Char.isDigit then some (Text.digitsValue ds : Int) else none
  | ds => if ds ≠ [] ∧ ds.all Char.isDigit then some (Text.digitsValue ds : Int) else none

/-- The smallest number that fits 64 bits with a sign. -/
def int64Min : Int := -9223372036854775808

/-- The largest number that fits 64 bits with a sign. -/
def int64Max : Int := 9223372036854775807

inductive IdentifierFault where
  | empty
  | notNumeric (raw : String)
  | notPositive (value : Int64)
  deriving DecidableEq, Repr

namespace IdentifierFault

def label : IdentifierFault → String
  | empty => "empty"
  | notNumeric _ => "not_numeric"
  | notPositive _ => "not_positive"

def message : IdentifierFault → String
  | empty => "identifier is empty"
  | notNumeric raw => s!"identifier {Text.quote raw} is not a number"
  | notPositive value => s!"identifier {value.toInt} must be positive"

end IdentifierFault

def parseIdentifier (raw : String) : Except IdentifierFault Int64 :=
  if raw.toList = [] then .error .empty
  else match wholeNumber? raw.toList with
    | none => .error (.notNumeric raw)
    | some v =>
      if v < int64Min ∨ int64Max < v then .error (.notNumeric raw)
      else if v ≤ 0 then .error (.notPositive (Int64.ofInt v))
      else .ok (Int64.ofInt v)

def isUsernameChar (c : Char) : Bool := c.isLower || c.isDigit || c == '_'

/-- Why a text is not an account name. -/
inductive UsernameFault where
  | length (bytes : Nat)
  | characters (raw : String)
  deriving DecidableEq, Repr

def UsernameFault.message : UsernameFault → String
  | length bytes => s!"username must be 3-32 characters, got {bytes}"
  | characters raw => s!"username {Text.quote raw} contains invalid characters"

/-- Checks an account name: 3 to 32 bytes, all of them lower case letters, digits or underscores. -/
def checkUsername (raw : String) : Except UsernameFault Unit :=
  if raw.utf8ByteSize < 3 ∨ 32 < raw.utf8ByteSize then .error (.length raw.utf8ByteSize)
  else if raw.toList.all isUsernameChar then .ok ()
  else .error (.characters raw)

example : (parseIdentifier "042").toOption = some 42 := by cbv
example : (checkUsername "ab").toOption = none := by cbv

end Campus
