import Campus.Text.Digits
import Campus.Text.Utf8

/-! # Percent encoding

Characters that may not stand for themselves are written byte by byte, each as a percent sign and two digits. Reading takes
every such triple back to its byte and leaves the rest as it is.
-/
namespace Campus.Text.Percent

def triple (b : UInt8) : List Char :=
  let digit (n : Nat) : Char := if n < 10 then Char.ofNat (48 + n) else Char.ofNat (55 + n)
  ['%', digit (b.toNat / 16), digit (b.toNat % 16)]

/-- A text in which the characters of a set are encoded, and all that are not ASCII. -/
def encode (inSet : Char → Bool) (cs : List Char) : List Char :=
  cs.flatMap fun c => if inSet c || 0x7f ≤ c.toNat || c.toNat < 0x20 then (String.utf8EncodeChar c).flatMap triple else [c]

/-- The bytes of a text, with every triple read. A percent sign without two digits stands for itself. -/
def decode : List Char → List UInt8
  | [] => []
  | '%' :: a :: b :: rest =>
    match hexValue? a, hexValue? b with
    | some x, some y => UInt8.ofNat (16 * x + y) :: decode rest
    | _, _ => 37 :: decode (a :: b :: rest)
  | c :: rest => String.utf8EncodeChar c ++ decode rest

def fragmentSet (c : Char) : Bool := [' ', '"', '<', '>', '\x60'].contains c

def pathSet (c : Char) : Bool := fragmentSet c || ['#', '?', '\x7b', '\x7d'].contains c

def segmentSet (c : Char) : Bool := pathSet c || c == '/' || c == '%'

def userSet (c : Char) : Bool := pathSet c || ['/', ':', ';', '=', '@', '[', '\\', ']', '^', '|'].contains c

def querySet (c : Char) : Bool := [' ', '"', '#', '<', '>'].contains c

end Campus.Text.Percent
