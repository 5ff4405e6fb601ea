import Campus.Text.Digits

/-! # JSON text: writing

Strings between quotes, and the punctuation of lists and records.
-/
namespace Campus.Json

def escapeChar (c : Char) : List Char :=
  match c with
  | '"' => ['\\', '"']
  | '\\' => ['\\', '\\']
  | '\x08' => ['\\', 'b']
  | '\x0c' => ['\\', 'f']
  | '\n' => ['\\', 'n']
  | '\r' => ['\\', 'r']
  | '\t' => ['\\', 't']
  | c => if c.toNat < 0x20 then ['\\', 'u', '0', '0', Nat.digitChar (c.toNat / 16), Nat.digitChar (c.toNat % 16)] else [c]

def stringChars (s : String) : List Char := '"' :: s.toList.flatMap escapeChar ++ ['"']

def intChars (v : Int) : List Char :=
  if v < 0 then '-' :: Text.digits v.natAbs else Text.digits v.natAbs

def commaSeparated : List (List Char) → List Char
  | [] => []
  | [a] => a
  | a :: b :: rest => a ++ ',' :: commaSeparated (b :: rest)

def listChars (items : List (List Char)) : List Char := '[' :: commaSeparated items ++ [']']

def recordChars (fields : List (String × List Char)) : List Char :=
  '\x7b' :: commaSeparated (fields.map fun f => stringChars f.1 ++ ':' :: f.2) ++ ['\x7d']

end Campus.Json
