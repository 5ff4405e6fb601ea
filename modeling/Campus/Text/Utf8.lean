/-! # Text as bytes

The bytes of a text, and the text of bytes that may be no text in places. Bytes that are no text come in pieces: the longest
beginning of a character that is broken off, or one byte.
-/
namespace Campus.Text

def utf8Bytes (cs : List Char) : List UInt8 := cs.flatMap String.utf8EncodeChar

inductive Piece where
  | char (c : Char)
  | stray (bytes : Nat)
  deriving DecidableEq, Repr

namespace Utf8

def isTail (b : UInt8) : Bool := 0x80 ≤ b && b ≤ 0xbf

/-- Whether the second byte fits a first byte of three or four bytes. -/
def fitsSecond (first second : UInt8) : Bool :=
  if first = 0xe0 then 0xa0 ≤ second && second ≤ 0xbf
  else if first = 0xed then 0x80 ≤ second && second ≤ 0x9f
  else if first = 0xf0 then 0x90 ≤ second && second ≤ 0xbf
  else if first = 0xf4 then 0x80 ≤ second && second ≤ 0x8f
  else isTail second

private def low (b : UInt8) : Nat := b.toNat % 64

/-- The first piece of a text that begins with a byte, and the number of bytes it takes. -/
def first (b : UInt8) (rest : List UInt8) : Piece × Nat :=
  if b < 0x80 then (.char (Char.ofNat b.toNat), 1)
  else if 0xc2 ≤ b && b ≤ 0xdf then
    match rest with
    | b₂ :: _ => if isTail b₂ then (.char (Char.ofNat ((b.toNat - 0xc0) * 64 + low b₂)), 2) else (.stray 1, 1)
    | [] => (.stray 1, 1)
  else if 0xe0 ≤ b && b ≤ 0xef then
    match rest with
    | b₂ :: b₃ :: _ =>
      if !fitsSecond b b₂ then (.stray 1, 1)
      else if !isTail b₃ then (.stray 2, 2)
      else (.char (Char.ofNat ((b.toNat - 0xe0) * 4096 + low b₂ * 64 + low b₃)), 3)
    | [b₂] => if fitsSecond b b₂ then (.stray 2, 2) else (.stray 1, 1)
    | [] => (.stray 1, 1)
  else if 0xf0 ≤ b && b ≤ 0xf4 then
    match rest with
    | b₂ :: b₃ :: b₄ :: _ =>
      if !fitsSecond b b₂ then (.stray 1, 1)
      else if !isTail b₃ then (.stray 2, 2)
      else if !isTail b₄ then (.stray 3, 3)
      else (.char (Char.ofNat ((b.toNat - 0xf0) * 262144 + low b₂ * 4096 + low b₃ * 64 + low b₄)), 4)
    | [b₂, b₃] =>
      if !fitsSecond b b₂ then (.stray 1, 1) else if !isTail b₃ then (.stray 2, 2) else (.stray 3, 3)
    | [b₂] => if fitsSecond b b₂ then (.stray 2, 2) else (.stray 1, 1)
    | [] => (.stray 1, 1)
  else (.stray 1, 1)

/-- The pieces of some bytes, behind those found so far, of which the last comes first. Of the bytes the first `skip` belong to a
piece that was found. -/
def collect : List Piece → Nat → List UInt8 → List Piece
  | found, _, [] => found.reverse
  | found, skip + 1, _ :: rest => collect found skip rest
  | found, 0, b :: rest =>
    let (p, n) := first b rest
    collect (p :: found) (n - 1) rest

def pieces (bytes : List UInt8) : List Piece := collect [] 0 bytes

def decode? (bytes : List UInt8) : Option (List Char) := (pieces bytes).mapM fun
  | .char c => some c
  | .stray _ => none

/-- The text of some bytes, with a replacement character for each piece that is none. -/
def lossy (bytes : List UInt8) : List Char := (pieces bytes).map fun
  | .char c => c
  | .stray _ => '\ufffd'

/-- The places of some bytes: a character, or `none` for each byte that is no part of one. -/
def places (bytes : List UInt8) : List (Option Char) := (pieces bytes).flatMap fun
  | .char c => [some c]
  | .stray n => List.replicate n none

end Utf8

end Campus.Text
