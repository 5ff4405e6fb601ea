import Campus.Url.Host

/-! # Socket addresses

The number of a host and a port, as a process is told where to listen.
-/
namespace Campus

structure SocketAddress where
  host : Host
  /-- The network that a number of version six is meant in; zero leaves it open. -/
  scope : Nat
  port : Nat
  deriving DecidableEq, Repr

namespace SocketAddress

def port? (ds : List Char) : Option Nat :=
  if ds ≠ [] ∧ ds.all Char.isDigit ∧ Text.digitsValue ds < 65536 then some (Text.digitsValue ds) else none

/-- Reads the scope behind a number of version six: nothing, or a percent sign and a number of 32 bits. -/
def scope? : List Char → Option Nat
  | [] => some 0
  | '%' :: ds =>
    if ds ≠ [] ∧ ds.all Char.isDigit ∧ Text.digitsValue ds < UInt32.size then some (Text.digitsValue ds) else none
  | _ => none

/-- Reads a number of either version, the sixth in brackets with its scope, and a port behind a colon. -/
def parse? (s : String) : Option SocketAddress :=
  match s.toList with
  | '[' :: cs => do
    let (number, rest) := cs.span (· ≠ ']')
    let (pieces, scope) := number.span (· ≠ '%')
    let pieces ← V6.parse? pieces
    match rest with
    | ']' :: ':' :: ds => return ⟨.v6 pieces, ← scope? scope, ← port? ds⟩
    | _ => none
  | cs => do
    let (number, rest) := cs.span (· ≠ ':')
    let octets ← V4.octets? number
    return ⟨.v4 (octets.foldl (256 * · + ·) 0), 0, ← port? (rest.drop 1)⟩

/-- The text of a number of version six; a shorter address within a longer one is in plain form. -/
def longChars : List Nat → List Char
  | [0, 0, 0, 0, 0, 0xffff, a, b] => "::ffff:".toList ++ V4.chars (65536 * a + b)
  | pieces => V6.chars pieces

/-- The text of a host, with its scope unless that is left open. -/
def hostChars (scope : Nat) : Host → List Char
  | .v6 pieces => '[' :: longChars pieces ++ (if scope = 0 then [] else '%' :: Text.digits scope) ++ [']']
  | host => host.chars

def text (a : SocketAddress) : String := String.ofList (hostChars a.scope a.host ++ ':' :: Text.digits a.port)

example : (parse? "127.0.0.1:0").map text = some "127.0.0.1:0" := by decide +kernel

example : (parse? "[fe80::1%03]:80").map text = some "[fe80::1%3]:80" := by decide +kernel

example : parse? "127.0.0.1" = none ∧ parse? "127.0.0.01:1" = none := by decide +kernel

end SocketAddress

end Campus
