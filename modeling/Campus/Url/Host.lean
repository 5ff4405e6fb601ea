import Campus.Text.Percent
import Campus.Url.Name
import Campus.Url.V4
import Campus.Url.V6

/-! # Hosts

The host of an address: a domain name, or a number of the fourth or sixth version of the internet protocol.
-/
namespace Campus

inductive Host where
  | domain (name : String)
  | v4 (address : Nat)
  /-- Eight pieces of 16 bits. -/
  | v6 (pieces : List Nat)
  deriving DecidableEq, Repr

/-- Why a text is not the address of anything. -/
inductive UrlFault where
  | relative
  | emptyHost
  | invalidPort
  | invalidV4
  | invalidV6
  | invalidDomain
  | invalidCharacter
  deriving DecidableEq, Repr

def UrlFault.message : UrlFault → String
  | relative => "relative URL without a base"
  | emptyHost => "empty host"
  | invalidPort => "invalid port number"
  | invalidV4 => "invalid IPv4 address"
  | invalidV6 => "invalid IPv6 address"
  | invalidDomain => "invalid international domain name"
  | invalidCharacter => "invalid domain character"

namespace Host

def number {α : Type} (make : α → Host) (read : Option α) (fault : UrlFault) : Except UrlFault Host :=
  match read with
  | some a => .ok (make a)
  | none => .error fault

/-- Reads a name or a number. Triples are taken back to their bytes, and a name is brought into ASCII form. -/
def parse (cs : List Char) : Except UrlFault Host :=
  match cs with
  | '[' :: rest => if rest.getLast? = some ']' then number .v6 (V6.parse? rest.dropLast) .invalidV6 else .error .invalidV6
  | _ =>
    match (Text.Utf8.decode? (Text.Percent.decode cs)).bind Name.ascii? with
    | none => .error .invalidDomain
    | some [] => .error .emptyHost
    | some name =>
      if V4.endsInNumber name then number .v4 (V4.parse? name) .invalidV4 else .ok (.domain (String.ofList name))

def chars : Host → List Char
  | .domain name => name.toList
  | .v4 address => V4.chars address
  | .v6 pieces => '[' :: V6.chars pieces ++ [']']

end Host

end Campus
