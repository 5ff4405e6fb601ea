import Campus.Fault
import Campus.Text.Utf8
import Campus.Wire

/-! # Requests and answers

What a service gets over HTTP, and what it gives back. The body of an answer that reports a fault is an envelope with the text
of the fault, under the status of its kind.
-/
namespace Campus.Http

structure Request where
  method : String
  /-- What is asked for, as it was sent: a path and a query, or these behind a scheme and a host. -/
  target : List Char
  requestId : Option String
  contentType : Option String
  body : List UInt8

structure Answer where
  status : Nat
  contentType : Option String
  /-- The methods that would have been served, where the method of the request was not. -/
  allow : Option String
  body : List Char
  deriving DecidableEq, Repr

def jsonType : String := "application/json"

def isHeaderValue (s : String) : Bool := s.toList.all fun c => c = '\t' || (0x20 ≤ c.toNat && c.toNat ≠ 0x7f)

def isPlainValue (s : String) : Bool := s.toList.all fun c => c = '\t' || (0x20 ≤ c.toNat && c.toNat < 0x7f)

namespace Answer

def bare (status : Nat) : Answer := ⟨status, none, none, []⟩

def json (status : Nat) (body : List Char) : Answer := ⟨status, some jsonType, none, body⟩

def plain (status : Nat) (text : String) : Answer := ⟨status, some "text/plain; charset=utf-8", none, text.toList⟩

def ofFault (f : Fault) : Answer := json f.kind.status (Wire.write (ErrorEnvelope.mk f.message))

def bytes (a : Answer) : List UInt8 := Text.utf8Bytes a.body

def headOnly (a : Answer) : Answer := { a with body := [] }

end Answer

end Campus.Http
