import Campus.Clock

/-! # Cancellation and call contexts

Tokens form a tree. Cancelling a token cancels it and everything below it, and a token made below a cancelled one starts
cancelled. A context names a call, carries its deadline and holds a token.
-/
namespace Campus

abbrev Token := Nat

/-- One token of a tree: the token above it, and whether it is cancelled. -/
structure TokenNode where
  parent : Option Token
  cancelled : Bool
  deriving DecidableEq, Repr

/-- A tree of tokens. A token stands behind the one it was made from. -/
structure Tokens where
  nodes : Array TokenNode
  deriving DecidableEq, Repr

namespace Tokens

def root : Token := 0

/-- A tree with nothing but a root that is not cancelled. -/
def fresh : Tokens := ⟨#[⟨none, false⟩]⟩

def isCancelled (ts : Tokens) (t : Token) : Bool := (ts.nodes[t]?.map TokenNode.cancelled).getD false

def child (ts : Tokens) (t : Token) : Tokens × Token :=
  (⟨ts.nodes.push ⟨some t, ts.isCancelled t⟩⟩, ts.nodes.size)

def markNode (t : Token) (marked : Array TokenNode) (node : TokenNode) : TokenNode :=
  let above := match node.parent with
    | some p => (marked[p]?.map TokenNode.cancelled).getD false
    | none => false
  { node with cancelled := node.cancelled || marked.size = t || above }

/-- Cancels `t` and everything below it, in one pass from the root outward. -/
def cancel (ts : Tokens) (t : Token) : Tokens :=
  ⟨ts.nodes.foldl (fun marked node => marked.push (markNode t marked node)) #[]⟩

end Tokens

/-- What every part of a call knows: which call it is, until when it may run, and the token that stops it. -/
structure Context where
  callId : UInt64
  service : String
  method : String
  deadline : Instant
  token : Token
  requestId : Option String
  deriving DecidableEq, Repr

namespace Context

/-- A context whose deadline lies `timeout` ahead, at the root of a tree of tokens. -/
def opened (callId : UInt64) (service method : String) (now : Instant) (timeout : Span) (requestId : Option String) :
    Context :=
  ⟨callId, service, method, now + timeout, Tokens.root, requestId⟩

/-- The time left, zero once the deadline has passed. -/
def remaining (c : Context) (now : Instant) : Span := c.deadline - now

def isExpired (c : Context) (now : Instant) : Bool := c.remaining now = 0

/-- A context that shares the deadline and holds a token below this one's. -/
def child (c : Context) (ts : Tokens) : Tokens × Context :=
  let (ts, t) := ts.child c.token
  (ts, { c with token := t })

/-- The same context under another method name, for a call that goes out. -/
def forMethod (c : Context) (method : String) : Context := { c with method }

end Context

end Campus
