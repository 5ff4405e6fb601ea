import Campus.Cancellation
import Campus.Config

/-! # Intake

Calls that come in are numbered from one, and each gets a context with the configured time ahead of it.
-/
namespace Campus

/-- The number of the next call. -/
structure Intake where
  next : UInt64
  deriving DecidableEq, Repr

namespace Intake

def fresh : Intake := ⟨1⟩

def openCall (i : Intake) (config : ServerConfig) (now : Instant) (method : String) (requestId : Option String) :
    Context × Intake :=
  (Context.opened i.next config.service.name method now config.operationTimeout requestId, ⟨i.next + 1⟩)

end Intake

end Campus
