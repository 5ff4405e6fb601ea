import Campus.Proofs.FanOut.Resolve

/-! # The bound of a fan-out

While a job goes on no more fetches run at once than its bound allows. The ids whose fetch has started are the first ones of the
list, and a permit is free only once all of them have started: whatever a fetch comes to, its permit goes to the next.
-/
namespace Campus.FanOut

namespace Timetable

variable {T : Timetable}

end Timetable

/-! ## What a log says of an instant -/

namespace Log

end Log

namespace Follows

variable {T : Timetable} {units : List Waiting} {t t' : Instant} {running : List (Running Nat)} {k m : Nat} {log : Log}
  (h : Follows T units t running k log) (hc : 0 < T.capacity)
  (hbusy : k < units.length → running.length = T.capacity) (hdue : ∀ u ∈ running, t < u.due)
  (hindex : ∀ {k : Nat} {u : Waiting}, units[k]? = some u → u.index = k)

include h hc hbusy hdue hindex

end Follows

/-! ## Every instant of a job -/

variable {ε : Type} (plan : Nat → Script ε) (caller : Context) (seed : String) (ids : List String) (bound : Nat) (now : Instant)
  (ts : Tokens)

end Campus.FanOut
