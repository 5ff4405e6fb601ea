/-! # Time

Instants and spans are whole nanoseconds; an instant counts from the start of a run. Nothing reads a clock: whatever depends
on the time is given the instant.
-/
namespace Campus

/-- Nanoseconds since the start of a run. -/
abbrev Instant := Nat

abbrev Span := Nat

namespace Span

def ofMillis (n : Nat) : Span := n * 1000000

def ofSeconds (n : Nat) : Span := n * 1000000000

def toMillis (s : Span) : Nat := s / 1000000

/-- A span in seconds: whole seconds plus the fraction, each a double. -/
def seconds (s : Span) : Float := Float.ofNat (s / 1000000000) + Float.ofNat (s % 1000000000) / 1000000000.0

end Span

end Campus
