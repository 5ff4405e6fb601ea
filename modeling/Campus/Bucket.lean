import Campus.Clock

/-! # Token buckets

A bucket starts full and refills continuously up to its burst. A call takes one token without waiting, or is refused. The
amount of tokens is a double when a service runs, and a rational number where amounts are to be exact.
-/
namespace Campus

class TokenAmount (R : Type) extends Add R, Sub R, Mul R, LE R where
  decLe : DecidableLE R
  ofNat : Nat → R
  /-- A span in seconds. -/
  seconds : Span → R
  /-- The whole tokens in an amount. -/
  whole : R → UInt32

attribute [reducible, instance] TokenAmount.decLe

instance : TokenAmount Float where
  decLe := inferInstance
  ofNat := Float.ofNat
  seconds := Span.seconds
  whole x := x.floor.toUInt32

instance : TokenAmount Rat where
  decLe := inferInstance
  ofNat n := n
  seconds s := (s : Rat) / 1000000000
  whole x := UInt32.ofNat x.floor.toNat

/-- A continuously refilled token bucket. -/
structure Bucket (R : Type) where
  /-- Tokens added per second. -/
  rate : R
  /-- The most tokens it holds. -/
  burst : UInt32
  tokens : R
  /-- The instant of the last refill. -/
  refilledAt : Instant

namespace Bucket

open TokenAmount

variable {R : Type} [TokenAmount R]

/-- A full bucket. A rate that is not at least zero counts as zero. -/
def full (rate : R) (burst : UInt32) (now : Instant) : Bucket R :=
  { rate := if ofNat 0 ≤ rate then rate else ofNat 0
    burst
    tokens := ofNat burst.toNat
    refilledAt := now }

/-- The bucket with the tokens of the time since the last refill, capped at the burst. -/
def refill (b : Bucket R) (now : Instant) : Bucket R :=
  let tokens := b.tokens + seconds (now - b.refilledAt) * b.rate
  { b with
    tokens := if tokens ≤ ofNat b.burst.toNat then tokens else ofNat b.burst.toNat
    refilledAt := now }

def take (b : Bucket R) (now : Instant) : Bool × Bucket R :=
  let b := b.refill now
  if ofNat 1 ≤ b.tokens then (true, { b with tokens := b.tokens - ofNat 1 }) else (false, b)

/-- The whole tokens in the bucket. Reading refills it. -/
def available (b : Bucket R) (now : Instant) : UInt32 × Bucket R :=
  let b := b.refill now
  (whole b.tokens, b)

/-- Takes `n` tokens one by one: how many were there, and whether the last was. -/
def takeMany (b : Bucket R) (now : Instant) : Nat → (Nat × Bool) × Bucket R
  | 0 => ((0, false), b)
  | n + 1 =>
    let ((taken, _), b) := b.takeMany now n
    let (ok, b) := b.take now
    ((taken + if ok then 1 else 0, ok), b)

end Bucket

end Campus
