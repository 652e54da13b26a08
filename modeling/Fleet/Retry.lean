import Fleet.Duration

/-!
# Retry budget

A counter of failures in a row with a delay that grows by a factor up to a ceiling. The delay passes
through doubles of seconds.

A failure multiplies the delay of the last one, in doubles, and takes the lesser of that and the
ceiling (`nextSeconds`); what is no duration gives no delay at all. A factor that is no number, or
below one, is replaced by one at the start. The counter of failures stops at the greatest number of
32 bits.
-/

namespace Fleet

/-- Connection to the supervised cluster. -/
inductive Connectivity where
  | healthy
  | degraded (failures : Nat)
  | lost (failures : Nat)
  deriving Repr, DecidableEq, Inhabited

/-- No later state follows. -/
def Connectivity.isTerminal : Connectivity → Bool
  | lost _ => true
  | _ => false

/-- Failures in a row and the delay before the next probe. -/
structure Retry where
  failures : Nat
  delay : Duration
  base : Duration
  ceiling : Duration
  budget : Nat
  factor : Double
  deriving Repr

namespace Retry

/-- The factor, or one when it is below one or no number. -/
def clampFactor (f : Double) : Double := if Double.one < f then f else Double.one

/-- Fresh budget; the ceiling is never below the base. -/
def new (base ceiling : Duration) (factor : Double) (budget : Nat) : Retry :=
  { failures := 0, delay := base, base, ceiling := ceiling.max base, budget,
    factor := clampFactor factor }

/-- Largest failure count. -/
def countLimit : Nat := 4294967295

/-- The smaller of two doubles; the second when the first is no number. -/
def lesser (a b : Double) : Double := if a < b then a else b

/-- Initial delay and no failures. -/
def reset (r : Retry) : Retry := { r with failures := 0, delay := r.base }

/-- Seconds of the delay after one more failure. -/
def nextSeconds (r : Retry) : Double :=
  lesser (r.delay.seconds Double * r.factor) (r.ceiling.seconds Double)

/-- Delay after one more failure. -/
def nextDelay (r : Retry) : Duration := Duration.ofSeconds r.nextSeconds

/-- One more failure. -/
def recordFailure (r : Retry) : Retry :=
  { r with failures := min (r.failures + 1) countLimit, delay := r.nextDelay }

/-- The budget is spent. -/
def isExhausted (r : Retry) : Bool := decide (r.budget ≤ r.failures)

end Retry

end Fleet
