import Fleet.Duration

/-!
# Token bucket

A bucket holds tokens up to a burst size and gains a number of them per second. Taking one either
succeeds or tells how long to wait. The arithmetic is that of any numbers, of doubles where
it runs.

`take` refills a bucket first, by the time since the last attempt, and so changes it also where no
token is there. The wait that it tells is the time in which the missing part of a token is gained.
`acquireBy` goes on trying, each time when a sleep ends; how the end of a sleep is rounded is left
open (`wake`), and a clock of milliseconds rounds it up.
-/

namespace Fleet.Limiter

variable {α : Type} [NatCast α] [Add α] [Sub α] [Mul α] [Div α] [LT α] [DecidableLT α]

/-- Tokens at the instant of the last attempt. -/
structure Bucket (α : Type) where
  tokens : α
  last : Duration
  rate : α
  capacity : α
  deriving Repr

/-- A full bucket; rate and capacity are at least one. -/
def Bucket.new (qps burst : Nat) (now : Duration) : Bucket α :=
  let capacity : α := (Nat.max burst 1 : Nat)
  { tokens := capacity, last := now, rate := (Nat.max qps 1 : Nat), capacity }

/-- The smaller of two numbers. -/
def lesser (a b : α) : α := if b < a then b else a

/-- Tokens after the time since the last attempt. -/
def Bucket.refill (b : Bucket α) (now : Duration) : Bucket α :=
  let elapsed := (Duration.mk (now.nanos - b.last.nanos)).seconds α
  { b with tokens := lesser (b.tokens + elapsed * b.rate) b.capacity, last := now }

/-- A token taken, or the seconds to wait for one. -/
def Bucket.take (b : Bucket α) (now : Duration) : Option α × Bucket α :=
  let b := b.refill now
  let one : α := (1 : Nat)
  if b.tokens < one then (some ((one - b.tokens) / b.rate), b)
  else (none, { b with tokens := b.tokens - one })

/-- Attempts until a token is taken, and the instant of success; `fuel` bounds the attempts. A
failed attempt is followed by a sleep, and by another attempt at the instant at which `wake` ends
the sleep. -/
def Bucket.acquireBy (wake : Duration → α → Duration) (b : Bucket α) :
    Nat → Duration → Duration × Bucket α
  | 0, now => (now, b)
  | fuel + 1, now =>
    match b.take now with
    | (none, b) => (now, b)
    | (some wait, b) => b.acquireBy wake fuel (wake now wait)

/-- The end of a sleep on a clock of milliseconds, at least one of them later. -/
def wakeUp (now : Duration) (wait : Double) : Duration :=
  .ofMillis (now.millis + Nat.max (Duration.ofSeconds wait).millisUp 1)

/-- Attempts on a clock of milliseconds, and the millisecond of success. -/
def Bucket.acquire (b : Bucket Double) (fuel now : Nat) : Nat × Bucket Double :=
  let (success, b) := b.acquireBy wakeUp fuel (.ofMillis now)
  (success.millis, b)

end Fleet.Limiter
