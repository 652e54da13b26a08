import Fleet.Double.Arithmetic

/-!
# Durations

A duration is a whole number of nanoseconds. Doubles of seconds are turned into durations by
rounding to the nearest nanosecond, ties to even.

Durations are added and compared in nanoseconds. `ofSeconds?` refuses seconds that are negative, no
number, or too many for 64 bits; `ofSeconds` takes no time at all in their place. Rounded up to
milliseconds a duration is what a timer waits.
-/

namespace Fleet

/-- A length of time in whole nanoseconds. -/
structure Duration where
  nanos : Nat
  deriving Repr, DecidableEq, Inhabited

namespace Duration

/-- Nanoseconds in a second. -/
def perSecond : Nat := 1000000000

/-- Whole milliseconds. -/
def ofMillis (ms : Nat) : Duration := ⟨ms * 1000000⟩

/-- Whole seconds. -/
def ofSecs (s : Nat) : Duration := ⟨s * perSecond⟩

/-- Milliseconds, rounded down. -/
def millis (d : Duration) : Nat := d.nanos / 1000000

/-- Milliseconds, rounded up. -/
def millisUp (d : Duration) : Nat := (d.nanos + 999999) / 1000000

/-- Whole seconds. -/
def secs (d : Duration) : Nat := d.nanos / perSecond

/-- Nanoseconds beyond the whole seconds. -/
def subsecNanos (d : Duration) : Nat := d.nanos % perSecond

/-- The longer of two. -/
def max (a b : Duration) : Duration := if a.nanos < b.nanos then b else a

/-- Seconds as a fraction: the whole seconds and the rest are converted apart and added. -/
def seconds (α : Type) [NatCast α] [Add α] [Div α] (d : Duration) : α :=
  (d.secs : α) + (d.subsecNanos : α) / (perSecond : α)

/-- A magnitude of seconds rounded to the nearest nanosecond. -/
def ofMagnitude (m : Double.Magnitude) : Duration :=
  let (n, d) := Double.scaleTwo (m.mantissa * perSecond) 1 m.exponent
  ⟨roundRatio n d⟩

/-- Seconds that are too many for a duration. -/
def limitSecs : Nat := Nat.pow 2 64

/-- Nearest duration of a double of seconds; none for one that is no length of time or too long. -/
def ofSeconds? : Double → Option Duration
  | .finite negative m =>
    if negative ∧ m.mantissa ≠ 0 then none
    else if (ofMagnitude m).secs < limitSecs then some (ofMagnitude m)
    else none
  | _ => none

/-- Nearest duration of a double of seconds, or no time at all. -/
def ofSeconds (x : Double) : Duration := (ofSeconds? x).getD ⟨0⟩

end Duration

end Fleet
