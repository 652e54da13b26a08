/-!
# Schedules

When each task of a batch holds one of the slots. Times are whole milliseconds.

A span has the instant at which a task was admitted and the one at which it was over, each of which
may be missing. A span that has begun and has no end holds its slot for ever.
-/

namespace Fleet.Dispatch

/-- When a task holds its slot: no start if it is never admitted, no end if it never gives the slot
back. -/
structure Span where
  start : Option Nat
  stop : Option Nat
  deriving Repr, DecidableEq, Inhabited

/-- The task still holds its slot when a later one starts at `t`. -/
def Span.holdsAt (s : Span) (t : Nat) : Bool :=
  match s.start, s.stop with
  | none, _ => false
  | some a, none => decide (a ≤ t)
  | some a, some b => decide (a ≤ t ∧ t < b)

end Fleet.Dispatch
