/-!
# Shutdown signals

A channel that holds a flag. The flag is set at given instants, and the sender may go away. A reader
sees the latest flag, and learns once of all settings it has not seen.

A wait looks at what was missed first: a setting that came during a probe ends the next wait at
once, and counts by the value of the flag at that time. Otherwise it ends with the first event
before its deadline, or at the deadline.
-/

namespace Fleet.Supervisor

/-- One event of the channel. -/
inductive Signal where
  | send (stop : Bool)
  | hangUp
  deriving Repr, DecidableEq

/-- Flag at first and later events with their instants, in order of time. -/
structure Signals where
  initial : Bool
  events : List (Nat × Signal)
  deriving Repr, DecidableEq

namespace Signals

/-- Events up to an instant. -/
def upTo (s : Signals) (t : Nat) : List Signal :=
  (s.events.filter (·.1 ≤ t)).map (·.2)

/-- The flag at an instant. -/
def flag (s : Signals) (t : Nat) : Bool :=
  (s.upTo t).foldl (fun acc e => match e with
    | .send v => v
    | .hangUp => acc) s.initial

/-- Number of settings up to an instant. -/
def sent (s : Signals) (t : Nat) : Nat :=
  ((s.upTo t).filter fun e => match e with
    | .send _ => true
    | .hangUp => false).length

/-- The sender is gone at an instant. -/
def isClosed (s : Signals) (t : Nat) : Bool := (s.upTo t).contains .hangUp

/-- The first event after an instant. -/
def next? (s : Signals) (t : Nat) : Option (Nat × Signal) := s.events.find? (t < ·.1)

end Signals

/-- How a wait ends: the reader stops, or it goes on at an instant having seen so many settings. -/
inductive Waited where
  | stop (at_ : Nat)
  | resume (at_ : Nat) (seen : Nat)
  deriving Repr, DecidableEq

/-- A wait from `now` until `deadline` of a reader that has seen `seen` settings. A setting it has
not seen ends the wait at once. -/
def Signals.wait (s : Signals) (now deadline seen : Nat) : Waited :=
  if seen < s.sent now then
    if s.flag now then .stop now else .resume now (s.sent now)
  else if s.isClosed now then .stop now
  else match s.next? now with
    | none => .resume deadline seen
    | some (t, e) =>
      if t < deadline then
        match e with
        | .send true => .stop t
        | .send false => .resume t (seen + 1)
        | .hangUp => .stop t
      else .resume deadline seen

end Fleet.Supervisor
