import Fleet.Dispatch.Run
import Fleet.Watch.Gate

/-!
# Refresh passes on a beat

A loop waits at once for an interruption, for the end of a supervisor, for the end of the pass in
flight and, while none is in flight, for the next beat. A beat on which the gate is live starts a
pass. Beats fall on multiples of the interval. While a pass is in flight no beat is taken; a beat
missed that way is taken when the pass ends. One taken more than the slack late is followed by the
next multiple still ahead.
-/

namespace Fleet.Watch

/-- Milliseconds a beat may be late and still be followed by the next one. -/
def slack : Nat := 5

/-- Instant of the beat after one that was due at `due` and taken at `now`. -/
def nextBeat (interval due now : Nat) : Nat :=
  if due + slack < now then now + interval - (now - due) % interval else due + interval

/-- A pass: its start, and its end if it has one. -/
structure Pass where
  start : Nat
  stop : Option Nat
  deriving Repr, DecidableEq

/-- What a loop waits for. -/
structure Sources where
  interval : Nat
  gate : Flips
  /-- Length of a pass by its number and its start; none if it never ends. -/
  length : Nat → Nat → Option Nat
  shutdown : Option Nat
  /-- When the task of the supervisor is over, and what it leaves. -/
  supervisor : Option (Nat × Dispatch.Joined Unit)
  interval_pos : 0 < interval

/-- The pass of a number that starts at an instant. -/
def Sources.pass (s : Sources) (i now : Nat) : Pass := ⟨now, (s.length i now).map (now + ·)⟩

/-- Instants at which the loop is to return. -/
def Sources.ends (s : Sources) : List Nat := s.shutdown.toList ++ s.supervisor.toList.map (·.1)

/-- Why the loop ends. -/
inductive Exit where
  | interrupted
  | supervisor (outcome : Except Failure Unit)
  deriving Repr

/-- A finished loop. -/
structure Driven where
  exit : Exit
  elapsed : Nat
  passes : List Pass
  live : Bool
  deriving Repr

/-- The clock, the deadline of the next beat, the pass in flight with the instant at which it will
be over, and the passes that are over. -/
structure Loop where
  now : Nat
  due : Nat
  inFlight : Option Pass
  finished : List Pass
  deriving Repr

namespace Loop

/-- The loop at first; a beat is due at once. -/
def start : Loop := ⟨0, 0, none, []⟩

/-- All passes so far; the one in flight has no end yet. -/
def passes (l : Loop) : List Pass :=
  l.finished ++ (l.inFlight.map fun p => { p with stop := none }).toList

/-- The pass in flight is over. -/
def finish? (l : Loop) : Option Loop :=
  match l.inFlight with
  | some ⟨start, some stop⟩ =>
    if stop ≤ l.now then some { l with inFlight := none, finished := l.finished ++
      [⟨start, some l.now⟩] }
    else none
  | _ => none

/-- The loop returns. -/
def exit? (s : Sources) (l : Loop) : Option Exit :=
  if s.shutdown.any (· ≤ l.now) then some .interrupted
  else match s.supervisor with
    | some (t, joined) => if t ≤ l.now then some (.supervisor (joined.outcome "")) else none
    | none => none

/-- A beat is taken. -/
def beat? (s : Sources) (l : Loop) : Option Loop :=
  match l.inFlight with
  | some _ => none
  | none =>
    if l.due ≤ l.now then
      some { l with
        due := nextBeat s.interval l.due l.now
        inFlight := if s.gate.live l.now then some (s.pass l.finished.length l.now) else none }
    else none

/-- Instants at which the loop has something to do. -/
def alarms (s : Sources) (l : Loop) : List Nat :=
  s.ends ++ match l.inFlight with
    | some p => p.stop.toList
    | none => [l.due]

/-- The clock goes to the next alarm. -/
def wake? (s : Sources) (l : Loop) : Option Loop :=
  (l.alarms s).min?.map fun t => { l with now := t }

/-- The loop when it returns. -/
def driven (s : Sources) (l : Loop) (exit : Exit) : Driven :=
  ⟨exit, l.now, l.passes, s.gate.live l.now⟩

/-- What the loop comes to within so many turns. The end of a pass is looked at first and beats
last. -/
def run? (s : Sources) : Nat → Loop → Option Driven
  | 0, _ => none
  | n + 1, l =>
    match l.finish? with
    | some l => l.run? s n
    | none =>
      match l.exit? s with
      | some exit => some (l.driven s exit)
      | none =>
        match l.beat? s <|> l.wake? s with
        | some l => l.run? s n
        | none => none

end Loop

/-- Turns that are enough until an instant: it is woken, takes a beat and ends a pass at most once
for each millisecond. -/
def turnLimit (t : Nat) : Nat := 3 * t + 4

/-- The loop, from time zero until it returns; none if it never does. -/
def drive (s : Sources) : Option Driven :=
  s.ends.min?.bind fun t => Loop.start.run? s (turnLimit t)

end Fleet.Watch
