import Fleet.Supervisor.Signals
import Fleet.Supervisor.Tick

/-!
# Supervision over time

Probes follow one another with the delay of the last tick between them, until the connection is lost
or a signal ends the run. A probe that runs is not interrupted.

`run` is the supervision as it is used: it looks at the flag before every probe and waits after it
for the delay, a change of the flag, or the end of the sender. `series` is only the ticks, without
waits or signals, for those who call them themselves. Times are whole milliseconds, and a delay is
rounded up to one.
-/

namespace Fleet.Supervisor

/-- Results of probes in order, and the milliseconds each takes. -/
structure Probe where
  result : Nat → Bool
  length : Nat

/-- Probe with listed results and one for all later. -/
def Probe.ofList (results : List Bool) (fallback : Bool) (length : Nat) : Probe :=
  ⟨fun i => (results[i]?).getD fallback, length⟩

/-- How a run ends. -/
inductive Ending where
  | stopped
  | lost (failures budget : Nat)
  deriving Repr, DecidableEq

/-- Failure that a lost connection ends with. -/
def Ending.outcome : Ending → Except Failure Unit
  | stopped => .ok ()
  | lost failures budget => .error (.disconnected failures budget)

/-- A finished probe: when it started, when it ended, and what it made known. -/
structure Probed where
  start : Nat
  stop : Nat
  tick : Tick

/-- A run: its probes in order, and how and when it ended; no end if it goes on for ever. -/
structure Trace where
  probes : List Probed
  ending : Option (Ending × Nat)

/-- One more probe in front. -/
def Trace.after (p : Probed) (t : Trace) : Trace := { t with probes := p :: t.probes }

/-- Run from an instant, with the number of probes done and of settings seen; `fuel` bounds the
number of probes. -/
def runFrom (probe : Probe) (signals : Signals) : Nat → State → Nat → Nat → Nat → Trace
  | 0, _, _, _, _ => ⟨[], none⟩
  | fuel + 1, s, done, seen, now =>
    if signals.flag now then ⟨[], some (.stopped, now)⟩
    else
      let t := s.tick (probe.result done)
      let stop := now + probe.length
      let p : Probed := ⟨now, stop, t⟩
      match t.state.connectivity with
      | .lost failures => ⟨[p], some (.lost failures t.state.retry.budget, stop)⟩
      | _ =>
        match signals.wait stop (stop + t.delay.millisUp) seen with
        | .stop t => ⟨[p], some (.stopped, t)⟩
        | .resume next seen => (runFrom probe signals fuel t.state (done + 1) seen next).after p

/-- Run from the start of time. -/
def run (config : Config) (probe : Probe) (signals : Signals) (fuel : Nat) : Trace :=
  runFrom probe signals fuel (State.start config) 0 0 0

/-- Ticks one right after another, each with the start of its probe; a lost connection is not probed
any more. -/
def series (probe : Probe) : Nat → State → Nat → Nat → List (Tick × Option Nat)
  | 0, _, _, _ => []
  | n + 1, s, done, now =>
    if s.connectivity.isTerminal then (s.tick false, none) :: series probe n s done now
    else
      let t := s.tick (probe.result done)
      (t, some now) :: series probe n t.state (done + 1) (now + probe.length)

/-- State that a run leaves. -/
def Trace.final (config : Config) (t : Trace) : State :=
  match t.probes.getLast? with
  | none => State.start config
  | some p => p.tick.state

end Fleet.Supervisor
