import Fleet.Supervisor.Run

/-!
# The refresh gate

A gate is live or not. Pausing and resuming a gate that is already so changes nothing.

The gate is live at first. What flips it are notices of a supervisor: a failure pauses, and a
success after failures resumes.
-/

namespace Fleet.Watch

/-- A step of the gate. -/
inductive GateStep where
  | pause
  | resume
  deriving Repr, DecidableEq

/-- The gate after a step. -/
def GateStep.apply (_live : Bool) : GateStep → Bool
  | pause => false
  | resume => true

/-- The gate after a list of steps. -/
def gateAfter (live : Bool) (steps : List GateStep) : Bool := steps.foldl GateStep.apply live

/-- Flips of the gate with their instants, in order of time; the gate starts live. -/
structure Flips where
  events : List (Nat × Bool)
  deriving Repr, DecidableEq

/-- The gate at an instant. -/
def Flips.live (f : Flips) (t : Nat) : Bool :=
  (f.events.filter (·.1 ≤ t)).foldl (fun _ e => e.2) true

/-- Steps of the gate among notices. -/
def gateSteps (ns : List Supervisor.Notice) : List GateStep :=
  ns.filterMap fun n => match n with
    | .pause => some .pause
    | .resume => some .resume
    | _ => none

/-- Flips that a supervised run makes. -/
def Flips.ofProbes (probes : List Supervisor.Probed) : Flips :=
  ⟨probes.flatMap fun p => (gateSteps p.tick.notices).map fun s => (p.stop, s.apply true)⟩

end Fleet.Watch
