import Fleet.Dispatch.Pool

/-!
# Batches of tasks

A batch runs one task per context on a bounded number of slots. Every task gives one slot of the
result, in input order; a task that is slower than the time limit is cut off.

`Limits.new` reads a bound of zero as the default. There are never more permits than tasks, and
always one. The outcome of a slot is that of its task alone (`Task.outcome`): what it comes to in
time, a failure that names the time limit, or one that names the panic.
-/

namespace Fleet.Dispatch

variable {α : Type}

/-- Bounds of a batch: at least one slot, and the time each task has once admitted. -/
structure Limits where
  maxParallel : Nat
  timeout : Option Nat
  maxParallel_pos : 0 < maxParallel
  deriving Repr, DecidableEq

/-- Slots used when no bound is given. -/
def defaultParallel : Nat := 10

/-- Limits from a bound, zero standing for the default. -/
def Limits.new (maxParallel : Nat) (timeout : Option Nat) : Limits :=
  { maxParallel := if maxParallel = 0 then defaultParallel else maxParallel
    timeout
    maxParallel_pos := by
      split
      · decide
      · exact Nat.pos_of_ne_zero ‹_› }

/-- Permits of a batch: more than tasks are of no use. -/
def Limits.permits (limits : Limits) (size : Nat) : Nat := min limits.maxParallel (max size 1)

/-- How long a task holds its slot. -/
def holdTime (timeout delay : Option Nat) : Option Nat :=
  match timeout, delay with
  | none, d => d
  | some t, none => some t
  | some t, some d => some (min t d)

/-- The task is cut off by the time limit; one that needs exactly the limit is not. -/
def isCutOff (timeout delay : Option Nat) : Bool :=
  match timeout, delay with
  | none, _ => false
  | some _, none => true
  | some t, some d => decide (t < d)

/-- Outcome of a job that a context waited for. -/
def Joined.outcome (context : String) : Joined α → Except Failure α
  | returned r => r
  | crashed => .error (.aborted context "task panicked")

/-- Outcome of a task, on its own. -/
def Task.outcome (timeout : Option Nat) (t : Task α) : Except Failure α :=
  if isCutOff timeout t.delay then
    .error (.timeout t.context (Duration.ofMillis (timeout.getD 0)))
  else t.ending.joined.outcome t.context

/-- A batch: a slot per task, when each task ran, and the instant at which all are over. One that
never is over has no slots. -/
structure Batch (α : Type) where
  slots : List (Slot α)
  spans : List Span
  elapsed : Option Nat
  /-- The jobs that got a permit, in the order in which they did. -/
  admitted : List (Job α)
  deriving Repr

/-- All tasks started at once, in order, none of them with a permit. -/
def start (limits : Limits) (tasks : List (Task α)) : Pool α :=
  { now := 0, permits := limits.permits tasks.length, line := tasks.mapIdx Job.mk, holders := []
    ended := [], log := [] }

/-- The batch that a pool leaves: every context with what the handle of its task yields. -/
def Pool.batch (tasks : List (Task α)) (p : Pool α) : Batch α :=
  let handles := List.range tasks.length
  let spans := handles.map p.span
  let admitted := p.log.map (·.toJob)
  match handles.mapM p.join? with
  | none => ⟨[], spans, none, admitted⟩
  | some joined =>
    let slots := ((tasks.map (·.context)).zip joined).map fun (c, j) => (⟨c, j.outcome c⟩ : Slot α)
    ⟨slots, spans, some p.now, admitted⟩

/-- All tasks on as many slots as the limits and their number allow. -/
def run (limits : Limits) (tasks : List (Task α)) : Batch α :=
  ((start limits tasks).drain limits.timeout).batch tasks

end Fleet.Dispatch
