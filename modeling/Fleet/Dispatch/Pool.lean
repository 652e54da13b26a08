import Fleet.Command
import Fleet.Dispatch.Schedule

/-!
# Pools of tasks

A pool has a number of permits. Its tasks wait in line for one, hold it until they are over, and
give it back however they end. The clock stands still while anything can be done, and then goes to
the next timer. Times are whole milliseconds; a length that never ends is none.

A pool is a state and a partial step (`step?`): the first in line is admitted while a permit is
free, a holder whose task is over or out of time is settled, and only when neither can be done does
the clock move. `drain` takes steps until there is none, with fuel that is enough.

Handles of jobs are their places in the input. `ended` has them in the order of their ends, so
results are looked up by handle (`join?`). A task may end with a value, with an error of its own, or
by a panic; a panic gives its permit back like any other end.
-/

namespace Fleet.Dispatch

/-- How a task ends once its delay is over. -/
inductive Ending (α : Type) where
  | value (a : α)
  | failure (e : Failure)
  | crash
  deriving Repr

/-- A task of a batch; a task without delay length never ends by itself. -/
structure Task (α : Type) where
  context : String
  delay : Option Nat
  ending : Ending α
  deriving Repr

/-- What is handed to those who wait for a job: a result, or word of its crash. -/
inductive Joined (α : Type) where
  | returned (result : Except Failure α)
  | crashed
  deriving Repr

/-- A task that was started, and the number under which its end is waited for. -/
structure Job (α : Type) where
  handle : Nat
  task : Task α
  deriving Repr

/-- A job that got a permit at an instant. -/
structure Holder (α : Type) extends Job α where
  since : Nat
  deriving Repr

/-- A job that gave its permit back at an instant. -/
structure Ended (α : Type) extends Holder α where
  stop : Nat
  joined : Joined α
  deriving Repr

/-- Jobs in line, jobs with a permit and jobs that are over, the free permits and the clock. -/
structure Pool (α : Type) where
  now : Nat
  permits : Nat
  line : List (Job α)
  holders : List (Holder α)
  ended : List (Ended α)
  /-- All admissions so far, in the order in which they were made. -/
  log : List (Holder α)
  deriving Repr

variable {α : Type}

/-- A length of time that began at `since` is over. -/
def isOver (since : Nat) (length : Option Nat) (now : Nat) : Bool :=
  match length with
  | none => false
  | some l => decide (since + l ≤ now)

/-- What the end of a task hands out. -/
def Ending.joined : Ending α → Joined α
  | value a => .returned (.ok a)
  | failure e => .returned (.error e)
  | crash => .crashed

/-- What a job hands out if it is over. The task is looked at before its time limit. -/
def Holder.poll? (timeout : Option Nat) (now : Nat) (h : Holder α) : Option (Joined α) :=
  if isOver h.since h.task.delay now then some h.task.ending.joined
  else if isOver h.since timeout now then
    some (.returned (.error (.timeout h.task.context (Duration.ofMillis (timeout.getD 0)))))
  else none

/-- Instants at which the delay and the time limit of a job are over. -/
def Holder.timers (timeout : Option Nat) (h : Holder α) : List Nat :=
  (h.task.delay.toList ++ timeout.toList).map (h.since + ·)

/-- The first holder that is over, and the others. -/
def takeOver? (timeout : Option Nat) (now : Nat) :
    List (Holder α) → Option (Ended α × List (Holder α))
  | [] => none
  | h :: r =>
    match h.poll? timeout now with
    | some j => some (⟨h, now, j⟩, r)
    | none => (takeOver? timeout now r).map fun (e, rest) => (e, h :: rest)

namespace Pool

/-- The first in line gets a free permit, and the log says so. -/
def enter? (p : Pool α) : Option (Pool α) :=
  match p.permits, p.line with
  | n + 1, j :: r =>
    let h : Holder α := ⟨j, p.now⟩
    some { p with permits := n, line := r, holders := p.holders ++ [h], log := p.log ++ [h] }
  | _, _ => none

/-- A job that is over gives its permit back. -/
def settle? (timeout : Option Nat) (p : Pool α) : Option (Pool α) :=
  (takeOver? timeout p.now p.holders).map fun (e, rest) =>
    { p with permits := p.permits + 1, holders := rest, ended := p.ended ++ [e] }

/-- The clock goes to the next timer. -/
def wake? (timeout : Option Nat) (p : Pool α) : Option (Pool α) :=
  (p.holders.flatMap (·.timers timeout)).min?.map fun t => { p with now := t }

/-- The next thing that happens; none when nothing ever will. -/
def step? (timeout : Option Nat) (p : Pool α) : Option (Pool α) :=
  p.enter? <|> p.settle? timeout <|> p.wake? timeout

/-- The pool after a number of steps, or earlier if nothing happens any more. -/
def after (timeout : Option Nat) : Nat → Pool α → Pool α
  | 0, p => p
  | n + 1, p =>
    match p.step? timeout with
    | some q => q.after timeout n
    | none => p

/-- Steps that are enough for a pool: a job in line is admitted, waited for and settled. -/
def stepLimit (p : Pool α) : Nat := 3 * p.line.length + 2 * p.holders.length

/-- The pool once nothing happens any more. -/
def drain (timeout : Option Nat) (p : Pool α) : Pool α := p.after timeout p.stepLimit

/-- What a handle yields; none while its job is not over. -/
def join? (p : Pool α) (handle : Nat) : Option (Joined α) :=
  (p.ended.find? (·.handle = handle)).map (·.joined)

/-- When the job of a handle has its permit. -/
def span (p : Pool α) (handle : Nat) : Span :=
  match p.ended.find? (·.handle = handle), p.holders.find? (·.handle = handle) with
  | some e, _ => ⟨some e.since, some e.stop⟩
  | none, some h => ⟨some h.since, none⟩
  | none, none => ⟨none, none⟩

end Pool

end Fleet.Dispatch
