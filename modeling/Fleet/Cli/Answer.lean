import Fleet.Console.Message
import Fleet.Session
import Fleet.Time.Stamp

/-!
# Answers of commands

A command works on a session, says something, and ends well or fails, or it waits for something that
never comes. What it said before stays said.

`Answer` is a computation that may halt, over the progress made: the session as it is and the
messages so far. The progress is kept where it halts. `Halt` tells a failure from a wait that never
ends (`await`); the program prints a report for the former, and for the latter it only prints what
was said.

What a command sees of the world besides its session is a `Scene`: how it prints, the time, and what
happens outside while it runs.
-/

namespace Fleet.Cli

/-- What happens outside while a command runs: when the user interrupts it, and which selections
others store at which instants. A run without an end is followed as far as the horizon. -/
structure Outside where
  interrupt : Option Nat
  stored : List (Nat × List String)
  horizon : Nat
  deriving Repr

/-- Nothing happens outside. -/
def Outside.quiet : Outside := ⟨none, [], 0⟩

/-- Circumstances of a run: how messages are printed, what time it is, and what happens outside. -/
structure Scene where
  mode : Console.Mode
  now : Time.Stamp
  outside : Outside
  deriving Repr

/-- The session of a run and what was said so far. -/
structure Progress where
  session : Session
  messages : List Console.Message

/-- Why a command goes no further: it failed, or it waits for ever. -/
inductive Halt where
  | failed (e : Failure)
  | endless
  deriving Repr, DecidableEq

/-- A command or a part of one. -/
abbrev Answer := ExceptT Halt (StateM Progress)

namespace Answer

/-- The session as it is. -/
def session : Answer Session := do return (← get).session

/-- The session changed. -/
def setSession (s : Session) : Answer Unit := modify fun p => { p with session := s }

/-- The kept clients changed. -/
def setRegistry (r : Cluster.Registry) : Answer Unit := do
  setSession { ← session with registry := r }

/-- One more message. -/
def say (m : Console.Message) : Answer Unit :=
  modify fun p => { p with messages := p.messages ++ [m] }

/-- More messages. -/
def sayAll (ms : List Console.Message) : Answer Unit :=
  modify fun p => { p with messages := p.messages ++ ms }

/-- A result, or the end of the command. -/
def ofExcept {α : Type} : Except Failure α → Answer α
  | .ok a => pure a
  | .error e => throw (.failed e)

/-- The end of something that was begun, or of the command if that never ends. -/
def await : Option Nat → Answer Unit
  | some _ => pure ()
  | none => throw .endless

/-- A result for programs: the name of the command and some fields. -/
def sayResult (command : String) (fields : List (String × Json)) : Answer Unit :=
  say (.value (.object (("command", .str command) :: fields)))

/-- A warning if there is no context to work on. -/
def warnNoContext : Answer Unit := say (.warning "No contexts selected and no active context")

/-- Outcome of a command on a session. -/
def runOn (a : Answer Unit) (s : Session) : Except Halt Unit × Progress := (a.run).run ⟨s, []⟩

end Answer

end Fleet.Cli
