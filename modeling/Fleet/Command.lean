import Fleet.Failure
import Fleet.Text.Blank
import Fleet.Text.Split

/-!
# Commands and their reports

A command line gets its context injected, a finished process is folded into an outcome, and the
outcomes of a batch are shown as one report with a section per context.

The flag goes in front of the first separator, since what is behind it is not for the command
itself. A process that fails is reported by its complaint, trimmed, or else by its exit code or the
signal that ended it. The report has for every context an empty line, the name, an underline and
what is shown of the result.
-/

namespace Fleet

/-- What a finished process left behind; no code when a signal ended it. -/
structure ProcessResult where
  success : Bool
  code : Option Int
  stdout : String
  stderr : String
  deriving Repr, DecidableEq, Inhabited

namespace Command

/-- Flag that names the context. -/
def contextFlag : String := "--context"

/-- Arguments with the context flag before the first `--`, or at the end. -/
def injectContext (context : String) : List String → List String
  | [] => [contextFlag, context]
  | a :: r => if a = "--" then contextFlag :: context :: a :: r else a :: injectContext context r

/-- Why a process failed: what it wrote to standard error, or how it ended. -/
def failureText (r : ProcessResult) : String :=
  let stderr := Text.trim r.stderr
  if stderr = "" then
    match r.code with
    | some code => "exit status " ++ toString code
    | none => "terminated by signal"
  else stderr

/-- Outcome of a process that ran, or of one that did not start. -/
def fold (context : String) : Except String ProcessResult → Except Failure String
  | .error reason => .error (.process context reason)
  | .ok r => if r.success then .ok r.stdout else .error (.process context (failureText r))

end Command

/-- Outcome of one task of a batch. -/
structure Slot (α : Type) where
  context : String
  outcome : Except Failure α
  deriving Repr

namespace Slot

/-- The task yielded a value. -/
def isOk {α : Type} (s : Slot α) : Bool :=
  match s.outcome with
  | .ok _ => true
  | .error _ => false

end Slot

/-- One section of a command report; a failure's wording is its output. -/
structure CommandResult where
  context : String
  output : String
  failure : Option Failure
  deriving Repr, DecidableEq

namespace CommandResult

/-- Result of one slot. -/
def ofSlot (s : Slot String) : CommandResult :=
  match s.outcome with
  | .ok output => ⟨s.context, output, none⟩
  | .error e => ⟨s.context, e.message, some e⟩

/-- Section of one result; the underline has one dash per byte of the name. -/
def sectionText (r : CommandResult) : String :=
  "\n" ++ r.context ++ "\n" ++ Text.repeated "-" r.context.utf8ByteSize ++ "\n" ++
    if r.failure.isSome then "  (error) " ++ r.output ++ "\n" else r.output

/-- Sections of all results. -/
def report (rs : List CommandResult) : String := String.join (rs.map sectionText)

end CommandResult

end Fleet
