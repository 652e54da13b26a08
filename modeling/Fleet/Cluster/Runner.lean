import Fleet.Cluster.Client
import Fleet.Command

/-!
# Command runners

A runner starts a process with some arguments. A scripted runner answers by the context that the
arguments name.

A process takes some time, or forever, and then comes to a result; or it is not started. The context
that arguments name is the argument after the first flag for it, and a context without a reply in
the table succeeds without output.
-/

namespace Fleet.Cluster

/-- How a process ends: its result, or why it did not start. -/
structure Running where
  delay : Option Nat
  result : Except String ProcessResult
  deriving Repr

/-- Starts a process. -/
abbrev Runner := List String → Running

/-- Argument after the first context flag. -/
def contextArgument? : List String → Option String
  | a :: b :: r => if a = Command.contextFlag then some b else contextArgument? (b :: r)
  | _ => none

/-- Replies by context. -/
structure Replies where
  table : List (String × Running)
  deriving Repr

namespace Replies

/-- No replies. -/
def empty : Replies := ⟨[]⟩

/-- A reply for a context; an earlier one is replaced. -/
def set (t : Replies) (context : String) (r : Running) : Replies :=
  ⟨(context, r) :: t.table.filter (·.1 ≠ context)⟩

/-- Success without output. -/
def quiet : Running := ⟨some 0, .ok ⟨true, some 0, "", ""⟩⟩

/-- Runner that answers from the table; an unknown context succeeds without output. -/
def runner (t : Replies) : Runner := fun args =>
  match t.table.find? (·.1 = (contextArgument? args).getD "") with
  | some (_, r) => r
  | none => quiet

end Replies

end Fleet.Cluster
