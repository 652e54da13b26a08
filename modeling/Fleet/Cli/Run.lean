import Fleet.Cli.Batches
import Fleet.Cli.Contexts
import Fleet.Cli.Watching

/-!
# Running a request

A request is answered on a session; what is said becomes the text of the two streams.

The mode follows from the arguments: whether output is for programs, how much is said, and whether
it is coloured. Everything that a run says is collected first and printed in the order in which it
was said.
-/

namespace Fleet.Cli

/-- Answer to a request. -/
def Request.answer (scene : Scene) : Request → Answer Unit
  | .list q => Answer.list scene q
  | .versions named => Answer.versions scene named
  | .exec args maxParallel named => Answer.exec scene args maxParallel named
  | .describe resource row => Answer.describe scene resource row
  | .contexts request => Answer.contexts scene request
  | .watch q interval => Answer.watch scene q interval

/-- How messages of a run are printed; without a choice there are no colors. -/
def Arguments.mode (a : Arguments) : Console.Mode := ⟨a.isJson, a.isQuiet, a.color = .always⟩

/-- A run that goes no further. -/
structure Finished where
  result : Except Halt Unit
  printed : Console.Printed
  session : Session

/-- A run on a session. -/
def Arguments.run (a : Arguments) (s : Session) (now : Time.Stamp) (outside : Outside) : Finished :=
  let (result, progress) := (a.request.answer ⟨a.mode, now, outside⟩).runOn s
  ⟨result, Console.Message.printAll a.mode progress.messages, progress.session⟩

end Fleet.Cli
