import Fleet.Cli.Answer
import Fleet.Console.Table
import Fleet.Yaml.Printer

/-!
# Commands on many contexts, and on one row

Versions and command output of every context, and the object that a row stands for.

An empty choice of contexts is answered by a warning, and a batch that never ends never answers. A
context that does not tell its version is shown with the sentinel in its place. Failures of some
contexts do not fail the command: they are shown in their places and counted in a warning behind the
results.
-/

namespace Fleet.Cli.Answer

/-- Version shown for a context. -/
def versionCell (mode : Console.Mode) (versions : List (String × String)) (context : String) :
    String :=
  let v := ((versions.find? (·.1 = context)).map (·.2)).getD Cluster.notAvailable
  if v = Cluster.notAvailable then mode.paint .dimmed v else v

/-- Versions of the servers, in the order of the contexts. -/
def versions (scene : Scene) (named : List String) : Answer Unit := do
  let s ← session
  let contexts ← ofExcept (s.batchContexts named)
  if contexts = [] then warnNoContext
  else
    let (outcome, registry) := Cluster.versionsAll s.policy s.factory s.registry contexts
    setRegistry registry
    await outcome.elapsed
    let versions := Cluster.keyed Cluster.notAvailable outcome.slots
    if scene.mode.isJson then
      sayResult "versions" [("versions", .object (versions.map fun (c, v) => (c, .str v)))]
    else
      let rows := contexts.map fun c => [c, versionCell scene.mode versions c]
      say (.raw (Console.Table.text ["CONTEXT", "VERSION"] rows ++ "\n"))
      let silent := versions.countP (·.2 = Cluster.notAvailable)
      if 0 < silent then say (.warning (toString silent ++ " context(s) did not answer"))

/-- Result of a command for programs. -/
def resultItem (r : CommandResult) : Json :=
  .object [("context", .str r.context), ("output", .str r.output),
    ("error", .ofOption (fun e : Failure => .str e.message) r.failure)]

/-- A command in every context, with a report of all. -/
def exec (scene : Scene) (args : List String) (maxParallel : Option Nat) (named : List String) :
    Answer Unit := do
  let s ← session
  let contexts ← ofExcept (s.batchContexts named)
  if contexts = [] then warnNoContext
  else
    let bound := maxParallel.getD s.policy.commandMaxParallel
    let outcome := Cluster.commandAll s.policy (s.runner s.files) contexts args bound
    await outcome.elapsed
    let results := outcome.slots.map CommandResult.ofSlot
    if scene.mode.isJson then
      sayResult "exec" [("results", .arr (results.map resultItem))]
    else
      say (.raw (CommandResult.report results))
      let failed := results.countP (·.failure.isSome)
      if 0 < failed then
        say (.warning (toString failed ++ "/" ++ toString results.length ++ " context(s) failed"))

/-- The object of a row. -/
def describe (scene : Scene) (resource : Resource) (row : String) : Answer Unit := do
  let s ← session
  let (delay, found, _, registry) := Cluster.getByRow s.factory s.registry resource row s.active?
  setRegistry registry
  await delay
  let o ← ofExcept found
  if scene.mode.isJson then
    sayResult "describe" [("context", .str o.context), ("id", .str row), ("object", o.object)]
  else
    say (.field "Context" (scene.mode.paint .cyan o.context))
    say (.field "Path" o.path)
    say (.raw ("\n" ++ Yaml.print o.object))

end Fleet.Cli.Answer
