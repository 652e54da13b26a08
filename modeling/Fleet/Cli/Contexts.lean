import Fleet.Cli.Answer
import Fleet.Cli.Arguments
import Fleet.Console.Table

/-!
# Commands on the selection

Every change ends with a summary of the contexts that batches will run on.

Selecting, deselecting and toggling load the stored selection, change it and store it (`store`).
Selecting leaves out names that no configuration knows and warns of them, toggling such a name only
warns, and deselecting asks nothing of a name.
-/

namespace Fleet.Cli

/-- Names after a selection of more names: known ones that are not there yet, each once. -/
def SelectionRequest.added (known selected : List String) (names : List String) : List String :=
  names.foldl (fun acc n => if known.contains n && !acc.contains n then acc ++ [n] else acc)
    selected

/-- Names after some were taken away. -/
def SelectionRequest.removed (selected names : List String) : List String :=
  selected.filter fun n => !names.contains n

namespace Answer

/-- Files after an operation of the selection's store. -/
def store (r : Except Failure Files.Tree) : Answer Unit := do
  let files ← ofExcept r
  setSession { ← session with files }

/-- Contexts that batches will run on. -/
def summary (scene : Scene) : Answer Unit := do
  let effective ← ofExcept ((← session).batchContexts [])
  if scene.mode.isJson then sayResult "contexts" [("effective", .strings effective)]
  else if effective = [] then say (.note "Batch commands have no target context")
  else say (.field "Targets" (Text.join ", " effective))

/-- Mark in a table. -/
def markIf (b : Bool) (mark : String) : String := if b then mark else ""

/-- All contexts, with marks at the current and the selected ones. -/
def listContexts (scene : Scene) : Answer Unit := do
  let s ← session
  let selected ← ofExcept s.selected
  let known := s.contextNames
  if scene.mode.isJson then
    sayResult "contexts.list" [("current", .ofOption .str s.active?), ("contexts", .strings known),
      ("selected", .strings selected),
      ("effective", .strings (← ofExcept (s.batchContexts [])))]
  else if known = [] then say (.warning "No contexts found in kubeconfig")
  else
    let rows := known.map fun n =>
      [markIf (s.active? == some n) "*", markIf (selected.contains n) "✓", n]
    say (.raw (Console.Table.text ["CURRENT", "SELECTED", "NAME"] rows ++ "\n"))
    summary scene

/-- A warning for every name that is not known. -/
def warnUnknown (known names : List String) : Answer Unit :=
  sayAll ((names.filter (!known.contains ·)).map fun n =>
    .warning ("Unknown context " ++ Text.quoted n ++ ", skipped"))

/-- A change of the selection, or its listing. -/
def contexts (scene : Scene) (request : SelectionRequest) : Answer Unit := do
  let s ← session
  let known := s.contextNames
  match request with
  | .list => listContexts scene
  | .select names => do
    let selected ← ofExcept s.selected
    warnUnknown known names
    store (s.selection.save s.files (SelectionRequest.added known selected names))
    summary scene
  | .deselect names => do
    let selected ← ofExcept s.selected
    store (s.selection.save s.files (SelectionRequest.removed selected names))
    summary scene
  | .toggle name =>
    if known.contains name then do
      let (now, changed) ← ofExcept (s.toggle name)
      setSession changed
      say (.success (name ++ (if now then " selected" else " deselected")))
      summary scene
    else say (.warning ("Unknown context " ++ Text.quoted name))
  | .all => do
    store (s.selection.selectAll s.files known)
    summary scene
  | .clear => do
    store (s.selection.clear s.files)
    summary scene

end Answer

end Fleet.Cli
