import Fleet.Kubeconfig.Decode
import Fleet.Kubeconfig.Resolve

/-!
# Configuration files

A source reads a list of files and merges them; missing files count as empty. It may read them
again; if that fails it keeps what it had.

A file counts as missing only if there is nothing at its path; one that is there and cannot be read,
or is no document, ends the reading. What was merged before is lost then, so that a source is read
as a whole or not at all.
-/

namespace Fleet.Kubeconfig

/-- Document of one file; none if there is no such file. -/
def readFile (t : Files.Tree) (path : String) : Except Failure (Option Kubeconfig) :=
  match t.readText path with
  | .error .missing => .ok none
  | .error e => .error (.io e.message)
  | .ok s => do
    let k ← parse s
    return some (match Files.parent? path with
      | some dir => k.anchor dir
      | none => k)

/-- Documents of all files, merged in order. -/
def readAll (t : Files.Tree) (paths : List String) : Except Failure Kubeconfig :=
  paths.foldlM (fun acc path => do
    match ← readFile t path with
    | some k => return acc.merge k
    | none => return acc) .empty

/-- Files, and what they held when they were read. -/
structure Source where
  paths : List String
  config : Kubeconfig
  deriving Repr, DecidableEq

namespace Source

/-- Source of files read now. -/
def load (t : Files.Tree) (paths : List String) : Except Failure Source := do
  return ⟨paths, ← readAll t paths⟩

/-- Files read again; without files nothing changes. -/
def reload (s : Source) (t : Files.Tree) : Except Failure Source :=
  if s.paths = [] then .ok s else load t s.paths

end Source

end Fleet.Kubeconfig
