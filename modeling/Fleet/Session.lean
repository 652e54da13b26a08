import Fleet.Cluster.Executable
import Fleet.Cluster.Link
import Fleet.Cluster.Script
import Fleet.Environment
import Fleet.Kubeconfig.Source
import Fleet.Selection

/-!
# Sessions

A session holds the settings, where contexts come from, the kept clients and the files. It says
which context is active, which contexts a batch runs on, and reads its configuration again on
demand.

Contexts come from configuration files or from scripts (`Origin`); sessions on either have the same
operations. Everything that a command may change is a field of the session, so a command takes a
session to another one. Clients are made with the configuration as it was last read and the files as
they are.
-/

namespace Fleet

/-- Where contexts and their clients come from. -/
inductive Session.Origin where
  /-- Configuration files, and how their clusters are reached. -/
  | files (source : Kubeconfig.Source) (transport : Cluster.Api.Transport)
  | scripted (roster : Cluster.Roster)

/-- All that commands work on. -/
structure Session where
  settings : Settings
  selection : Selection.Store Files.Tree
  origin : Session.Origin
  registry : Cluster.Registry
  runner : Files.Tree → Cluster.Runner
  files : Files.Tree

namespace Session

/-- Names of the contexts, in order. -/
def Origin.names : Origin → List String
  | .files s _ => s.config.contextNames
  | .scripted r => r.names

/-- The context that configuration calls current. -/
def Origin.current : Origin → Option String
  | .files s _ => s.config.current
  | .scripted r => r.current

/-- Makes clients. -/
def Origin.factory (settings : Throttle) (t : Files.Tree) : Origin → Cluster.Factory
  | .files s transport => Cluster.Api.factory settings transport s.config t
  | .scripted r => r.factory

/-- Configuration read again; scripts stay. -/
def Origin.reload (t : Files.Tree) : Origin → Except Failure Origin
  | .files s transport => do return .files (← s.reload t) transport
  | .scripted r => .ok (.scripted r)

/-- Session on configuration files. -/
def build (env : Environment) (settings : Settings) (transport : Cluster.Api.Transport)
    (files : Files.Tree) : Except Failure Session := do
  let source ← Kubeconfig.Source.load files (settings.kubeconfigPaths env)
  return { settings, selection := .file (settings.selectionPath env)
           origin := .files source transport, registry := .empty
           runner := fun t => Cluster.Executable.runner t settings.kubectl, files }

/-- Session on scripted contexts. -/
def ofRoster (env : Environment) (settings : Settings) (roster : Cluster.Roster)
    (runner : Cluster.Runner) (files : Files.Tree) : Session :=
  { settings, selection := .file (settings.selectionPath env), origin := .scripted roster
    registry := .empty, runner := fun _ => runner, files }

/-- Names of the contexts, in order. -/
def contextNames (s : Session) : List String := s.origin.names

/-- The current context; an empty name is none. -/
def active? (s : Session) : Option String := s.origin.current.filter (· ≠ "")

/-- Makes clients from the configuration as it was read and the files as they are. -/
def factory (s : Session) : Cluster.Factory := s.origin.factory s.settings.client s.files

/-- Names of the stored selection. -/
def selected (s : Session) : Except Failure (List String) := s.selection.load s.files

/-- Contexts of a batch: those named, or else those in effect. -/
def batchContexts (s : Session) (named : List String) : Except Failure (List String) :=
  if named = [] then do return Selection.effective (← s.selected) s.active? else .ok named

/-- Client of a context, kept from now on. -/
def client (s : Session) (context : String) : Except Failure Cluster.Handle × Session :=
  let (h, registry) := s.registry.get s.factory context
  (h, { s with registry })

/-- Configuration read again and all clients dropped; on failure nothing changes. -/
def reload (s : Session) : Except Failure Session := do
  return { s with origin := ← s.origin.reload s.files, registry := s.registry.reset }

/-- One name toggled; whether it is selected afterwards. -/
def toggle (s : Session) (name : String) : Except Failure (Bool × Session) := do
  let (now, files) ← s.selection.toggle s.files name
  return (now, { s with files })

/-- Bounds and time limits of batches. -/
def policy (s : Session) : Cluster.Policy := s.settings.policy

end Session

end Fleet
