import Fleet.Cluster.Client

/-!
# Scripted clusters

A script says what a cluster holds, how long it takes to answer and whether it fails. A roster of
scripts is a factory of clients.

Objects of a script are filtered by namespace and by a selector for the label `app`; any other
selector takes all of them. A script may fail every call with one message, and a roster may also
hold contexts for which no client can be made (`addBroken`).
-/

namespace Fleet.Cluster

/-- Behaviour of one context. -/
structure Script where
  objects : List Json
  version : String
  failure : Option String
  /-- Milliseconds before an answer; none when there is never one. -/
  delay : Option Nat
  deriving Repr, Inhabited

namespace Script

/-- A metadata entry of an object. -/
def metadata? (key : String) (o : Json) : Option Json :=
  (o.field? "metadata").bind (·.field? key)

/-- The object lies in the namespace. -/
def inNamespace (ns : Option String) (o : Json) : Bool :=
  match ns with
  | none => true
  | some ns => ((metadata? "namespace" o).bind Json.str?) == some ns

/-- The text after a prefix. -/
def after? (start s : String) : Option String :=
  if start.toList.isPrefixOf s.toList then
    some (String.ofList (s.toList.drop start.toList.length))
  else none

/-- The object carries the label that a selector on `app` asks for. -/
def matchesApp (selector : Option String) (o : Json) : Bool :=
  match selector.bind (after? "app=") with
  | none => true
  | some app =>
    (((metadata? "labels" o).bind (·.field? "app")).bind Json.str?) == some app

/-- A call that waits the delay and then fails or answers. -/
def call {α : Type} (s : Script) (context : String) (answer : Except Failure α) : Call α :=
  { delay := s.delay
    ending := match s.failure with
      | some reason => .error (.call context reason)
      | none => answer }

/-- Answer to a request for one object. -/
def find (s : Script) (context : String) (ns : Option String) (name : String) :
    Except Failure Json :=
  let hit := s.objects.find? fun o =>
    ((metadata? "name" o).bind Json.str?) == some name && inNamespace ns o
  match hit with
  | some o => .ok o
  | none => .error (.call context ("404 Not Found: " ++ Text.quoted name ++ " not found"))

/-- Client that follows the script. -/
def client (s : Script) (context : String) : Client :=
  { context
    list := fun _ ns selector =>
      s.call context (.ok (s.objects.filter fun o => inNamespace ns o && matchesApp selector o))
    get := fun _ ns name => s.call context (s.find context ns name)
    version := s.call context (.ok s.version) }

end Script

/-- Scripts by context name, the names in order, and the names whose client cannot be made. -/
structure Roster where
  names : List String
  scripts : List (String × Script)
  broken : List String
  current : Option String
  deriving Repr, Inhabited

namespace Roster

/-- No contexts. -/
def empty : Roster := ⟨[], [], [], none⟩

/-- A script set for a name; an earlier one is replaced. -/
def setScript (r : Roster) (name : String) (s : Script) : Roster :=
  { r with scripts := (name, s) :: r.scripts.filter (·.1 ≠ name) }

/-- One more context; the first one is current. -/
def addContext (r : Roster) (name : String) (s : Script) : Roster :=
  { r.setScript name s with
    names := r.names ++ [name]
    current := r.current.orElse fun _ => some name }

/-- One more context whose client cannot be made. -/
def addBroken (r : Roster) (name : String) : Roster :=
  { r with names := r.names ++ [name], broken := r.broken ++ [name] }

/-- Factory of the scripted clients. -/
def factory (r : Roster) : Factory := fun context =>
  if r.broken.contains context then
    .error (.unconnected context "scripted construction failure")
  else match r.scripts.find? (·.1 = context) with
    | some (_, s) => .ok (s.client context)
    | none => .error (.unresolved context "context not found")

end Roster

end Fleet.Cluster
