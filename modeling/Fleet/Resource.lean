import Fleet.Json.Basic
import Fleet.Text.Blank
import Fleet.Text.Quoted
import Fleet.Text.Split

/-!
# Resources and objects

A resource kind is addressed by API group, version and plural name. An object is a JSON document
tagged with the context it came from; its path is what follows the context in a row identifier.

The text of a resource is `version/name` in the core group and `group/version/name` in any other. A
name alone is read in the first version of the core group. An object keeps its document as it is;
name, namespace and age are read from it where they are needed.
-/

namespace Fleet

/-- Address of a resource kind; the core group has an empty name. -/
structure Resource where
  group : String
  version : String
  name : String
  deriving Repr, DecidableEq, Inhabited

namespace Resource

/-- A resource of the core group at its first version. -/
def core (name : String) : Resource := ⟨"", "v1", name⟩

/-- Belongs to the core group. -/
def isCore (r : Resource) : Bool := r.group == ""

/-- Written form: the group is left out for the core group. -/
def text (r : Resource) : String :=
  if r.isCore then r.version ++ "/" ++ r.name
  else r.group ++ "/" ++ r.version ++ "/" ++ r.name

/-- Why a text names no resource. -/
inductive ParseError where
  | emptyPart (text : String)
  | tooManyParts (text : String)
  deriving Repr, DecidableEq

/-- Wording. -/
def ParseError.message : ParseError → String
  | emptyPart s => "invalid resource " ++ Text.quoted s
  | tooManyParts s => "invalid resource " ++ Text.quoted s ++
      ": expected RESOURCE, VERSION/RESOURCE or GROUP/VERSION/RESOURCE"

/-- One to three parts between slashes, none of them empty, blanks around the whole left out. -/
def parse (s : String) : Except ParseError Resource :=
  let parts := Text.split '/' (Text.trim s)
  if parts.any (· == "") then .error (.emptyPart s)
  else match parts with
    | [name] => .ok (core name)
    | [version, name] => .ok ⟨"", version, name⟩
    | [group, version, name] => .ok ⟨group, version, name⟩
    | _ => .error (.tooManyParts s)

end Resource

/-- Namespace that a namespace argument stands for; none for every namespace. -/
def scopedNamespace : Option String → Option String
  | none => none
  | some ns => if ns = "" ∨ ns = "-" ∨ ns = "all" then none else some ns

/-- An object and the context it came from. -/
structure ContextObject where
  context : String
  object : Json
  deriving Repr, Inhabited

namespace ContextObject

/-- A metadata entry that is a string. -/
def metadata? (key : String) (o : Json) : Option String :=
  (o.field? "metadata").bind fun m => (m.field? key).bind Json.str?

/-- Name, empty when there is none. -/
def name (o : ContextObject) : String := (metadata? "name" o.object).getD ""

/-- Namespace as written. -/
def namespace? (o : ContextObject) : Option String := metadata? "namespace" o.object

/-- Creation time as written. -/
def created? (o : ContextObject) : Option String := metadata? "creationTimestamp" o.object

/-- Namespace and name, or the name alone. -/
def path (o : ContextObject) : String :=
  match o.namespace? with
  | some ns => if ns = "" then o.name else ns ++ "/" ++ o.name
  | none => o.name

end ContextObject

end Fleet
