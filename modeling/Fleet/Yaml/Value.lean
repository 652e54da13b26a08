import Fleet.Yaml.Node
import Fleet.Yaml.Scalar

/-!
# Values of YAML documents

What a node stands for when nothing is known of its form, with aliases followed. A mapping has every
key once.

Aliases are followed with a bound on how many, and nesting has a depth. Records are read from
mappings by key, with fields that may be left out, and a field that is given twice is refused.
-/

namespace Fleet.Yaml

/-- A value of any form. -/
inductive Value where
  | null
  | bool (b : Bool)
  | int (n : Int)
  | real (x : Double)
  | str (s : String)
  | sequence (items : List Value)
  | mapping (pairs : List (Value × Value))
  | tagged (tag : String) (v : Value)
  deriving BEq

/-- Nothing as a value. -/
instance : Inhabited Value := ⟨.null⟩

/-- Tags of scalar kinds. -/
def coreTag (name : String) : String := "tag:yaml.org,2002:" ++ name

/-- Value of a meaning. -/
def Meaning.value (text : String) : Meaning → Value
  | .null => .null
  | .bool b => .bool b
  | .int n => .int n
  | .real x => .real x
  | .text => .str text

/-- Value of a scalar: a tag of a kind asks for that kind; without a tag, only a plain scalar is
anything but text. -/
def scalarValue? (tag : Option String) (style : Style) (text : String) : Option Value :=
  match tag with
  | some t =>
    if t = coreTag "bool" then (bool? text).map .bool
    else if t = coreTag "int" then (int? text.toList).map .int
    else if t = coreTag "float" then (real? text.toList).map .real
    else if t = coreTag "null" then if isNull text then some .null else none
    else if t.toList.head? = some '!' then
      some (.tagged t (if style = .plain then (meaning text).value text else .str text))
    else some (.str text)
  | none => if style = .plain then some ((meaning text).value text) else some (.str text)

/-- A value under the tag of its node, if the tag is the document's own. -/
def underTag (tag : Option String) (v : Value) : Value :=
  match tag with
  | some t => if t.toList.head? = some '!' then .tagged t v else v
  | none => v

/-- No key comes twice. -/
def distinctKeys : List (Value × Value) → Bool
  | [] => true
  | (k, _) :: r => !(r.any (·.1 == k)) && distinctKeys r

/-- Value of a node at a depth that leaves `depth` levels, the state being the aliases that may
still be followed; `fuel` bounds both. -/
def Document.value? (d : Document) : Nat → Nat → Node → StateT Nat Option Value
  | 0, _, _ => failure
  | fuel + 1, depth, n =>
    match n with
    | .alias id => do
      let left ← get
      guard (0 < left)
      set (left - 1)
      match d.find? id with
      | some n => d.value? fuel depth n
      | none => failure
    | .scalar tag style text =>
      match scalarValue? tag style text with
      | some v => pure v
      | none => failure
    | .sequence tag items => do
      guard (0 < depth)
      let vs ← items.mapM (d.value? fuel (depth - 1))
      pure (underTag tag (.sequence vs))
    | .mapping tag pairs => do
      guard (0 < depth)
      let vs ← pairs.mapM fun (k, v) => do
        let k ← d.value? fuel (depth - 1) k
        let v ← d.value? fuel (depth - 1) v
        pure (k, v)
      guard (distinctKeys vs)
      pure (underTag tag (.mapping vs))

/-- Levels of nesting that a document may have. -/
def depthLimit : Nat := 128

/-- Aliases that may be followed in a document. -/
def aliasLimit : Nat := 100000

namespace Document

/-- The node, seen from `depth` levels below the root, stands for a value. -/
def isValue (d : Document) (depth : Nat) (n : Node) : Bool :=
  ((d.value? (2 * depthLimit + 2) (depthLimit - depth) n).run aliasLimit).isSome

/-- Text of a scalar of any form. -/
def text? (d : Document) (n : Node) : Option String := do
  match ← d.target? n with
  | .scalar _ _ s => some s
  | _ => none

/-- A scalar that stands for nothing. -/
def isNothing (n : Node) : Option Bool :=
  match n with
  | .scalar none .plain s => some (s = "" ∨ isNull s)
  | .scalar (some t) .plain s =>
    if t = coreTag "null" then (if isNull s then some true else none) else some false
  | _ => some false

/-- A value that may be left out. -/
def optional? {α : Type} (d : Document) (decode : Node → Option α) (n : Node) :
    Option (Option α) := do
  let n ← d.target? n
  if ← isNothing n then some none else (decode n).map some

/-- A truth value. -/
def flag? (d : Document) (n : Node) : Option Bool := do
  match ← d.target? n with
  | .scalar _ .plain s => bool? s
  | .scalar (some t) .literal s => if t = coreTag "bool" then bool? s else none
  | _ => none

/-- Items of a sequence; a place where nothing is written is an empty one. -/
def list? {α : Type} (d : Document) (decode : Node → Option α) (n : Node) : Option (List α) := do
  match ← d.target? n with
  | .sequence _ items => items.mapM decode
  | .scalar _ .plain "" => some []
  | _ => none

/-- Known entries of a mapping, each at most once; a place where nothing is written has none. -/
def fields? (d : Document) (known : List String) (n : Node) : Option (List (String × Node)) := do
  match ← d.target? n with
  | .mapping _ pairs =>
    let named ← pairs.mapM fun (k, v) => (d.text? k).map (·, v)
    let mine := named.filter fun e => known.contains e.1
    if (mine.map (·.1)).Nodup then some mine else none
  | .scalar _ .plain "" => some []
  | _ => none

/-- An entry of a record that has to be there. -/
def required? {α : Type} (fields : List (String × Node)) (key : String)
    (decode : Node → Option α) : Option α := do
  let (_, n) ← fields.find? (·.1 = key)
  decode n

/-- An entry of a record with a value for when it is left out. -/
def entryOr? {α : Type} (fields : List (String × Node)) (key : String) (missing : α)
    (decode : Node → Option α) : Option α :=
  match fields.find? (·.1 = key) with
  | some (_, n) => decode n
  | none => some missing

end Document

end Fleet.Yaml
