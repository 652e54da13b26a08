import Fleet.Double.Basic

/-!
# JSON values

Objects keep their fields as a list; a canonical object has every key once, in increasing order.
Whole numbers stay whole, other numbers are doubles.

`sortFields` makes fields canonical: the last value of a key counts. Values that are read go through
`canonical`, and those that the program builds through `object`, so both have their keys in order.
-/

namespace Fleet

/-- A JSON number. -/
inductive Json.Number where
  | int (value : Int)
  | real (value : Double)
  deriving Repr, DecidableEq, Inhabited

/-- A JSON value. -/
inductive Json where
  | null
  | bool (b : Bool)
  | num (n : Json.Number)
  | str (s : String)
  | arr (items : List Json)
  | obj (fields : List (String × Json))
  deriving Repr, Inhabited

namespace Json

/-- A field set in a list sorted by key; a value already there is replaced. -/
def insertField {α : Type} (key : String) (value : α) : List (String × α) → List (String × α)
  | [] => [(key, value)]
  | (k, v) :: r =>
    if key = k then (key, value) :: r
    else if key < k then (key, value) :: (k, v) :: r
    else (k, v) :: insertField key value r

/-- Fields sorted by key, the last of equal keys kept. -/
def sortFields {α : Type} (fields : List (String × α)) : List (String × α) :=
  fields.foldl (fun acc (k, v) => insertField k v acc) []

mutual
/-- Canonical form: every object inside has its fields sorted, each key once. -/
def canonical : Json → Json
  | .arr items => .arr (canonicalItems items)
  | .obj fields => .obj (sortFields (canonicalFields fields))
  | v => v

/-- Canonical forms of array items. -/
def canonicalItems : List Json → List Json
  | [] => []
  | v :: r => canonical v :: canonicalItems r

/-- Canonical forms of field values. -/
def canonicalFields : List (String × Json) → List (String × Json)
  | [] => []
  | (k, v) :: r => (k, canonical v) :: canonicalFields r
end

/-- Object with the given fields in any order. -/
def object (fields : List (String × Json)) : Json := .obj (sortFields fields)

/-- Field of an object. -/
def field? (key : String) : Json → Option Json
  | .obj fields => (fields.find? (·.1 = key)).map (·.2)
  | _ => none

/-- Text of a string value. -/
def str? : Json → Option String
  | .str s => some s
  | _ => none

/-- An optional value, null when absent. -/
def ofOption {α : Type} (f : α → Json) : Option α → Json
  | none => .null
  | some a => f a

/-- An array of strings. -/
def strings (xs : List String) : Json := .arr (xs.map .str)

end Json

end Fleet
