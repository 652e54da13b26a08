import Fleet.Double.Basic

/-!
# TOML values

Values with the bytes they take in a document. A table remembers how it came about, for that decides
whether it may grow.

A moment keeps nothing of what it says. The entries of a table stand in the order in which their
keys came, since settings are taken over in that order.
-/

namespace Fleet.Toml

/-- Bytes from `start` up to `stop`. -/
structure Span where
  start : Nat
  stop : Nat
  deriving Repr, DecidableEq

/-- One part of a key. -/
structure Key where
  text : String
  span : Span
  deriving Repr

/-- How a table came about. -/
inductive Origin where
  /-- On the way to a table with a header. -/
  | implied
  | header
  | dotted
  | inline
  deriving Repr, DecidableEq

/-- A value; items and entries carry their span if they have one of their own. -/
inductive Value where
  | str (s : String)
  | int (n : Int)
  | real (x : Double)
  | bool (b : Bool)
  /-- A date, a time or both. -/
  | moment
  | array (items : List (Option Span × Value))
  | table (origin : Origin) (entries : List (Key × (Option Span × Value)))
  /-- Tables under one header in double brackets. -/
  | tables (items : List (Option Span × Value))

/-- Some value, for places that a table never looks up. -/
instance : Inhabited Value := ⟨.moment⟩

/-- A value and its bytes. -/
abbrev Item := Option Span × Value

/-- A path of keys and the value set there. -/
structure Assignment where
  path : List Key
  key : Key
  item : Item

end Fleet.Toml
