/-!
# Row identifiers

A row of a merged listing is named by its context and its path with a separator between them. A row
without the separator belongs to the active context.

The separator is two at signs. Splitting cuts at the first one, and identifiers are sorted by their
bytes.
-/

namespace Fleet.Row

/-- Separator between context and path. -/
def separator : String := "@@"

/-- Identifier of a path in a context. -/
def join (context path : String) : String := context ++ separator ++ path

/-- Text before the first separator and text after it. -/
def cutChars? : List Char → Option (List Char × List Char)
  | [] => none
  | [_] => none
  | c :: d :: r =>
    if c = '@' ∧ d = '@' then some ([], r)
    else (cutChars? (d :: r)).map fun (a, b) => (c :: a, b)

/-- Context and path of an identifier; the context is empty when there is no separator. -/
def split (id : String) : String × String :=
  match cutChars? id.toList with
  | some (c, p) => (String.ofList c, String.ofList p)
  | none => ("", id)

/-- The identifier carries a context. -/
def isMulti (id : String) : Bool := (cutChars? id.toList).isSome

/-- Identifiers in increasing order. -/
def sort (ids : List String) : List String := ids.mergeSort (fun a b => decide (a ≤ b))

end Fleet.Row
