/-!
# Cutting and joining text

Splitting at a character, the lines of a text, and joining with a separator.

Lines are ended by a line feed or by a carriage return and a line feed, and the last one need not be
ended. Splitting keeps empty pieces.
-/

namespace Fleet.Text

/-- Parts between occurrences of `sep`; one part more than there are separators. -/
def splitChars (sep : Char) : List Char → List (List Char)
  | [] => [[]]
  | c :: r =>
    if c = sep then [] :: splitChars sep r
    else match splitChars sep r with
      | [] => [[c]]
      | p :: ps => (c :: p) :: ps

/-- Parts of a text between occurrences of `sep`. -/
def split (sep : Char) (s : String) : List String := (splitChars sep s.toList).map String.ofList

/-- The part before the first `sep` and the part after it. -/
def cutChars? (sep : Char) : List Char → Option (List Char × List Char)
  | [] => none
  | c :: r => if c = sep then some ([], r) else (cutChars? sep r).map fun (a, b) => (c :: a, b)

/-- Text before the first `sep` and text after it. -/
def cut? (sep : Char) (s : String) : Option (String × String) :=
  (cutChars? sep s.toList).map fun (a, b) => (String.ofList a, String.ofList b)

/-- A line without the carriage return that may end it. -/
def dropReturn (line : List Char) : List Char :=
  if line.getLast? = some '\r' then line.dropLast else line

/-- Lines of a text: a line feed ends a line, with the carriage return before it; a last empty piece
is no line. Only a line that a line feed ends loses its carriage return. -/
def linesOf (cs : List Char) : List (List Char) :=
  let parts := splitChars '\n' cs
  let ended := parts.dropLast.map dropReturn
  match parts.getLast? with
  | none => ended
  | some [] => ended
  | some last => ended ++ [last]

/-- Lines of a text. -/
def lines (s : String) : List String := (linesOf s.toList).map String.ofList

/-- Texts one after another with `sep` between them. -/
def join (sep : String) : List String → String
  | [] => ""
  | [s] => s
  | s :: t :: r => s ++ sep ++ join sep (t :: r)

/-- A text `n` times. -/
def repeated (s : String) : Nat → String
  | 0 => ""
  | n + 1 => s ++ repeated s n

/-- Text with spaces added at the end up to `n` characters. -/
def padEnd (n : Nat) (s : String) : String := s ++ repeated " " (n - s.length)

end Fleet.Text
