/-!
# Reading from left to right

A reader takes characters from the front of a text and knows how many bytes it has taken. It fails
or yields a value.

A cursor has the rest of the text and the number of bytes before it. Bytes matter for formats whose
errors name places in the text; characters are what is read.
-/

namespace Fleet.Text

/-- Bytes of characters in UTF-8. -/
def byteLength : List Char → Nat
  | [] => 0
  | c :: cs => c.utf8Size + byteLength cs

/-- What is left of a text, and the bytes before it. -/
structure Cursor where
  rest : List Char
  pos : Nat
  deriving Repr

/-- A function on cursors that may fail. -/
abbrev Reader := StateT Cursor Option

namespace Reader

/-- The next character, left in place. -/
def peek : Reader (Option Char) := fun s => some (s.rest.head?, s)

/-- All that is left, left in place. -/
def rest : Reader (List Char) := fun s => some (s.rest, s)

/-- Bytes taken so far. -/
def pos : Reader Nat := fun s => some (s.pos, s)

/-- The next character, taken. -/
def next : Reader Char := fun s =>
  match s.rest with
  | [] => none
  | c :: r => some (c, ⟨r, s.pos + c.utf8Size⟩)

/-- A given number of characters dropped. -/
def skip : Nat → Reader Unit
  | 0 => pure ()
  | n + 1 => do
    let _ ← next
    skip n

/-- Takes a word if it comes next. -/
def accept (word : List Char) : Reader Bool := fun s =>
  if word.isPrefixOf s.rest then
    some (true, ⟨s.rest.drop word.length, s.pos + byteLength word⟩)
  else some (false, s)

/-- A word that has to come next. -/
def expect (word : List Char) : Reader Unit := do
  guard (← accept word)

/-- Characters up to the first that does not satisfy a test. -/
def takeWhile (p : Char → Bool) : Reader (List Char) := fun s =>
  let taken := s.rest.takeWhile p
  some (taken, ⟨s.rest.drop taken.length, s.pos + byteLength taken⟩)

/-- A condition that has to hold. -/
def check (b : Bool) : Reader Unit := if b then pure () else failure

/-- Nothing may be left. -/
def done : Reader Unit := do
  guard (← rest).isEmpty

/-- Value of a reader on a whole text. -/
def run? {α : Type} (r : Reader α) (s : String) : Option α := (r ⟨s.toList, 0⟩).map (·.1)

end Reader

end Fleet.Text
