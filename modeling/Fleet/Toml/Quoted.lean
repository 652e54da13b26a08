import Fleet.Text.Reader

/-!
# Strings of TOML

Basic strings have escapes, literal strings do not; either may go over several lines between triple
quotes.

In strings over several lines the line feed right behind the opening quotes does not count, and a
backslash at the end of a line takes the blanks of the next ones with it. Escapes for code points
must name a character.
-/

namespace Fleet.Toml

open Text (Reader)

/-- Blanks inside a line. -/
def isGap (c : Char) : Bool := c == ' ' || c == '\t'

/-- Characters that may stand in a comment or a string as they are. -/
def isPlain (c : Char) : Bool :=
  c == '\t' || (0x20 ≤ c.toNat && c.toNat ≤ 0x7e) || 0x80 ≤ c.toNat

/-- Blanks taken. -/
def gap : Reader Unit := do
  let _ ← Reader.takeWhile isGap

/-- A line feed, with a carriage return before it or not, if it comes next. -/
def newline : Reader Bool := do
  if ← Reader.accept ['\r', '\n'] then pure true else Reader.accept ['\n']

/-- Value of a hexadecimal digit. -/
def hexValue? (c : Char) : Option Nat :=
  if c.isDigit then some (c.toNat - 48)
  else if 'a' ≤ c ∧ c ≤ 'f' then some (c.toNat - 87)
  else if 'A' ≤ c ∧ c ≤ 'F' then some (c.toNat - 55)
  else none

/-- A number of a given count of hexadecimal digits. -/
def hexNumber : Nat → Nat → Reader Nat
  | 0, acc => pure acc
  | n + 1, acc => do
    let c ← Reader.next
    match hexValue? c with
    | some d => hexNumber n (acc * 16 + d)
    | none => failure

/-- Character of a code point that is one. -/
def scalar (n : Nat) : Reader Char := do
  guard (n.isValidChar)
  pure (Char.ofNat n)

/-- The character that an escape stands for. -/
def escape : Reader Char := do
  match ← Reader.next with
  | 'b' => pure '\x08'
  | 't' => pure '\t'
  | 'n' => pure '\n'
  | 'f' => pure '\x0c'
  | 'r' => pure '\r'
  | '"' => pure '"'
  | '\\' => pure '\\'
  | 'u' => scalar (← hexNumber 4 0)
  | 'U' => scalar (← hexNumber 8 0)
  | _ => failure

/-- Characters up to the closing quote of a string on one line. -/
def lineBody (quote : Char) (escapes : Bool) : Nat → Reader (List Char)
  | 0 => failure
  | fuel + 1 => do
    let c ← Reader.next
    if c = quote then pure []
    else if escapes ∧ c = '\\' then do
      let e ← escape
      pure (e :: (← lineBody quote escapes fuel))
    else do
      guard (isPlain c)
      pure (c :: (← lineBody quote escapes fuel))

/-- Blanks and line ends after a backslash that ends a line. -/
def foldedLines : Nat → Reader Unit
  | 0 => pure ()
  | fuel + 1 => do
    gap
    if ← newline then foldedLines fuel

/-- A backslash comes next and nothing but blanks up to the end of its line. -/
def endsLine : List Char → Bool
  | '\\' :: r =>
    match r.dropWhile isGap with
    | '\n' :: _ => true
    | '\r' :: '\n' :: _ => true
    | _ => false
  | _ => false

/-- Characters up to the closing quotes of a string on several lines. One or two quotes in a row are
content, and so are the first of up to five that close. -/
def linesBody (quote : Char) (escapes : Bool) : Nat → Reader (List Char)
  | 0 => failure
  | fuel + 1 => do
    let ahead ← Reader.rest
    let run := (ahead.takeWhile (· = quote)).length
    if 3 ≤ run then do
      let extra := min (run - 3) 2
      Reader.skip (extra + 3)
      pure (List.replicate extra quote)
    else if 1 ≤ run then do
      Reader.skip run
      pure (List.replicate run quote ++ (← linesBody quote escapes fuel))
    else if ← newline then do
      pure ('\n' :: (← linesBody quote escapes fuel))
    else if escapes && endsLine ahead then do
      Reader.skip 1
      foldedLines ahead.length
      linesBody quote escapes fuel
    else do
      let c ← Reader.next
      if escapes ∧ c = '\\' then do
        let e ← escape
        pure (e :: (← linesBody quote escapes fuel))
      else do
        guard (isPlain c)
        pure (c :: (← linesBody quote escapes fuel))

/-- A string on one line. -/
def lineString : Reader String := do
  let quote ← Reader.next
  guard (quote = '"' ∨ quote = '\'')
  let cs ← lineBody quote (quote = '"') ((← Reader.rest).length + 1)
  pure (String.ofList cs)

/-- A string of any kind. -/
def anyString : Reader String := do
  match ← Reader.rest with
  | a :: b :: c :: r =>
    if a = b ∧ b = c ∧ (a = '"' ∨ a = '\'') then do
      Reader.skip 3
      let _ ← newline
      let cs ← linesBody a (a = '"') (r.length + 1)
      pure (String.ofList cs)
    else lineString
  | _ => lineString

end Fleet.Toml
