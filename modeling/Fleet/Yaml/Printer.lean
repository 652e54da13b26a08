import Fleet.Decimal.Layout
import Fleet.Json.Basic
import Fleet.Yaml.Scalar

/-!
# YAML text

Values in block style, two columns a level; sequences stand under the key they belong to. A text is
written plainly if that reads as the same text, as a literal block if it has several lines, else in
quotes.

A text that would be read as something else than text (`meaning`) is quoted, and so is one with a
mark that YAML gives a meaning (`opensMeaning`, `holdsMeaning`). A long or many-lined key is written
behind a question mark.
-/

namespace Fleet.Yaml.Printer

/-- Doubles: positional from `1e-5` up to below `1e16`. -/
def realLayout : Decimal.Layout := ⟨-5, 16, "e", "e"⟩

/-- Ends a line. -/
def isBreak (c : Char) : Bool := ['\n', '\r', '\x85', '\u2028', '\u2029'].contains c

/-- Separates words. -/
def isGap (c : Char) : Bool := c == ' ' || c == '\t' || isBreak c

/-- Needs no escape. -/
def isPrintable (c : Char) : Bool :=
  let n := c.toNat
  n == 0x0a || (0x20 ≤ n && n ≤ 0x7e) || (0xa0 ≤ n && n != 0xfeff && n != 0xfffe && n != 0xffff)

/-- What of a text decides how it can be written. -/
structure Traits where
  isMultiline : Bool
  isPlain : Bool
  isSingle : Bool
  isBlock : Bool
  deriving Repr, DecidableEq

/-- Every character with the one after it. -/
def pairs (cs : List Char) : List (Char × Char) := cs.zip (cs.drop 1)

/-- The first character gives the text a meaning of its own. -/
def opensMeaning : List Char → Bool
  | [] => false
  | c :: r =>
    ['#', ',', '[', ']', '\x7b', '\x7d', '&', '*', '!', '|', '>', '\'', '"', '%', '@',
      '`'].contains c ||
      (['?', ':', '-'].contains c && (r.head?.map isGap).getD true) ||
      ['-', '-', '-'].isPrefixOf (c :: r) || ['.', '.', '.'].isPrefixOf (c :: r)

/-- A mark inside would end the text. -/
def holdsMeaning (cs : List Char) : Bool :=
  (pairs cs).any (fun (a, b) => isGap a && b == '#') ||
    (pairs (cs.drop 1)).any (fun (a, b) => a == ':' && isGap b) ||
    (2 ≤ cs.length && cs.getLast? == some ':')

/-- Traits of a text. -/
def traits (cs : List Char) : Traits :=
  if cs = [] then ⟨false, true, true, false⟩
  else
    let ends := cs.head?.toList ++ cs.getLast?.toList
    let isMultiline := cs.any isBreak
    let breakSpace := (pairs cs).any fun (a, b) => isBreak a && b == ' '
    let spaceBreak := (pairs cs).any fun (a, b) => a == ' ' && isBreak b
    let special := cs.any (!isPrintable ·)
    { isMultiline
      isPlain :=
        !(ends.any fun c => c == ' ' || isBreak c) && !breakSpace && !spaceBreak && !special &&
        !isMultiline && !opensMeaning cs && !holdsMeaning cs
      isSingle := !breakSpace && !spaceBreak && !special
      isBlock := cs.getLast? != some ' ' && !spaceBreak && !special }

/-- Ways to write a text. -/
inductive Style where
  | plain
  | single
  | double
  | literal
  deriving Repr, DecidableEq

/-- Style of a text; a key stands on the line of its value. -/
def styleOf (isKey : Bool) (s : String) : Style :=
  let cs := s.toList
  let t := traits cs
  let quotes : Style := if t.isSingle then .single else .double
  if isKey ∧ t.isMultiline then .double
  else if cs.contains '\n' then
    if t.isBlock ∧ ¬ isKey then .literal else .double
  else
    let unsigned := match cs with
      | '-' :: r => r
      | '+' :: r => r
      | r => r
    if meaning s ≠ .text ∨ isPadded unsigned then quotes
    else if t.isPlain then .plain else quotes

/-- Upper-case hexadecimal digits of a number, at least `n`. -/
def hexText : Nat → Nat → List Char
  | 0, _ => []
  | n + 1, k =>
    hexText n (k / 16) ++
      [if k % 16 < 10 then Char.ofNat (48 + k % 16) else Char.ofNat (55 + k % 16)]

/-- A character between double quotes. -/
def escapeChar (c : Char) : List Char :=
  if c = '"' ∨ c = '\\' then ['\\', c]
  else if isPrintable c ∧ ¬ isBreak c then [c]
  else match c.toNat with
    | 0x00 => ['\\', '0']
    | 0x07 => ['\\', 'a']
    | 0x08 => ['\\', 'b']
    | 0x09 => ['\\', 't']
    | 0x0a => ['\\', 'n']
    | 0x0b => ['\\', 'v']
    | 0x0c => ['\\', 'f']
    | 0x0d => ['\\', 'r']
    | 0x1b => ['\\', 'e']
    | 0x85 => ['\\', 'N']
    | 0x2028 => ['\\', 'L']
    | 0x2029 => ['\\', 'P']
    | n =>
      if n ≤ 0xff then '\\' :: 'x' :: hexText 2 n
      else if n ≤ 0xffff then '\\' :: 'u' :: hexText 4 n
      else '\\' :: 'U' :: hexText 8 n

/-- Blanks up to a column. -/
def blanks (n : Nat) : List Char := List.replicate n ' '

/-- Characters with blanks before the first one of every line; `fresh` at the start of a line. -/
def indented (n : Nat) (fresh : Bool) (quote : Char → List Char) : List Char → List Char
  | [] => []
  | c :: r =>
    if isBreak c then c :: indented n true quote r
    else (if fresh then blanks n else []) ++ quote c ++ indented n false quote r

/-- What a literal block says of its first and last lines. -/
def blockHints (cs : List Char) : List Char :=
  let first := (cs.head?.map fun c => c == ' ' || isBreak c).getD false
  let last := (cs.getLast?.map isBreak).getD false
  let secondLast := (cs.dropLast.getLast?.map isBreak).getD true
  (if first then ['2'] else []) ++ (if !last then ['-'] else if secondLast then ['+'] else [])

/-- A text below the level at column `n`, with the end of its line. -/
def textChars (n : Nat) (isKey : Bool) (s : String) : List Char :=
  let cs := s.toList
  match styleOf isKey s with
  | .plain => cs
  | .single =>
    '\'' :: indented (n + 2) false (fun c => if c = '\'' then ['\'', '\''] else [c]) cs ++
      (if (cs.getLast?.map isBreak).getD false then blanks (n + 2) else []) ++ ['\'']
  | .double => '"' :: cs.flatMap escapeChar ++ ['"']
  | .literal => '|' :: blockHints cs ++ '\n' :: indented (n + 2) true (fun c => [c]) cs

/-- The line is at its end already. -/
def isEnded (s : String) : Bool :=
  styleOf false s == .literal && ((s.toList.getLast?.map isBreak).getD false)

/-- A text and the end of its line. -/
def textLine (n : Nat) (s : String) : List Char :=
  textChars n false s ++ if isEnded s then [] else ['\n']

/-- Longest key in bytes that stands on the line of its value. -/
def keyLimit : Nat := 128

/-- The key stands on the line of its value. -/
def isSimpleKey (k : String) : Bool := !(traits k.toList).isMultiline && k.utf8ByteSize ≤ keyLimit

/-- A number. -/
def numberText : Json.Number → String
  | .int n => toString n
  | .real x => realLayout.text ".nan" ".inf" x

mutual
/-- A value after a mark, at column `n`, with the end of its line. -/
def chars (n : Nat) : Json → List Char
  | .null => "null\n".toList
  | .bool true => "true\n".toList
  | .bool false => "false\n".toList
  | .num k => (numberText k).toList ++ ['\n']
  | .str s => textLine (n - 2) s
  | .arr [] => "[]\n".toList
  | .arr (v :: r) => '-' :: ' ' :: chars (n + 2) v ++ itemChars n r
  | .obj [] => "\x7b\x7d\n".toList
  | .obj ((k, v) :: r) =>
    (if isSimpleKey k then textChars n true k ++ ':' :: afterKey n v
      else '?' :: ' ' :: textLine n k ++ blanks n ++ ':' :: ' ' :: chars (n + 2) v) ++
        fieldChars n r

/-- Items on lines of their own. -/
def itemChars (n : Nat) : List Json → List Char
  | [] => []
  | v :: r => blanks n ++ '-' :: ' ' :: chars (n + 2) v ++ itemChars n r

/-- A value after the key of a mapping at column `n`. -/
def afterKey (n : Nat) : Json → List Char
  | .arr (v :: r) => '\n' :: blanks n ++ '-' :: ' ' :: chars (n + 2) v ++ itemChars n r
  | .obj ((k, v) :: r) =>
    '\n' :: blanks (n + 2) ++
      (if isSimpleKey k then textChars (n + 2) true k ++ ':' :: afterKey (n + 2) v
        else '?' :: ' ' :: textLine (n + 2) k ++ blanks (n + 2) ++ ':' :: ' ' :: chars (n + 4) v) ++
      fieldChars (n + 2) r
  | .str s => ' ' :: textLine n s
  | .arr [] => " []\n".toList
  | .obj [] => " \x7b\x7d\n".toList
  | .null => " null\n".toList
  | .bool true => " true\n".toList
  | .bool false => " false\n".toList
  | .num k => ' ' :: (numberText k).toList ++ ['\n']

/-- Fields on lines of their own. -/
def fieldChars (n : Nat) : List (String × Json) → List Char
  | [] => []
  | (k, v) :: r =>
    blanks n ++
      (if isSimpleKey k then textChars n true k ++ ':' :: afterKey n v
        else '?' :: ' ' :: textLine n k ++ blanks n ++ ':' :: ' ' :: chars (n + 2) v) ++
      fieldChars n r
end

end Printer

/-- Text of a value. -/
def print (v : Json) : String := String.ofList (Printer.chars 0 v)

end Fleet.Yaml
