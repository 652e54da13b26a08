import Fleet.Decimal.Layout
import Fleet.Json.Basic

/-!
# Compact JSON text

No blanks between tokens; the quote, the backslash and controls are escaped, all else is written as
it is.

Whole numbers are printed by their digits, doubles by the shortest decimal that reads as the same
double. JSON has no text for what is no number or infinite; both are printed as `null`.
-/

namespace Fleet.Json

/-- Doubles: positional from `1e-5` up to below `1e16`, exponents with a sign. -/
def realLayout : Decimal.Layout := ⟨-5, 16, "e", "e+"⟩

/-- One lower-case hexadecimal digit. -/
def hexDigit (n : Nat) : Char := if n < 10 then Char.ofNat (48 + n) else Char.ofNat (87 + n)

/-- One character inside a JSON string. -/
def escapeChar (c : Char) : List Char :=
  if c = '"' then ['\\', '"']
  else if c = '\\' then ['\\', '\\']
  else if c = '\n' then ['\\', 'n']
  else if c = '\r' then ['\\', 'r']
  else if c = '\t' then ['\\', 't']
  else if c = '\x08' then ['\\', 'b']
  else if c = '\x0c' then ['\\', 'f']
  else if c.toNat < 0x20 then
    ['\\', 'u', '0', '0', hexDigit (c.toNat / 16), hexDigit (c.toNat % 16)]
  else [c]

/-- A JSON string. -/
def stringText (s : String) : List Char := '"' :: s.toList.flatMap escapeChar ++ ['"']

/-- A JSON number; a double that is no number is written as null. -/
def Number.text : Number → String
  | .int n => String.ofList (Decimal.intText n)
  | .real x => match x with
    | .finite _ _ => realLayout.text "null" "null" x
    | _ => "null"

mutual
/-- Characters of a value. -/
def chars : Json → List Char
  | .null => ['n', 'u', 'l', 'l']
  | .bool true => ['t', 'r', 'u', 'e']
  | .bool false => ['f', 'a', 'l', 's', 'e']
  | .num n => n.text.toList
  | .str s => stringText s
  | .arr items => '[' :: itemChars true items
  | .obj fields => '{' :: fieldChars true fields

/-- Items with commas between them, and the closing bracket. -/
def itemChars (first : Bool) : List Json → List Char
  | [] => [']']
  | v :: r => (if first then [] else [',']) ++ chars v ++ itemChars false r

/-- Fields with commas between them, and the closing brace. -/
def fieldChars (first : Bool) : List (String × Json) → List Char
  | [] => ['}']
  | (k, v) :: r =>
    (if first then [] else [',']) ++ stringText k ++ ':' :: chars v ++ fieldChars false r
end

/-- Compact text of a value. -/
def compact (v : Json) : String := String.ofList (chars v)

end Fleet.Json
