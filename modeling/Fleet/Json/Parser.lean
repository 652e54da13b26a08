import Fleet.Json.Number

/-!
# Reading JSON text

A reader over characters. Nesting deeper than 127 is refused, and so is anything but blanks after
the value.

Escapes of two units make one character where the first unit is the front half of a pair; a half
without the other one is refused. An object may give a key again: the value as written keeps every
field (`parseWritten?`), the canonical one the last of a key (`parse?`).
-/

namespace Fleet.Json

/-- Blanks between tokens. -/
def isGap (c : Char) : Bool := c == ' ' || c == '\n' || c == '\t' || c == '\r'

/-- Characters from the first that is no gap. -/
def skipGap (cs : List Char) : List Char := cs.dropWhile isGap

/-- Value of a hexadecimal digit. -/
def hexValue? (c : Char) : Option Nat :=
  if '0' ≤ c ∧ c ≤ '9' then some (c.toNat - 48)
  else if 'a' ≤ c ∧ c ≤ 'f' then some (c.toNat - 87)
  else if 'A' ≤ c ∧ c ≤ 'F' then some (c.toNat - 55)
  else none

/-- Four hexadecimal digits. -/
def unit? : List Char → Option (Nat × List Char)
  | a :: b :: c :: d :: r => do
    let a ← hexValue? a
    let b ← hexValue? b
    let c ← hexValue? c
    let d ← hexValue? d
    some (a * 4096 + b * 256 + c * 16 + d, r)
  | _ => none

/-- The character after a backslash; surrogates come in pairs. -/
def escape? : List Char → Option (Char × List Char)
  | '"' :: r => some ('"', r)
  | '\\' :: r => some ('\\', r)
  | '/' :: r => some ('/', r)
  | 'b' :: r => some ('\x08', r)
  | 'f' :: r => some ('\x0c', r)
  | 'n' :: r => some ('\n', r)
  | 'r' :: r => some ('\r', r)
  | 't' :: r => some ('\t', r)
  | 'u' :: r => do
    let (u, r) ← unit? r
    if 0xDC00 ≤ u ∧ u ≤ 0xDFFF then none
    else if 0xD800 ≤ u ∧ u ≤ 0xDBFF then
      match r with
      | '\\' :: 'u' :: r => do
        let (v, r) ← unit? r
        if 0xDC00 ≤ v ∧ v ≤ 0xDFFF then
          some (Char.ofNat (0x10000 + (u - 0xD800) * 1024 + (v - 0xDC00)), r)
        else none
      | _ => none
    else some (Char.ofNat u, r)
  | _ => none

/-- Characters of a string after its opening quote. -/
def stringBody? : Nat → List Char → Option (List Char × List Char)
  | 0, _ => none
  | _ + 1, [] => none
  | fuel + 1, c :: r =>
    if c = '"' then some ([], r)
    else if c = '\\' then do
      let (x, r) ← escape? r
      let (xs, r) ← stringBody? fuel r
      some (x :: xs, r)
    else if c.toNat < 0x20 then none
    else do
      let (xs, r) ← stringBody? fuel r
      some (c :: xs, r)

/-- A literal word and what follows it. -/
def word? (w : List Char) (cs : List Char) : Option (List Char) :=
  if w.isPrefixOf cs then some (cs.drop w.length) else none

mutual
/-- A value at a nesting depth that leaves `depth` levels. -/
def value? : Nat → Nat → List Char → Option (Json × List Char)
  | 0, _, _ => none
  | fuel + 1, depth, cs =>
    match skipGap cs with
    | '"' :: r => do
      let (s, r) ← stringBody? (r.length + 1) r
      some (.str (String.ofList s), r)
    | '[' :: r =>
      if depth ≤ 1 then none
      else match skipGap r with
        | ']' :: r => some (.arr [], r)
        | r => do
          let (items, r) ← items? fuel (depth - 1) r
          some (.arr items, r)
    | '\x7b' :: r =>
      if depth ≤ 1 then none
      else match skipGap r with
        | '\x7d' :: r => some (.obj [], r)
        | r => do
          let (fields, r) ← fields? fuel (depth - 1) r
          some (.obj fields, r)
    | 'n' :: r => (word? ['u', 'l', 'l'] r).map (.null, ·)
    | 't' :: r => (word? ['r', 'u', 'e'] r).map (.bool true, ·)
    | 'f' :: r => (word? ['a', 'l', 's', 'e'] r).map (.bool false, ·)
    | cs => (number? cs).map fun (n, r) => (.num n, r)

/-- Items up to the closing bracket. -/
def items? : Nat → Nat → List Char → Option (List Json × List Char)
  | 0, _, _ => none
  | fuel + 1, depth, cs => do
    let (v, r) ← value? fuel depth cs
    match skipGap r with
    | ']' :: r => some ([v], r)
    | ',' :: r => do
      let (vs, r) ← items? fuel depth r
      some (v :: vs, r)
    | _ => none

/-- Fields up to the closing brace. -/
def fields? : Nat → Nat → List Char → Option (List (String × Json) × List Char)
  | 0, _, _ => none
  | fuel + 1, depth, cs =>
    match skipGap cs with
    | '"' :: r => do
      let (k, r) ← stringBody? (r.length + 1) r
      match skipGap r with
      | ':' :: r => do
        let (v, r) ← value? fuel depth r
        match skipGap r with
        | '\x7d' :: r => some ([(String.ofList k, v)], r)
        | ',' :: r => do
          let (vs, r) ← fields? fuel depth r
          some ((String.ofList k, v) :: vs, r)
        | _ => none
      | _ => none
    | _ => none
end

/-- The whole text as one value, fields in the order written. -/
def parseWritten? (s : String) : Option Json := do
  let cs := s.toList
  let (v, r) ← value? (2 * cs.length + 2) 128 cs
  if (skipGap r).isEmpty then some v else none

/-- The whole text as one canonical value; the last of equal keys counts. -/
def parse? (s : String) : Option Json := (parseWritten? s).map canonical

end Fleet.Json
