/-!
# Percent encoding

Characters of a set, and all outside ASCII, are written as the hexadecimal values of their bytes.
Every part of a URL has a set of its own.

A set tells which characters are encoded, besides all outside ASCII. Decoding, by bytes, is there
for what is read of names in an authority.
-/

namespace Fleet.Url

/-- Characters that a part of a URL does not hold as they are; those outside ASCII it never
holds. -/
abbrev EncodeSet := Char → Bool

/-- Control characters. -/
def controls : EncodeSet := fun c => c.toNat < 0x20 || c.toNat == 0x7f

/-- Set of fragments. -/
def fragmentSet : EncodeSet := fun c => controls c || [' ', '"', '<', '>', '`'].contains c

/-- Set of queries. -/
def querySet : EncodeSet := fun c => controls c || [' ', '"', '#', '<', '>'].contains c

/-- Set of queries of special schemes. -/
def specialQuerySet : EncodeSet := fun c => querySet c || c == '\''

/-- Set of paths. -/
def pathSet : EncodeSet := fun c => fragmentSet c || ['#', '?', '\x7b', '\x7d'].contains c

/-- Set of user names and passwords. -/
def userSet : EncodeSet := fun c =>
  pathSet c || ['/', ':', ';', '=', '@', '[', '\\', ']', '^', '|'].contains c

/-- Set of single segments of a path. -/
def segmentSet (special : Bool) : EncodeSet := fun c =>
  pathSet c || c == '/' || c == '%' || (special && c == '\\')

/-- Upper-case hexadecimal digit. -/
def hexDigit (n : Nat) : Char := if n < 10 then Char.ofNat (48 + n) else Char.ofNat (55 + n)

/-- A byte after a percent sign. -/
def encodeByte (b : UInt8) : List Char := ['%', hexDigit (b.toNat / 16), hexDigit (b.toNat % 16)]

/-- One character in a part with a set. -/
def encodeChar (set : EncodeSet) (c : Char) : List Char :=
  if set c || 0x80 ≤ c.toNat then (String.singleton c).toUTF8.toList.flatMap encodeByte else [c]

/-- Characters in a part with a set. -/
def encode (set : EncodeSet) (cs : List Char) : List Char := cs.flatMap (encodeChar set)

/-- One character of a form value: a space is a plus sign, and few marks stay. -/
def encodeFormChar (c : Char) : List Char :=
  if c = ' ' then ['+']
  else if c.isAlphanum || ['*', '-', '.', '_'].contains c then [c]
  else (String.singleton c).toUTF8.toList.flatMap encodeByte

/-- A form value. -/
def encodeForm (s : String) : String := String.ofList (s.toList.flatMap encodeFormChar)

/-- Value of a hexadecimal digit. -/
def hexValue? (c : Char) : Option Nat :=
  if c.isDigit then some (c.toNat - 48)
  else if 'a' ≤ c ∧ c ≤ 'f' then some (c.toNat - 87)
  else if 'A' ≤ c ∧ c ≤ 'F' then some (c.toNat - 55)
  else none

/-- Bytes of characters, with percent signs that stand for bytes undone. -/
def decodeBytes : List Char → List UInt8
  | [] => []
  | '%' :: a :: b :: r =>
    match hexValue? a, hexValue? b with
    | some x, some y => UInt8.ofNat (x * 16 + y) :: decodeBytes r
    | _, _ => 0x25 :: decodeBytes (a :: b :: r)
  | c :: r => (String.singleton c).toUTF8.toList ++ decodeBytes r

end Fleet.Url
