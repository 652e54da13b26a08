import Fleet.Text.Split
import Fleet.Text.Unseen
import Fleet.Text.Utf8

/-!
# Domain names

Names are lower-cased; a label outside ASCII is written in ASCII after a mark, the code points as
differences in a number system of 36 digits.

Only characters that a lower-case mapping settles are taken outside ASCII. A label that carries the
mark must be decoded and encoded to itself.
-/

namespace Fleet.Url

/-! ## Labels in ASCII -/

/-- Digit of a value below 36. -/
def labelDigit (n : Nat) : Char := if n < 26 then Char.ofNat (97 + n) else Char.ofNat (22 + n)

/-- Value of a digit. -/
def labelValue? (c : Char) : Option Nat :=
  if 'a' ≤ c ∧ c ≤ 'z' then some (c.toNat - 97)
  else if 'A' ≤ c ∧ c ≤ 'Z' then some (c.toNat - 65)
  else if c.isDigit then some (c.toNat - 22)
  else none

/-- Part of the next bias that large differences add. -/
def biasSteps : Nat → Nat → Nat → Nat × Nat
  | 0, delta, k => (delta, k)
  | fuel + 1, delta, k => if 455 < delta then biasSteps fuel (delta / 35) (k + 36) else (delta, k)

/-- Bias after a difference. -/
def adapt (delta points : Nat) (first : Bool) : Nat :=
  let delta := if first then delta / 700 else delta / 2
  let (delta, k) := biasSteps 64 (delta + delta / points) 0
  k + 36 * delta / (delta + 38)

/-- Threshold at a position. -/
def threshold (k bias : Nat) : Nat := if k ≤ bias then 1 else if bias + 26 ≤ k then 26 else k - bias

/-- Digits of a difference from a position on. -/
def differenceDigits (bias : Nat) : Nat → Nat → Nat → List Char
  | 0, _, _ => []
  | fuel + 1, k, q =>
    let t := threshold k bias
    if q < t then [labelDigit q]
    else labelDigit (t + (q - t) % (36 - t)) ::
      differenceDigits bias fuel (k + 36) ((q - t) / (36 - t))

/-- State of encoding: number of characters handled, difference, bias. -/
structure Encoding where
  handled : Nat
  delta : Nat
  bias : Nat
  out : List Char

/-- All characters with one code point, those below it counted on the way. -/
def encodePoint (basic n : Nat) (e : Encoding) (points : List Nat) : Encoding :=
  points.foldl (fun e p =>
    if p < n then { e with delta := e.delta + 1 }
    else if p = n then
      { handled := e.handled + 1
        delta := 0
        bias := adapt e.delta (e.handled + 1) (e.handled == basic)
        out := e.out ++ differenceDigits e.bias 64 36 e.delta }
    else e) e

/-- Rounds over the code points in increasing order. -/
def encodeRounds (basic : Nat) (points : List Nat) : Nat → Nat → Encoding → Encoding
  | 0, _, e => e
  | fuel + 1, n, e =>
    match (points.filter (n ≤ ·)).min? with
    | none => e
    | some m =>
      let e := { e with delta := e.delta + (m - n) * (e.handled + 1) }
      let e := encodePoint basic m e points
      encodeRounds basic points fuel (m + 1) { e with delta := e.delta + 1 }

/-- ASCII form of a label, without the mark. -/
def encodeLabel (cs : List Char) : List Char :=
  let basic := cs.filter (·.toNat < 128)
  let start := if basic = [] then [] else basic ++ ['-']
  let e := encodeRounds basic.length (cs.map Char.toNat) (cs.length + 1) 128
    ⟨basic.length, 0, 72, start⟩
  e.out

/-- A difference from its digits: the value and what follows. -/
def readDifference (bias : Nat) : Nat → Nat → Nat → Nat → List Char → Option (Nat × List Char)
  | 0, _, _, _, _ => none
  | _ + 1, _, _, _, [] => none
  | fuel + 1, k, w, i, c :: r => do
    let d ← labelValue? c
    let i := i + d * w
    let t := threshold k bias
    if d < t then some (i, r) else readDifference bias fuel (k + 36) (w * (36 - t)) i r

/-- Characters set into a label by their differences. -/
def decodeRounds : Nat → Nat → Nat → Nat → List Char → List Char → Option (List Char)
  | 0, _, _, _, _, _ => none
  | _ + 1, _, _, _, out, [] => some out
  | fuel + 1, n, i, bias, out, cs => do
    let (j, r) ← readDifference bias 64 36 1 i cs
    let len := out.length + 1
    let n := n + j / len
    guard n.isValidChar
    let at_ := j % len
    decodeRounds fuel n (at_ + 1) (adapt (j - i) len (i == 0))
      (out.take at_ ++ Char.ofNat n :: out.drop at_) r

/-- Label of an ASCII form without the mark. -/
def decodeLabel? (cs : List Char) : Option (List Char) :=
  let back := cs.reverse
  let tail := (back.takeWhile (· ≠ '-')).reverse
  let basic := ((back.dropWhile (· ≠ '-')).drop 1).reverse
  decodeRounds (cs.length + 1) 128 0 72 basic (if back.contains '-' then tail else cs)

/-! ## Names -/

/-- Characters that no name holds. -/
def isForbidden (c : Char) : Bool :=
  c.toNat ≤ 0x20 || c.toNat == 0x7f ||
    ['%', '#', '/', ':', '<', '>', '?', '@', '[', '\\', ']', '^', '|'].contains c

/-- A letter without case distinction. -/
def lowerCase (c : Char) : Char :=
  let n := c.toNat
  let shift (d : Nat) : Char := Char.ofNat (n + d)
  if 0x41 ≤ n ∧ n ≤ 0x5a then shift 32
  else if 0xc0 ≤ n ∧ n ≤ 0xde ∧ n ≠ 0xd7 then shift 32
  else if (0x100 ≤ n ∧ n ≤ 0x12f) ∨ (0x132 ≤ n ∧ n ≤ 0x137) ∨ (0x14a ≤ n ∧ n ≤ 0x177) then
    if n % 2 = 0 then shift 1 else c
  else if (0x139 ≤ n ∧ n ≤ 0x148) ∨ (0x179 ≤ n ∧ n ≤ 0x17e) then if n % 2 = 1 then shift 1 else c
  else if 0x391 ≤ n ∧ n ≤ 0x3ab ∧ n ≠ 0x3a2 then shift 32
  else if 0x410 ≤ n ∧ n ≤ 0x42f then shift 32
  else if 0x400 ≤ n ∧ n ≤ 0x40f then shift 80
  else c

/-- What a character counts as in a name; none if it does not count. -/
def mapped (c : Char) : Option Char :=
  let n := c.toNat
  if n = 0xad ∨ n = 0x200b ∨ n = 0x2060 ∨ n = 0xfeff ∨ (0xfe00 ≤ n ∧ n ≤ 0xfe0f) then none
  else if n = 0x3002 ∨ n = 0xff0e ∨ n = 0xff61 then some '.'
  else if 0xff01 ≤ n ∧ n ≤ 0xff5e then some (lowerCase (Char.ofNat (n - 0xfee0)))
  else some (lowerCase c)

/-- The mark of a label in ASCII form. -/
def labelMark : List Char := ['x', 'n', '-', '-']

/-- ASCII form of a label; one that already has the mark must be the form of a label. -/
def asciiLabel? (cs : List Char) : Option (List Char) :=
  if cs.all (·.toNat < 128) then
    if labelMark.isPrefixOf cs then do
      let label ← decodeLabel? (cs.drop 4)
      guard (label.any (128 ≤ ·.toNat) ∧ encodeLabel label = cs.drop 4)
      guard (label.all fun c => mapped c == some c && !Text.isUnseen c)
      some cs
    else some cs
  else if cs.any Text.isUnseen then none
  else some (labelMark ++ encodeLabel cs)

/-- ASCII form of a name given by its bytes. -/
def asciiName? (bytes : List UInt8) : Option (List Char) := do
  let s ← String.fromUTF8? ⟨bytes.toArray⟩
  let cs := s.toList.filterMap mapped
  guard (!cs.any isForbidden)
  let labels ← (Text.splitChars '.' cs).mapM asciiLabel?
  some (labels.intersperse ['.']).flatten

end Fleet.Url
