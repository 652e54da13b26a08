/-!
# Base64

The standard alphabet with padding in its one proper form. An error says which byte is to blame and
where.

Decoding goes group by group of four symbols (`quads`). The last group may be shorter or padded, and
is read with the place of each symbol at hand (`readTail`), since what is said about a malformed one
depends on which symbol is wrong and on what was expected there.
-/

namespace Fleet.Base64

/-- Why bytes are no encoding. -/
inductive Error where
  | symbol (byte offset : Nat)
  | length (count : Nat)
  | lastSymbol (byte offset : Nat)
  | padding
  deriving Repr, DecidableEq

/-- Wording. -/
def Error.message : Error → String
  | symbol b o => "Invalid symbol " ++ toString b ++ ", offset " ++ toString o ++ "."
  | length n => "Invalid input length: " ++ toString n
  | lastSymbol b o => "Invalid last symbol " ++ toString b ++ ", offset " ++ toString o ++ "."
  | padding => "Invalid padding"

/-- The padding byte. -/
def pad : Nat := 61

/-- Six bits of a symbol. -/
def sextet? (b : Nat) : Option Nat :=
  if 65 ≤ b ∧ b ≤ 90 then some (b - 65)
  else if 97 ≤ b ∧ b ≤ 122 then some (b - 71)
  else if 48 ≤ b ∧ b ≤ 57 then some (b + 4)
  else if b = 43 then some 62
  else if b = 47 then some 63
  else none

/-- Bytes of four sextets. -/
def bytesOf (a b c d : Nat) : List Nat :=
  let n := ((a * 64 + b) * 64 + c) * 64 + d
  [n / 65536 % 256, n / 256 % 256, n % 256]

/-- Sextet of the symbol at an offset. -/
def sextet (b offset : Nat) : Except Error Nat :=
  match sextet? b with
  | some s => .ok s
  | none => .error (.symbol b offset)

/-- Groups of four symbols, the first at an offset. -/
def quads : Nat → List Nat → Except Error (List Nat)
  | o, a :: b :: c :: d :: r => do
    let w ← sextet a o
    let x ← sextet b (o + 1)
    let y ← sextet c (o + 2)
    let z ← sextet d (o + 3)
    return bytesOf w x y z ++ (← quads (o + 4) r)
  | _, _ => .ok []

/-- Symbols and padding of the last group: the sextets, the last symbol, the number of padding bytes
and where they begin; `i` counts inside the group, which starts at offset `o`. -/
structure Tail where
  sextets : List Nat
  last : Nat
  pads : Nat
  firstPad : Nat

/-- The last group read. -/
def readTail (o : Nat) : Nat → Tail → List Nat → Except Error Tail
  | _, t, [] => .ok t
  | i, t, b :: r =>
    if b = pad then
      if i < 2 then .error (.symbol b (o + i))
      else readTail o (i + 1)
        { t with pads := t.pads + 1, firstPad := if t.pads = 0 then i else t.firstPad } r
    else if 0 < t.pads then .error (.symbol pad (o + t.firstPad))
    else match sextet? b with
      | some s => readTail o (i + 1) { t with sextets := t.sextets ++ [s], last := b } r
      | none => .error (.symbol b (o + i))

/-- Bytes of the last group. -/
def closing (o : Nat) (isEmpty : Bool) (t : Tail) : Except Error (List Nat) :=
  let n := t.sextets.length
  if !isEmpty ∧ n < 2 then .error (.length (o + n))
  else if (t.pads + n) % 4 ≠ 0 then .error .padding
  else
    let bytes := bytesOf (t.sextets.getD 0 0) (t.sextets.getD 1 0) (t.sextets.getD 2 0)
      (t.sextets.getD 3 0)
    let kept := n * 6 / 8
    if (bytes.drop kept).any (· ≠ 0) then .error (.lastSymbol t.last (o + n - 1))
    else .ok (bytes.take kept)

/-- Bytes that an encoding stands for. -/
def decode (bs : List Nat) : Except Error (List Nat) := do
  let len := bs.length
  let left := len % 4
  match left, bs.getLast? with
  | 1, some b =>
    if b ≠ pad ∧ (sextet? b).isNone then .error (.symbol b (len - 1)) else .ok ()
  | _, _ => .ok ()
  let body := len - left - (if left = 0 then 4 else 0)
  let front ← quads 0 (bs.take body)
  let t ← readTail body 0 ⟨[], 0, 0, 0⟩ (bs.drop body)
  return front ++ (← closing body bs.isEmpty t)

/-- Symbol of six bits. -/
def symbol (n : Nat) : Char :=
  if n < 26 then Char.ofNat (n + 65)
  else if n < 52 then Char.ofNat (n + 71)
  else if n < 62 then Char.ofNat (n - 4)
  else if n = 62 then '+' else '/'

/-- Symbols of bytes, three at a time. -/
def symbols : List UInt8 → List Char
  | [] => []
  | [a] => [symbol (a.toNat / 4), symbol (a.toNat % 4 * 16), '=', '=']
  | [a, b] =>
    [symbol (a.toNat / 4), symbol (a.toNat % 4 * 16 + b.toNat / 16), symbol (b.toNat % 16 * 4), '=']
  | a :: b :: c :: r =>
    symbol (a.toNat / 4) :: symbol (a.toNat % 4 * 16 + b.toNat / 16) ::
      symbol (b.toNat % 16 * 4 + c.toNat / 64) :: symbol (c.toNat % 64) :: symbols r

/-- Text that stands for bytes. -/
def encode (bytes : List UInt8) : String := String.ofList (symbols bytes)

end Fleet.Base64
