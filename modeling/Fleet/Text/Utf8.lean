/-!
# Reading UTF-8

Bytes become text strictly, or with a replacement character for every longest run of bytes that
starts a character and does not finish it.

Every form of a longer character has its ranges of first and second bytes, which rule out
surrogates, overlong forms and what lies above the last code point.
-/

namespace Fleet.Text

/-- One row of the syntax of longer characters: first byte, second byte, number of bytes after
them. -/
structure ByteForm where
  first : Nat × Nat
  second : Nat × Nat
  more : Nat

/-- Characters of two to four bytes. -/
def byteForms : List ByteForm := [
  ⟨(0xc2, 0xdf), (0x80, 0xbf), 0⟩, ⟨(0xe0, 0xe0), (0xa0, 0xbf), 1⟩, ⟨(0xe1, 0xec), (0x80, 0xbf), 1⟩,
  ⟨(0xed, 0xed), (0x80, 0x9f), 1⟩, ⟨(0xee, 0xef), (0x80, 0xbf), 1⟩, ⟨(0xf0, 0xf0), (0x90, 0xbf), 2⟩,
  ⟨(0xf1, 0xf3), (0x80, 0xbf), 2⟩, ⟨(0xf4, 0xf4), (0x80, 0x8f), 2⟩]

/-- A number in a closed range. -/
def within (range : Nat × Nat) (n : Nat) : Bool := decide (range.1 ≤ n ∧ n ≤ range.2)

/-- Value of a character from its first byte and the later ones. -/
def assemble (first : Nat) (later : List Nat) : Nat :=
  let head := match later.length with
    | 1 => first % 0x20
    | 2 => first % 0x10
    | _ => first % 0x08
  later.foldl (fun n b => n * 0x40 + b % 0x40) head

/-- Stands for bytes that are no character. -/
def replacement : Char := '\ufffd'

/-- The first character of a non-empty byte sequence and the number of bytes it takes. -/
def firstChar (b : Nat) (rest : List Nat) : Char × Nat :=
  if b < 0x80 then (Char.ofNat b, 1)
  else match byteForms.find? (fun f => within f.first b), rest with
    | some f, s :: rest =>
      if within f.second s then
        let tail := (rest.take f.more).takeWhile (within (0x80, 0xbf))
        if tail.length = f.more then (Char.ofNat (assemble b (s :: tail)), 2 + f.more)
        else (replacement, 2 + tail.length)
      else (replacement, 1)
    | _, _ => (replacement, 1)

/-- Characters of a byte sequence; `fuel` bounds their number. -/
def lossyChars : Nat → List Nat → List Char
  | 0, _ => []
  | _ + 1, [] => []
  | fuel + 1, b :: r =>
    let (c, n) := firstChar b r
    c :: lossyChars fuel (r.drop (n - 1))

/-- Text of bytes, with replacement characters. -/
def lossy (bytes : ByteArray) : String :=
  match String.fromUTF8? bytes with
  | some s => s
  | none => String.ofList (lossyChars bytes.size (bytes.toList.map (·.toNat)))

end Fleet.Text
