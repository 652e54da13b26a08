import Fleet.Decimal.Reading
import Fleet.Toml.Quoted
import Fleet.Toml.Value

/-!
# Numbers and moments of TOML

Digits may be grouped by single underscores. A whole number takes 64 bits with sign.

A number may be written in four bases, a real one with a fraction or an exponent, and dates and
times with or without an offset. Moments are read for the sake of what stands behind them: no
setting has one, so what they say is not kept.
-/

namespace Fleet.Toml

open Text (Reader)

/-- Value of a digit in a base. -/
def digitIn? (base : Nat) (c : Char) : Option Nat := (hexValue? c).filter (· < base)

/-- Digits of a base, single underscores between them. -/
def groupedDigits (base : Nat) : Nat → Reader (List Nat)
  | 0 => failure
  | fuel + 1 => do
    match digitIn? base (← Reader.next) with
    | none => failure
    | some d =>
      match (← Reader.peek) with
      | some '_' => do
        Reader.skip 1
        pure (d :: (← groupedDigits base fuel))
      | some c =>
        if (digitIn? base c).isSome then pure (d :: (← groupedDigits base fuel)) else pure [d]
      | none => pure [d]

/-- Digits of a base, as many as there are. -/
def digitsIn (base : Nat) : Reader (List Nat) := do
  groupedDigits base ((← Reader.rest).length + 1)

/-- A sign, true for minus. -/
def sign : Reader Bool := do
  if ← Reader.accept ['-'] then pure true
  else do
    let _ ← Reader.accept ['+']
    pure false

/-- Whole digits of a decimal number: no zero in front of others. -/
def wholeDigits : Reader (List Nat) := do
  if ← Reader.accept ['0'] then pure [0] else digitsIn 10

/-- A whole number that fits 64 bits with sign. -/
def whole (negative : Bool) (n : Nat) : Reader Value := do
  guard (if negative then n ≤ Nat.pow 2 63 else n < Nat.pow 2 63)
  pure (.int (if negative then -(n : Int) else n))

/-- Number of digits of a base. -/
def ofBase (base : Nat) (ds : List Nat) : Nat := ds.foldl (fun n d => n * base + d) 0

/-- The exponent after its mark. -/
def exponent : Reader Int := do
  let down ← sign
  let n := Decimal.ofDigits (← digitsIn 10)
  pure (if down then -(n : Int) else n)

/-- A double; one above every double is refused. -/
def real (negative : Bool) (whole part : List Nat) (exponent : Int) : Reader Value := do
  let x := Decimal.toDouble negative (Decimal.ofDigits (whole ++ part)) (exponent - part.length)
  guard (x ≠ .infinite false)
  pure (.real x)

/-- A number written with decimal digits. -/
def decimal : Reader Value := do
  let negative ← sign
  if ← Reader.accept ['i', 'n', 'f'] then pure (.real (.infinite negative))
  else if ← Reader.accept ['n', 'a', 'n'] then pure (.real .nan)
  else do
    let ds ← wholeDigits
    let isExponent (c : Option Char) : Bool := c == some 'e' || c == some 'E'
    if ← Reader.accept ['.'] then do
      let part ← digitsIn 10
      if isExponent (← Reader.peek) then do
        Reader.skip 1
        real negative ds part (← exponent)
      else real negative ds part 0
    else if isExponent (← Reader.peek) then do
      Reader.skip 1
      real negative ds [] (← exponent)
    else whole negative (Decimal.ofDigits ds)

/-- A number of given digits only. -/
def fixed (count : Nat) : Reader Nat := do
  let cs := (← Reader.rest).take count
  guard (cs.length = count ∧ cs.all Char.isDigit)
  Reader.skip count
  pure (Decimal.ofDigits (cs.filterMap hexValue?))

/-- A number of two digits in a range. -/
def two (least most : Nat) : Reader Nat := do
  let n ← fixed 2
  guard (least ≤ n ∧ n ≤ most)
  pure n

/-- Days of a month. -/
def daysIn (year month : Nat) : Nat :=
  if month = 2 then
    if year % 4 = 0 ∧ (year % 100 ≠ 0 ∨ year % 400 = 0) then 29 else 28
  else if month = 4 ∨ month = 6 ∨ month = 9 ∨ month = 11 then 30
  else 31

/-- Hour, minute, second and fraction. -/
def time : Reader Unit := do
  let _ ← two 0 23
  Reader.expect [':']
  let _ ← two 0 59
  Reader.expect [':']
  let _ ← two 0 60
  if ← Reader.accept ['.'] then do
    guard (((← Reader.peek).map Char.isDigit) = some true)
    let _ ← Reader.takeWhile Char.isDigit

/-- Distance from universal time, if there is one. -/
def offset : Reader Unit := do
  match ← Reader.peek with
  | some 'Z' => Reader.skip 1
  | some 'z' => Reader.skip 1
  | some c =>
    if c = '+' ∨ c = '-' then do
      Reader.skip 1
      let _ ← two 0 23
      Reader.expect [':']
      let _ ← two 0 59
  | none => pure ()

/-- A date, with a time after it or not. -/
def date : Reader Unit := do
  let year ← fixed 4
  Reader.expect ['-']
  let month ← two 1 12
  Reader.expect ['-']
  let _ ← two 1 (daysIn year month)
  match ← Reader.rest with
  | c :: a :: b :: ':' :: _ =>
    if (c = 'T' ∨ c = 't' ∨ c = ' ') ∧ a.isDigit ∧ b.isDigit then do
      Reader.skip 1
      time
      offset
  | _ => pure ()

/-- A number or a moment. -/
def numberOrMoment : Reader Value := do
  match ← Reader.rest with
  | '0' :: 'x' :: _ => do
    Reader.skip 2
    whole false (ofBase 16 (← digitsIn 16))
  | '0' :: 'o' :: _ => do
    Reader.skip 2
    whole false (ofBase 8 (← digitsIn 8))
  | '0' :: 'b' :: _ => do
    Reader.skip 2
    whole false (ofBase 2 (← digitsIn 2))
  | a :: b :: ':' :: _ =>
    if a.isDigit ∧ b.isDigit then do
      time
      pure .moment
    else decimal
  | a :: b :: c :: d :: '-' :: _ =>
    if [a, b, c, d].all Char.isDigit then do
      date
      pure .moment
    else decimal
  | _ => decimal

end Fleet.Toml
