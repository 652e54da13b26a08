import Fleet.Decimal.Reading
import Fleet.Json.Basic

/-!
# Reading JSON numbers

A whole number inside the 64-bit ranges stays whole. Any other number is a double: its first digits
that fit 64 bits, times or divided by one power of ten in double arithmetic. A magnitude above every
double is refused.

The digits of a real number are kept as far as they fit 64 bits, and those behind them only count
for the exponent (`leadingDigits`); the scaling by a power of ten is then done in doubles, in steps
where one power would be too large (`scaled?`). The result may differ in the last bit from the
nearest double, and is meant to.
-/

namespace Fleet.Json

/-- Largest whole number of 64 bits. -/
def maxWord : Nat := Nat.pow 2 64 - 1

/-- Value of a decimal digit. -/
def digit? (c : Char) : Option Nat :=
  if '0' ≤ c ∧ c ≤ '9' then some (c.toNat - 48) else none

/-- Ten to a power below 309. -/
def tenTo (n : Nat) : Double := .ofNat (Nat.pow 10 n)

/-- A significand times ten to `exponent`; `none` above every double. -/
def scaled? : Nat → Double → Int → Option Double
  | 0, f, _ => some f
  | fuel + 1, f, exponent =>
    if exponent.natAbs ≤ 308 then
      if 0 ≤ exponent then
        let g := f * tenTo exponent.natAbs
        if g.isInfinite then none else some g
      else some (f / tenTo exponent.natAbs)
    else if f.isZero then some f
    else if 0 ≤ exponent then none
    else scaled? fuel (f / tenTo 308) (exponent + 308)

/-- A signed double from its parts. -/
def realOf? (negative : Bool) (significand : Nat) (exponent : Int) : Option Number :=
  (scaled? (exponent.natAbs / 308 + 2) (.ofNat significand) exponent).map fun f =>
    .real (if negative then -f else f)

/-- Digits at the front, most significant first, and the rest. -/
def leadingDigits (cs : List Char) : List Nat × List Char :=
  (cs.takeWhile (digit? · |>.isSome) |>.filterMap digit?, cs.dropWhile (digit? · |>.isSome))

/-- Digits taken into a significand while it fits 64 bits; the number of digits left over. -/
def accumulate (start : Nat) : List Nat → Nat × Nat
  | [] => (start, 0)
  | d :: r =>
    if start * 10 + d ≤ maxWord then accumulate (start * 10 + d) r else (start, r.length + 1)

/-- The exponent after its mark, added to `shift`. -/
def exponentPart? (negative : Bool) (significand : Nat) (shift : Int) (cs : List Char) :
    Option (Number × List Char) :=
  let (down, cs) := match cs with
    | '-' :: r => (true, r)
    | '+' :: r => (false, r)
    | r => (false, r)
  match leadingDigits cs with
  | ([], _) => none
  | (ds, rest) =>
    let e := Decimal.ofDigits ds
    if e ≤ 2147483647 then
      (realOf? negative significand (if down then shift - Int.ofNat e else shift + Int.ofNat e)).map
        (·, rest)
    else if significand = 0 ∨ down then
      some (.real (.zero negative), rest)
    else none

/-- The part after the whole digits: a fraction, an exponent, both or neither. -/
def afterWhole? (negative : Bool) (significand : Nat) (dropped : Nat) (cs : List Char) :
    Option (Number × List Char) :=
  match cs with
  | '.' :: r =>
    match leadingDigits r with
    | ([], _) => none
    | (ds, rest) =>
      let (sig, left) := accumulate significand ds
      let shift : Int := dropped - (ds.length - left : Nat)
      match rest with
      | 'e' :: r' => exponentPart? negative sig shift r'
      | 'E' :: r' => exponentPart? negative sig shift r'
      | _ => (realOf? negative sig shift).map (·, rest)
  | 'e' :: r => exponentPart? negative significand dropped r
  | 'E' :: r => exponentPart? negative significand dropped r
  | _ =>
    if dropped ≠ 0 then (realOf? negative significand dropped).map (·, cs)
    else if negative then
      if significand = 0 ∨ Nat.pow 2 63 < significand then
        some (.real (-(Double.ofNat significand)), cs)
      else some (.int (-significand), cs)
    else some (.int significand, cs)

/-- A number and what follows it. -/
def number? (cs : List Char) : Option (Number × List Char) :=
  let (negative, cs) := match cs with
    | '-' :: r => (true, r)
    | r => (false, r)
  match leadingDigits cs with
  | ([], _) => none
  | (0 :: _ :: _, _) => none
  | (ds, rest) =>
    let (sig, left) := accumulate 0 ds
    afterWhole? negative sig left rest

end Fleet.Json
