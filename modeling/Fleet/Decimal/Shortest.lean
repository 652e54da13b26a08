import Fleet.Decimal.Reading

/-!
# Shortest decimals of binary fractions

Every double stands for an interval of reals, those that round to
it. The shortest decimal is the one with the fewest digits inside that interval, and of those with
equally many digits the nearest.

The interval has its bounds as points half-way to the neighbours, and holds them if the mantissa is
even. Below the least mantissa of an exponent the neighbour is nearer (`isNarrowBelow`). Grids of
powers of ten are tried from the coarsest on (`gridPoint?`); the first one with a point in the
interval gives the digits.
-/

namespace Fleet.Decimal

/-- Decimal magnitude: `digits * 10 ^ exponent`. -/
structure Digits where
  digits : Nat
  exponent : Int
  deriving Repr, DecidableEq

/-- A fraction times ten to an integer power, as a fraction. -/
def scaleTen (num den : Nat) (e : Int) : Nat × Nat :=
  if 0 ≤ e then (num * Nat.pow 10 e.toNat, den) else (num, den * Nat.pow 10 (-e).toNat)

/-- The point of the grid `10 ^ e` inside the interval and nearest to the value, if there is one.
All bounds are over the denominator `den`. -/
def gridPoint? (low mid high den : Nat) (closed : Bool) (e : Int) : Option Nat :=
  let (n, d) := scaleTen mid den (-e)
  let below := n / d
  let inside (c : Nat) : Bool :=
    let (g, k) := scaleTen c 1 e
    let x := g * den
    if closed then decide (low * k ≤ x ∧ x ≤ high * k) else decide (low * k < x ∧ x < high * k)
  let r := n % d
  match inside below, inside (below + 1) with
  | true, true =>
    if 2 * r < d then some below
    else if d < 2 * r then some (below + 1)
    else some (if below % 2 = 0 then below else below + 1)
  | true, false => some below
  | false, true => some (below + 1)
  | false, false => none

/-- Digits without trailing zeros. -/
def stripZeros (d : Nat) (e : Int) : Digits := go d d e
where
  go : Nat → Nat → Int → Digits
    | 0, d, e => ⟨d, e⟩
    | fuel + 1, d, e => if d ≠ 0 ∧ d % 10 = 0 then go fuel (d / 10) (e + 1) else ⟨d, e⟩

/-- Position of the first digit: `10 ^ (k - 1) ≤ num / den < 10 ^ k`. -/
def magnitude (num den : Nat) : Int :=
  let k : Int := (digitCount num : Int) - digitCount den
  let (n, d) := scaleTen num den (-k)
  if n < d then k else k + 1

/-- The next double below is nearer than the next above. -/
def isNarrowBelow (b : Double.Magnitude) : Bool :=
  b.mantissa == Double.fullMantissa && decide (Double.minExponent < b.exponent)

/-- Shortest decimal of a magnitude above zero. -/
def shortest (b : Double.Magnitude) : Digits :=
  if b.mantissa = 0 then ⟨0, 0⟩
  else
    let shift := b.exponent - 2
    let up : Nat := if 0 ≤ shift then Nat.pow 2 shift.toNat else 1
    let den : Nat := if 0 ≤ shift then 1 else Nat.pow 2 (-shift).toNat
    let mid := 4 * b.mantissa * up
    let low := (4 * b.mantissa - if isNarrowBelow b then 1 else 2) * up
    let high := (4 * b.mantissa + 2) * up
    let closed := b.mantissa % 2 == 0
    let k := magnitude mid den
    let hit := (List.range 17).findSome? fun (i : Nat) =>
      let e := k - Int.ofNat (i + 1)
      (gridPoint? low mid high den closed e).map fun d => stripZeros d e
    hit.getD ⟨mid / den, 0⟩

end Fleet.Decimal
