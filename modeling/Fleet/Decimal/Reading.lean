import Fleet.Double.Arithmetic

/-!
# Reading decimals

The double nearest to a decimal, ties to an even mantissa.

Exponents that are certainly too large or too small are told apart first, so that no power of ten is
computed that nobody needs; the other decimals are exact fractions, rounded once.
-/

namespace Fleet.Decimal

/-- Number of decimal digits; zero has none. -/
def digitCount (n : Nat) : Nat := go n n
where
  go : Nat → Nat → Nat
    | 0, _ => 0
    | fuel + 1, k => if k = 0 then 0 else go fuel (k / 10) + 1

/-- Magnitudes from this power of ten on are above every double. -/
def tooLarge : Int := 310

/-- Magnitudes below this power of ten round to zero. -/
def tooSmall : Int := -330

/-- The double nearest to `digits * 10 ^ exponent`. -/
def toDouble (negative : Bool) (digits : Nat) (exponent : Int) : Double :=
  let first := (digitCount digits : Int) + exponent
  if digits = 0 ∨ first < tooSmall then .zero negative
  else if tooLarge < first then .infinite negative
  else if 0 ≤ exponent then .ofRatio negative (digits * Nat.pow 10 exponent.toNat) 1
  else .ofRatio negative digits (Nat.pow 10 (-exponent).toNat)

/-- Number that digit values stand for. -/
def ofDigits (ds : List Nat) : Nat := ds.foldl (fun n d => n * 10 + d) 0

end Fleet.Decimal
