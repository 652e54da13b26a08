/-!
# Doubles

A double is no number, an infinity, or a sign and a magnitude `m * 2 ^ q` with `m < 2 ^ 53` and
`-1074 ≤ q ≤ 971`; a mantissa below `2 ^ 52` has the least exponent.

Doubles are data here, and their arithmetic is computed on whole numbers; nothing is left to the
machine. Zero and the infinities have a sign, of which only what is printed takes notice.
-/

namespace Fleet

/-- Magnitude of a finite double: `mantissa * 2 ^ exponent`. -/
structure Double.Magnitude where
  mantissa : Nat
  exponent : Int
  deriving Repr, DecidableEq, Inhabited

/-- A binary fraction of 64 bits. -/
inductive Double where
  | nan
  | infinite (negative : Bool)
  | finite (negative : Bool) (magnitude : Double.Magnitude)
  deriving Repr, DecidableEq, Inhabited

namespace Double

/-- Least exponent. -/
def minExponent : Int := -1074

/-- Largest exponent. -/
def maxExponent : Int := 971

/-- First mantissa of full length. -/
def fullMantissa : Nat := Nat.pow 2 52

/-- Zero with a sign. -/
def zero (negative : Bool) : Double := .finite negative ⟨0, minExponent⟩

/-- An infinity. -/
def isInfinite : Double → Bool
  | .infinite _ => true
  | _ => false

/-- A zero of either sign. -/
def isZero : Double → Bool
  | .finite _ ⟨0, _⟩ => true
  | _ => false

/-- The other sign. -/
def neg : Double → Double
  | .nan => .nan
  | .infinite negative => .infinite (!negative)
  | .finite negative m => .finite (!negative) m

/-- Negation changes the sign, also of zero and of an infinity. -/
instance : Neg Double := ⟨neg⟩

end Double

end Fleet
