import Fleet.Double.Basic

/-!
# Arithmetic of doubles

Every operation is the exact one on fractions, rounded to the nearest double, ties to an even
mantissa.

Sums are taken over a common power of two (`align`), products and quotients of mantissas with the
difference or sum of exponents; each is one fraction, and `ofRatio` rounds it. The exponent of the
result is that of its leading bit, or the least one, so that results below the least full mantissa
lose bits and those above the greatest double are infinite.
-/

namespace Fleet

/-- A fraction rounded to the nearest whole number, ties to even. -/
def roundRatio (num den : Nat) : Nat :=
  let q := num / den
  let r := num % den
  if 2 * r < den then q
  else if den < 2 * r then q + 1
  else if q % 2 = 0 then q else q + 1

namespace Double

/-- A number times two to an integer power, as a fraction. -/
def scaleTwo (num den : Nat) (e : Int) : Nat × Nat :=
  if 0 ≤ e then (num * Nat.pow 2 e.toNat, den) else (num, den * Nat.pow 2 (-e).toNat)

/-- Exponent of the leading bit of a fraction above zero. -/
def leadingExponent (num den : Nat) : Int :=
  let k : Int := (num.log2 : Int) - den.log2
  let (n, d) := scaleTwo num den (-k)
  if n < d then k - 1 else k

/-- The double nearest to a fraction. -/
def ofRatio (negative : Bool) (num den : Nat) : Double :=
  if num = 0 ∨ den = 0 then zero negative
  else
    let q := max (leadingExponent num den - 52) minExponent
    let (n, d) := scaleTwo num den (-q)
    let m := roundRatio n d
    let (m, q) := if m = 2 * fullMantissa then (fullMantissa, q + 1) else (m, q)
    if maxExponent < q then .infinite negative else .finite negative ⟨m, q⟩

/-- The double nearest to `m * 2 ^ e`. -/
def ofScaled (negative : Bool) (m : Nat) (e : Int) : Double :=
  let (n, d) := scaleTwo m 1 e
  ofRatio negative n d

/-- The double nearest to a natural number. -/
def ofNat (n : Nat) : Double := ofRatio false n 1

/-- The double nearest to an integer. -/
def ofInt (n : Int) : Double := ofRatio (decide (n < 0)) n.natAbs 1

/-- A sign and a mantissa as one number. -/
def signed (negative : Bool) (m : Nat) : Int := if negative then -(m : Int) else m

/-- Numerators of two magnitudes over their common power of two. -/
def align (s : Bool) (a : Magnitude) (t : Bool) (b : Magnitude) : Int × Int × Int :=
  let e := min a.exponent b.exponent
  (signed s (a.mantissa * Nat.pow 2 (a.exponent - e).toNat),
    signed t (b.mantissa * Nat.pow 2 (b.exponent - e).toNat), e)

/-- Sum. -/
def add : Double → Double → Double
  | .nan, _ => .nan
  | _, .nan => .nan
  | .infinite s, .infinite t => if s = t then .infinite s else .nan
  | .infinite s, .finite .. => .infinite s
  | .finite .., .infinite t => .infinite t
  | .finite s a, .finite t b =>
    let (x, y, e) := align s a t b
    if x + y = 0 then zero (s && t)
    else ofScaled (decide (x + y < 0)) (x + y).natAbs e

/-- Difference. -/
def sub (a b : Double) : Double := add a (neg b)

/-- Product. -/
def mul : Double → Double → Double
  | .nan, _ => .nan
  | _, .nan => .nan
  | .infinite s, .infinite t => .infinite (s != t)
  | .infinite s, .finite t b => if b.mantissa = 0 then .nan else .infinite (s != t)
  | .finite s a, .infinite t => if a.mantissa = 0 then .nan else .infinite (s != t)
  | .finite s a, .finite t b =>
    ofScaled (s != t) (a.mantissa * b.mantissa) (a.exponent + b.exponent)

/-- Quotient. -/
def div : Double → Double → Double
  | .nan, _ => .nan
  | _, .nan => .nan
  | .infinite _, .infinite _ => .nan
  | .infinite s, .finite t _ => .infinite (s != t)
  | .finite s _, .infinite t => zero (s != t)
  | .finite s a, .finite t b =>
    if b.mantissa = 0 then if a.mantissa = 0 then .nan else .infinite (s != t)
    else
      let (n, d) := scaleTwo a.mantissa b.mantissa (a.exponent - b.exponent)
      ofRatio (s != t) n d

/-- Strictly smaller; nothing is below or above what is no number. -/
def less : Double → Double → Bool
  | .nan, _ => false
  | _, .nan => false
  | .infinite s, .infinite t => s && !t
  | .infinite s, .finite .. => s
  | .finite .., .infinite t => !t
  | .finite s a, .finite t b =>
    let (x, y, _) := align s a t b
    decide (x < y)

/-- Sums are rounded. -/
instance : Add Double := ⟨add⟩
/-- Differences are rounded. -/
instance : Sub Double := ⟨sub⟩
/-- Products are rounded. -/
instance : Mul Double := ⟨mul⟩
/-- Quotients are rounded. -/
instance : Div Double := ⟨div⟩
/-- A whole number as the double nearest to it. -/
instance : NatCast Double := ⟨ofNat⟩
/-- Nothing is below or above what is no number. -/
instance : LT Double := ⟨fun a b => less a b = true⟩
/-- Whether one double is below another one is computed. -/
instance : DecidableLT Double := fun a b => inferInstanceAs (Decidable (less a b = true))

/-- One. -/
def one : Double := ofNat 1

/-- Two. -/
def two : Double := ofNat 2

end Double

end Fleet
