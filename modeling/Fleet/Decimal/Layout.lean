import Fleet.Decimal.Shortest

/-!
# Written doubles

The shortest digits of a double, laid out: positional while the exponent of the first digit lies in
a range, scientific outside it.

A layout has the bounds of the exponents that are written positionally and the marks of the
exponent, so that the formats that write doubles differ in these values only.
-/

namespace Fleet.Decimal

/-- How an exponent is written. -/
structure Layout where
  /-- Smallest exponent of the first digit that is written positionally. -/
  least : Int
  /-- First exponent above the positional range. -/
  bound : Int
  /-- Mark between the digits and the exponent. -/
  mark : String
  /-- Mark when the exponent is not negative. -/
  upMark : String
  deriving Repr

/-- Zeros in a row. -/
def zeros (n : Nat) : List Char := List.replicate n '0'

/-- A whole number in decimal. -/
def intText (n : Int) : List Char :=
  if n < 0 then '-' :: Nat.toDigits 10 (-n).toNat else Nat.toDigits 10 n.toNat

/-- A magnitude with at least one digit after the point when positional. -/
def Layout.magnitude (l : Layout) (d : Digits) : List Char :=
  let ds := Nat.toDigits 10 d.digits
  let len : Int := ds.length
  if d.digits = 0 then ['0', '.', '0']
  else
    let point := len + d.exponent
    let first := point - 1
    if l.least ≤ first ∧ first < l.bound then
      if 0 ≤ d.exponent then ds ++ zeros d.exponent.toNat ++ ['.', '0']
      else if 0 < point then ds.take point.toNat ++ '.' :: ds.drop point.toNat
      else ['0', '.'] ++ zeros (-point).toNat ++ ds
    else
      let digits := match ds with
        | [] => []
        | [c] => [c]
        | c :: r => c :: '.' :: r
      digits ++ (if first < 0 then l.mark else l.upMark).toList ++ intText first

/-- A double; infinities and not-a-number have names of their own. -/
def Layout.text (l : Layout) (nan inf : String) (x : Double) : String :=
  match x with
  | .nan => nan
  | .infinite negative => (if negative then "-" else "") ++ inf
  | .finite negative b =>
    (if negative then "-" else "") ++ String.ofList (l.magnitude (shortest b))

end Fleet.Decimal
