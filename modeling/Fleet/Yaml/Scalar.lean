import Fleet.Decimal.Reading

/-!
# Plain scalars

What a scalar without quotes stands for: nothing, a truth value, a number, or its text.

The forms are those of the core schema with a few more: numbers in other bases, infinities, and
numbers padded with zeros, which stay texts.
-/

namespace Fleet.Yaml

/-- Meaning of a plain scalar. -/
inductive Meaning where
  | null
  | bool (b : Bool)
  | int (n : Int)
  | real (x : Double)
  | text
  deriving Repr, DecidableEq

/-- Names of nothing. -/
def isNull (s : String) : Bool := ["null", "Null", "NULL", "~"].contains s

/-- A truth value. -/
def bool? (s : String) : Option Bool :=
  if ["true", "True", "TRUE"].contains s then some true
  else if ["false", "False", "FALSE"].contains s then some false
  else none

/-- Value of a digit in a base. -/
def digitIn? (base : Nat) (c : Char) : Option Nat :=
  let n :=
    if c.isDigit then some (c.toNat - 48)
    else if 'a' ≤ c ∧ c ≤ 'f' then some (c.toNat - 87)
    else if 'A' ≤ c ∧ c ≤ 'F' then some (c.toNat - 55)
    else none
  n.filter (· < base)

/-- A number of digits only, at least one. -/
def digits? (base : Nat) (cs : List Char) : Option Nat :=
  if cs = [] then none
  else cs.foldlM (fun n c => (digitIn? base c).map (n * base + ·)) 0

/-- Zeros in front of further digits make no number. -/
def isPadded : List Char → Bool
  | '0' :: c :: r => (c :: r).all Char.isDigit
  | _ => false

/-- Number with a mark of its base, or decimal. -/
def based? : List Char → Option Nat
  | '0' :: 'x' :: r => digits? 16 r
  | '0' :: 'o' :: r => digits? 8 r
  | '0' :: 'b' :: r => digits? 2 r
  | cs => if isPadded cs then none else digits? 10 cs

/-- A whole number of up to 128 bits. -/
def int? (cs : List Char) : Option Int :=
  match cs with
  | '-' :: r => ((based? r).filter (· ≤ Nat.pow 2 127)).map fun n => -(n : Int)
  | '+' :: r => ((based? r).filter (· < Nat.pow 2 128)).map fun n => (n : Int)
  | r => ((based? r).filter (· < Nat.pow 2 128)).map fun n => (n : Int)

/-- An exponent after its mark. -/
def exponent? (cs : List Char) : Option Int :=
  match cs with
  | '-' :: r => (digits? 10 r).map fun n => -(n : Int)
  | '+' :: r => (digits? 10 r).map fun n => (n : Int)
  | r => (digits? 10 r).map fun n => (n : Int)

/-- A decimal with a point, an exponent, both or neither. -/
def decimal? (negative : Bool) (cs : List Char) : Option Double := do
  let whole := cs.takeWhile Char.isDigit
  let r := cs.drop whole.length
  let (part, r) := match r with
    | '.' :: r => (r.takeWhile Char.isDigit, r.dropWhile Char.isDigit)
    | r => ([], r)
  if whole = [] ∧ part = [] then none
  else
    let e ← match r with
      | [] => some 0
      | c :: r => if c = 'e' ∨ c = 'E' then exponent? r else none
    let n ← digits? 10 (whole ++ part)
    some (Decimal.toDouble negative n (e - part.length))

/-- A finite double, an infinity by name, or no number by name. -/
def real? (cs : List Char) : Option Double :=
  let s := String.ofList cs
  let unsigned := match cs with
    | '+' :: r => r
    | r => r
  if [".inf", ".Inf", ".INF"].contains (String.ofList unsigned) then some (.infinite false)
  else if ["-.inf", "-.Inf", "-.INF"].contains s then some (.infinite true)
  else if [".nan", ".NaN", ".NAN"].contains s then some .nan
  else
    let x := match cs with
      | '-' :: r => decimal? true r
      | _ => decimal? false unsigned
    x.filter (!·.isInfinite)

/-- A whole number too long to stay one, or padded with zeros, keeps its text or becomes a
double. -/
def meaning (s : String) : Meaning :=
  let cs := s.toList
  let unsigned := match cs with
    | '-' :: r => r
    | '+' :: r => r
    | r => r
  if s = "" ∨ isNull s then .null
  else match bool? s with
    | some b => .bool b
    | none =>
      match int? cs with
      | some n => .int n
      | none =>
        if isPadded unsigned then .text
        else match real? cs with
          | some x => .real x
          | none => .text

end Fleet.Yaml
