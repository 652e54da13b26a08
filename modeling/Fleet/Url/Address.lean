import Fleet.Text.Split

/-!
# Internet addresses

Addresses of four bytes may be written with fewer numbers, in three bases; those of sixteen bytes in
groups, one run of zero groups left out.

What looks like a number at the end of a name makes the whole name an address, and one that is
malformed is refused. A long address is written with its longest run of zero groups left out, the
first one of those equally long.
-/

namespace Fleet.Url

/-- Value of a digit in a base. -/
def digitIn? (base : Nat) (c : Char) : Option Nat :=
  let n :=
    if c.isDigit then some (c.toNat - 48)
    else if 'a' ≤ c ∧ c ≤ 'f' then some (c.toNat - 87)
    else if 'A' ≤ c ∧ c ≤ 'F' then some (c.toNat - 55)
    else none
  n.filter (· < base)

/-- Number that digits of a base stand for. -/
def numberIn? (base : Nat) (cs : List Char) : Option Nat :=
  cs.foldlM (fun n c => (digitIn? base c).map (n * base + ·)) 0

/-- One number of a short address: hexadecimal after `0x`, octal after a zero, else decimal. -/
def shortNumber? (cs : List Char) : Option Nat :=
  match cs with
  | [] => none
  | '0' :: 'x' :: r => numberIn? 16 r
  | '0' :: 'X' :: r => numberIn? 16 r
  | ['0'] => some 0
  | '0' :: r => numberIn? 8 r
  | r => numberIn? 10 r

/-- Parts of a host between dots, without the empty one after a last dot. -/
def dotParts (cs : List Char) : List (List Char) :=
  let ps := Text.splitChars '.' cs
  if ps.getLast? = some [] then ps.dropLast else ps

/-- The host has to be an address: its last part is a number. -/
def endsInNumber (cs : List Char) : Bool :=
  match (dotParts cs).getLast? with
  | none => false
  | some last => (last ≠ [] && last.all Char.isDigit) || (shortNumber? last).isSome

/-- Address of four bytes. -/
def shortAddress? (cs : List Char) : Option Nat := do
  let ps := dotParts cs
  guard (ps.length ≤ 4)
  let ns ← ps.mapM shortNumber?
  let last ← ns.getLast?
  let front := ns.dropLast
  guard (front.all (· ≤ 255) ∧ last < Nat.pow 256 (4 - front.length))
  let high := front.foldl (fun n b => n * 256 + b) 0
  some (high * Nat.pow 256 (4 - front.length) + last)

/-- Address of four bytes, written out. -/
def shortText (n : Nat) : String :=
  Text.join "." ([16777216, 65536, 256, 1].map fun p => toString (n / p % 256))

/-- One group of a long address. -/
def group? (cs : List Char) : Option Nat := do
  guard (1 ≤ cs.length ∧ cs.length ≤ 4)
  numberIn? 16 cs

/-- One byte of a short address inside a long one. -/
def byte? (cs : List Char) : Option Nat := do
  guard (cs ≠ [] ∧ (cs.length = 1 ∨ cs.head? ≠ some '0') ∧ cs.length ≤ 3)
  let n ← numberIn? 10 cs
  guard (n ≤ 255)
  some n

/-- Two groups of a short address. -/
def embedded? (cs : List Char) : Option (List Nat) := do
  match ← (Text.splitChars '.' cs).mapM byte? with
  | [a, b, c, d] => some [a * 256 + b, c * 256 + d]
  | _ => none

/-- Groups between colons; a short address may stand last. -/
def groups? (lastMayBeShort : Bool) (cs : List Char) : Option (List Nat) :=
  if cs = [] then some []
  else do
    let ps := Text.splitChars ':' cs
    let front ← ps.dropLast.mapM group?
    let last := ps.getLast?.getD []
    if lastMayBeShort ∧ last.contains '.' then some (front ++ (← embedded? last))
    else some (front ++ [← group? last])

/-- The text before the first pair of colons and the text after it. -/
def cutGap? : List Char → Option (List Char × List Char)
  | ':' :: ':' :: r => some ([], r)
  | c :: r => (cutGap? r).map fun (a, b) => (c :: a, b)
  | [] => none

/-- The eight groups of a long address. -/
def longAddress? (cs : List Char) : Option (List Nat) := do
  match cutGap? cs with
  | none =>
    let gs ← groups? true cs
    guard (gs.length = 8)
    some gs
  | some (a, b) =>
    let front ← groups? false a
    let back ← groups? true b
    guard (front.length + back.length ≤ 7)
    some (front ++ List.replicate (8 - front.length - back.length) 0 ++ back)

/-- Length of the run of zeros at the front. -/
def zeroRun (gs : List Nat) : Nat := (gs.takeWhile (· = 0)).length

/-- Start and length of the first longest run of at least two zero groups. -/
def longestGap (gs : List Nat) : Option (Nat × Nat) :=
  ((List.range gs.length).map fun i => (i, zeroRun (gs.drop i))).foldl (fun best (i, n) =>
    match best with
    | none => if 2 ≤ n then some (i, n) else none
    | some (j, m) => if m < n then some (i, n) else some (j, m)) none

/-- A group in hexadecimal. -/
def groupText (n : Nat) : String := String.ofList (Nat.toDigits 16 n)

/-- Long address, written in brackets. -/
def longText (gs : List Nat) : String :=
  let part (xs : List Nat) : String := Text.join ":" (xs.map groupText)
  "[" ++ (match longestGap gs with
    | none => part gs
    | some (i, n) => part (gs.take i) ++ "::" ++ part (gs.drop (i + n))) ++ "]"

end Fleet.Url
