import Fleet.Text.Split
import Fleet.Time.Calendar

/-!
# Time stamps

Instants read from the text of a time stamp with its offset, and written in universal time.

A stamp may have a fraction of up to nine digits that count and an offset; what is written has
neither offset nor digits that are zero. The age of an object is the time between two stamps in its
largest whole unit.
-/

namespace Fleet.Time

/-- A second of universal time and the nanoseconds since then; a leap second counts as nanoseconds
of the second before it. -/
structure Stamp where
  seconds : Int
  nanos : Nat
  deriving Repr, DecidableEq

/-- An instant by its milliseconds since the start of 1970. -/
def Stamp.ofMillis (ms : Int) : Stamp := ⟨ms.fdiv 1000, (ms.fmod 1000).toNat * 1000000⟩

/-- Seconds of a day. -/
def dayLength : Int := 86400

/-- Exactly `n` digits. -/
def digits? (n : Nat) (cs : List Char) : Option (Nat × List Char) :=
  let ds := cs.take n
  if ds.length = n ∧ ds.all Char.isDigit then
    some (ds.foldl (fun acc c => acc * 10 + (c.toNat - 48)) 0, cs.drop n)
  else none

/-- One of some characters. -/
def mark? (marks : List Char) : List Char → Option (List Char)
  | c :: r => if marks.contains c then some r else none
  | [] => none

/-- Nanoseconds of a fraction that may be left out; digits after the ninth do not count. -/
def fraction? (cs : List Char) : Option (Nat × List Char) :=
  match cs with
  | '.' :: r =>
    let ds := r.takeWhile Char.isDigit
    if ds = [] then none
    else
      let nine := (ds ++ List.replicate 9 '0').take 9
      some (nine.foldl (fun acc c => acc * 10 + (c.toNat - 48)) 0, r.drop ds.length)
  | r => some (0, r)

/-- Seconds of an offset from universal time. -/
def offset? : List Char → Option Int
  | [c] => if c = 'Z' ∨ c = 'z' then some 0 else none
  | sign :: r => do
    let (hours, r) ← digits? 2 r
    let r ← mark? [':'] r
    let (minutes, r) ← digits? 2 r
    if r ≠ [] ∨ 24 ≤ hours ∨ 60 ≤ minutes then none
    let n : Int := (hours * 60 + minutes) * 60
    if sign = '+' then some n
    else if sign = '-' ∨ sign = '−' then some (-n)
    else none
  | [] => none

/-- Instant of a time stamp. -/
def Stamp.parse? (s : String) : Option Stamp := do
  let (year, r) ← digits? 4 s.toList
  let (month, r) ← digits? 2 (← mark? ['-'] r)
  let (day, r) ← digits? 2 (← mark? ['-'] r)
  let (hour, r) ← digits? 2 (← mark? ['T', 't', ' '] r)
  let (minute, r) ← digits? 2 (← mark? [':'] r)
  let (second, r) ← digits? 2 (← mark? [':'] r)
  let (nanos, r) ← fraction? r
  let offset ← offset? r
  let date : Date := ⟨year, month, day⟩
  if !date.isValid ∨ 24 ≤ hour ∨ 60 ≤ minute ∨ 60 < second then none
  let isExtra := second = 60
  let clock : Int := (hour * 60 + minute) * 60 + (if isExtra then 59 else second)
  some ⟨date.dayNumber * dayLength + clock - offset, nanos + (if isExtra then 1000000000 else 0)⟩

/-- Whole seconds from `b` to `a`, cut toward zero. A leap second between them on the clock
counts. -/
def Stamp.secondsSince (a b : Stamp) : Int :=
  let clockA := a.seconds.fmod dayLength
  let clockB := b.seconds.fmod dayLength
  let extra : Int :=
    if clockB < clockA ∧ 1000000000 ≤ b.nanos then 1
    else if clockA < clockB ∧ 1000000000 ≤ a.nanos then -1 else 0
  ((a.seconds - b.seconds + extra) * 1000000000 + (a.nanos - b.nanos)).tdiv 1000000000

/-- A number with zeros in front, at least `n` digits long. -/
def padded (n k : Nat) : String :=
  let s := toString k
  Text.repeated "0" (n - s.length) ++ s

/-- Time of the day. -/
def Stamp.clock (t : Stamp) : String :=
  let n := (t.seconds.fmod dayLength).toNat
  padded 2 (n / 3600) ++ ":" ++ padded 2 (n / 60 % 60) ++ ":" ++ padded 2 (n % 60)

/-- A year, with a sign outside four digits. -/
def yearText (y : Int) : String :=
  if 0 ≤ y ∧ y ≤ 9999 then padded 4 y.toNat
  else (if y < 0 then "-" else "+") ++ padded 4 y.natAbs

/-- Fraction of a second in as many groups of three digits as it takes. -/
def fractionText (nanos : Nat) : String :=
  if nanos = 0 then ""
  else if nanos % 1000000 = 0 then "." ++ padded 3 (nanos / 1000000)
  else if nanos % 1000 = 0 then "." ++ padded 6 (nanos / 1000)
  else "." ++ padded 9 nanos

/-- Time stamp in universal time. -/
def Stamp.text (t : Stamp) : String :=
  let d := dateOf (t.seconds.fdiv dayLength)
  yearText d.year ++ "-" ++ padded 2 d.month ++ "-" ++ padded 2 d.day ++ "T" ++ t.clock ++
    fractionText t.nanos ++ "+00:00"

/-- Age of something made at a time stamp: the largest unit that it fills. -/
def age (created : Option String) (now : Stamp) : String :=
  match created.bind Stamp.parse? with
  | none => "<unknown>"
  | some t =>
    let n := (now.secondsSince t).toNat
    if n < 60 then toString n ++ "s"
    else if n < 3600 then toString (n / 60) ++ "m"
    else if n < 86400 then toString (n / 3600) ++ "h"
    else toString (n / 86400) ++ "d"

end Fleet.Time
