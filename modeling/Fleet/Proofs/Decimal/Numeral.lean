import Fleet.Decimal.Layout
import Mathlib.Data.List.Basic
import Mathlib.Tactic.Common
import Mathlib.Tactic.IntervalCases

/-!
# Numerals

A numeral is a whole part without zeros in front, and perhaps a fraction and an exponent. Whole
numbers are written as numerals with the whole part only (`whole_toDigits`), and laid out magnitudes
as numerals with a fraction or an exponent (`Layout.broken_magnitude`).

The parts are inductive or structures of their own (`Row`, `Whole`, `Fraction`, `Exponent`), so that
a layout is proved by putting parts together. The layouts differ in where the point goes: in front
of the digits, among them, behind them with zeros in between, or behind the first digit with an
exponent. Each case is one lemma about rows (`Row.take`, `Row.append_zeros`, `Row.scientific` and so
on) applied to the digits of the shortest form.
-/

namespace Fleet.Decimal

/-- One digit or more. -/
structure Row (ds : List Char) : Prop where
  nonempty : ds ≠ []
  digits : ∀ c ∈ ds, c.isDigit

/-- Digits of which only a single one may begin with zero. -/
structure Whole (ds : List Char) : Prop extends Row ds where
  lead : ds.head? = some '0' → ds = ['0']

/-- A point and digits behind it, or nothing. -/
inductive Fraction : List Char → Prop
  | absent : Fraction []
  | digits {ds : List Char} : Row ds → Fraction ('.' :: ds)

/-- A mark, perhaps a sign, and digits, or nothing. -/
inductive Exponent : List Char → Prop
  | absent : Exponent []
  | digits {mark : Char} {sign ds : List Char} :
      mark ∈ ['e', 'E'] → sign ∈ [[], ['+'], ['-']] → Row ds →
    Exponent (mark :: (sign ++ ds))

/-- A numeral with more than a whole part. -/
inductive Broken : List Char → Prop
  | mk {ds fraction exponent : List Char} : Whole ds → Fraction fraction → Exponent exponent →
    fraction ++ exponent ≠ [] → Broken (ds ++ fraction ++ exponent)

/-- Characters of numerals. -/
def isNumeric (c : Char) : Bool := c.isDigit || ['+', '-', '.', 'e', 'E'].contains c

variable {ds es : List Char} {n : Nat}

/-! ### Characters of numerals -/

/-- Rows of digits are made of characters of numbers. -/
lemma Row.numeric (row : Row ds) : ds.all isNumeric :=
  List.all_eq_true.2 fun c mem => Bool.or_eq_true_iff.2 (.inl (row.digits c mem))

/-- Fractions are made of characters of numbers. -/
lemma Fraction.numeric (fraction : Fraction ds) : ds.all isNumeric := by
  cases fraction with
  | absent => rfl
  | digits row => exact row.numeric

/-- Exponents are made of characters of numbers. -/
lemma Exponent.numeric (exponent : Exponent ds) : ds.all isNumeric := by
  cases exponent with
  | absent => rfl
  | @digits mark sign ds marks signs row =>
    have mark_numeric : isNumeric mark := by
      have all : ['e', 'E'].all isNumeric := by decide
      exact List.all_eq_true.1 all mark marks
    have sign_numeric : sign.all isNumeric := by
      have all : [[], ['+'], ['-']].all (·.all isNumeric) := by decide
      exact List.all_eq_true.1 all sign signs
    rw [List.all_cons, List.all_append, mark_numeric, sign_numeric, row.numeric]
    rfl

/-- Broken numerals are made of characters of numbers. -/
lemma Broken.numeric (broken : Broken ds) : ds.all isNumeric := by
  obtain ⟨whole, fraction, exponent, -⟩ := broken
  rw [List.all_append, List.all_append, whole.numeric, fraction.numeric, exponent.numeric]
  rfl

/-- A broken numeral is not empty. -/
lemma Broken.ne_nil (broken : Broken ds) : ds ≠ [] := by
  obtain ⟨whole, -, -, -⟩ := broken
  exact List.append_ne_nil_of_left_ne_nil (List.append_ne_nil_of_left_ne_nil whole.nonempty _) _

/-! ### Digits of numbers -/

/-- The digits of a whole number are a row. -/
lemma row_toDigits (n : Nat) : Row (Nat.toDigits 10 n) :=
  ⟨Nat.toDigits_ne_nil, fun _ mem => Nat.isDigit_of_mem_toDigits (by decide) (by decide) mem⟩

/-- A number above zero begins with another digit. -/
lemma head?_toDigits_ne (pos : 0 < n) : (Nat.toDigits 10 n).head? ≠ some '0' := by
  induction n using Nat.strong_induction_on with
  | _ n ih =>
    obtain small | large := Nat.lt_or_ge n 10
    · rw [Nat.toDigits_of_lt_base small]
      interval_cases n <;> decide
    · rw [Nat.toDigits_of_base_le (by decide) large,
        List.head?_append_of_ne_nil _ Nat.toDigits_ne_nil]
      exact ih (n / 10) (Nat.div_lt_self pos (by decide)) (Nat.div_pos large (by decide))

/-- The digits of a whole number have no zero in front. -/
lemma whole_toDigits (n : Nat) : Whole (Nat.toDigits 10 n) := by
  refine ⟨row_toDigits n, fun lead => ?_⟩
  obtain rfl | pos := Nat.eq_zero_or_pos n
  · rfl
  · exact absurd lead (head?_toDigits_ne pos)

/-! ### Laid out magnitudes -/

/-- Zeros are digits. -/
lemma isDigit_of_mem_zeros {c : Char} (mem : c ∈ zeros n) : c.isDigit := by
  obtain rfl := List.eq_of_mem_replicate mem
  rfl

/-- A row with zeros behind it is a row. -/
lemma Row.append_zeros (row : Row ds) (n : Nat) : Row (ds ++ zeros n) :=
  ⟨List.append_ne_nil_of_left_ne_nil row.nonempty _,
    List.forall_mem_append.2 ⟨row.digits, fun _ => isDigit_of_mem_zeros⟩⟩

/-- A row with zeros in front of it is a row. -/
lemma Row.zeros_append (row : Row ds) (n : Nat) : Row (zeros n ++ ds) :=
  ⟨List.append_ne_nil_of_right_ne_nil _ row.nonempty,
    List.forall_mem_append.2 ⟨fun _ => isDigit_of_mem_zeros, row.digits⟩⟩

/-- The front of a row is a row unless it is empty. -/
lemma Row.take (row : Row ds) (pos : 0 < n) : Row (ds.take n) := by
  refine ⟨fun none => ?_, fun c mem => row.digits c (List.mem_of_mem_take mem)⟩
  obtain zero | none := List.take_eq_nil_iff.1 none
  · exact Nat.ne_of_gt pos zero
  · exact row.nonempty none

/-- The rest of a row is a row unless it is empty. -/
lemma Row.drop (row : Row ds) (short : n < ds.length) : Row (ds.drop n) :=
  ⟨fun none => absurd (List.drop_eq_nil_iff.1 none) (Nat.not_le.2 short),
    fun c mem => row.digits c (List.mem_of_mem_drop mem)⟩

/-- Digits that do not begin with zero. -/
lemma Row.whole (row : Row ds) (lead : ds.head? ≠ some '0') : Whole ds :=
  ⟨row, fun zero => absurd zero lead⟩

/-- One digit is a whole part. -/
lemma whole_digit {c : Char} (digit : c.isDigit) : Whole [c] :=
  ⟨⟨nofun, List.forall_mem_singleton.2 digit⟩, fun zero => by rw [Option.some.inj zero]⟩

/-- A whole part, a point and a row are a broken numeral. -/
lemma Whole.point (whole : Whole ds) (row : Row es) : Broken (ds ++ '.' :: es) := by
  have broken := Broken.mk whole (.digits row) .absent nofun
  rwa [List.append_nil] at broken

/-- The first digit, the others behind a point, and an exponent. -/
lemma Row.scientific {mark : Char} {exponent : List Char} : Row ds → Exponent (mark :: exponent) →
    Broken ((match ds with | [] => [] | [c] => [c] | c :: r => c :: '.' :: r) ++
      mark :: exponent) := by
  intro row exp
  match ds with
  | [] => exact absurd rfl row.nonempty
  | [c] =>
    have broken := Broken.mk (whole_digit (row.digits c List.mem_cons_self)) .absent exp nofun
    rwa [List.append_nil] at broken
  | c :: e :: r =>
    have rest : Row (e :: r) := ⟨nofun, fun d mem => row.digits d (List.mem_cons_of_mem c mem)⟩
    exact .mk (whole_digit (row.digits c List.mem_cons_self)) (.digits rest) exp nofun

/-- A negative exponent is written with its sign. -/
lemma exponent_of_neg {e : Int} (down : e < 0) : Exponent ('e' :: intText e) := by
  have exponent : Exponent ('e' :: (['-'] ++ Nat.toDigits 10 (-e).toNat)) :=
    .digits (by decide) (by decide) (row_toDigits _)
  rwa [intText, if_pos down]

/-- An exponent that is not negative is written with a plus sign. -/
lemma exponent_of_nonneg {e : Int} (up : ¬ e < 0) : Exponent ('e' :: '+' :: intText e) := by
  have exponent : Exponent ('e' :: (['+'] ++ Nat.toDigits 10 e.toNat)) :=
    .digits (by decide) (by decide) (row_toDigits _)
  rwa [intText, if_neg up]

/-- A magnitude is laid out with a fraction or an exponent. -/
lemma Layout.broken_magnitude (l : Layout) (mark : l.mark = "e") (upMark : l.upMark = "e+")
    (d : Digits) : Broken (l.magnitude d) := by
  have zero : Whole ['0'] := whole_digit rfl
  unfold Layout.magnitude
  extract_lets ds len point first digits
  have row : Row ds := row_toDigits d.digits
  split_ifs with none positional up inside down
  · exact zero.point zero.toRow
  · have lead := head?_toDigits_ne (Nat.pos_of_ne_zero none)
    have whole : Whole (ds ++ zeros d.exponent.toNat) :=
      (row.append_zeros _).whole (by rwa [List.head?_append_of_ne_nil _ row.nonempty])
    exact whole.point zero.toRow
  · have lead := head?_toDigits_ne (Nat.pos_of_ne_zero none)
    have before : 0 < point.toNat := by omega
    have after : point.toNat < ds.length := by omega
    have whole : Whole (ds.take point.toNat) :=
      (row.take before).whole (by rwa [List.head?_take, if_neg (Nat.ne_of_gt before)])
    exact whole.point (row.drop after)
  · exact zero.point (row.zeros_append _)
  · rw [List.append_assoc, mark]
    exact row.scientific (exponent_of_neg down)
  · rw [List.append_assoc, upMark]
    exact row.scientific (exponent_of_nonneg down)

end Fleet.Decimal
