import Fleet.Double.Arithmetic
import Mathlib.Algebra.Order.Field.Power
import Mathlib.Algebra.Order.Field.Rat
import Mathlib.Tactic.FieldSimp
import Mathlib.Tactic.Linarith
import Mathlib.Tactic.NormNum
import Mathlib.Tactic.Positivity
import Mathlib.Tactic.Ring

/-!
# Rounding of doubles

The numbers that magnitudes stand for, and rounding seen from the doubles above a fraction: the
nearest double to a fraction is never beyond a double that the fraction does not exceed
(`ofRatio_le`).

The exponent of the result is that of the leading bit of the fraction, and no smaller than the least
one. It does not exceed the exponent of a double above the fraction (`exponent_le`), so that double
is a point of the grid on which the mantissa is rounded, and rounding to the nearest point does not
pass it (`mantissa_le`). Bounds on sums and quotients follow from what arithmetic is defined to be
(`finite_add`, `finite_mul`, `finite_div`): the exact result on fractions, rounded once.
-/

namespace Fleet

/-- A fraction is not rounded beyond a whole number that it does not exceed. -/
lemma roundRatio_le {num den bound : Nat} (le : num ≤ bound * den) :
    roundRatio num den ≤ bound := by
  unfold roundRatio
  obtain rfl | pos := Nat.eq_zero_or_pos den
  · obtain rfl : num = 0 := by omega
    simp
  · have split := Nat.div_add_mod num den
    have less := Nat.mod_lt num pos
    have quotient : num / den ≤ bound := Nat.div_le_of_le_mul (by rwa [Nat.mul_comm])
    -- a fraction with a rest is below the bound by more than that rest
    have next : num % den ≠ 0 → num / den + 1 ≤ bound := by
      intro rest
      by_contra beyond
      obtain rfl : bound = num / den := by omega
      rw [Nat.mul_comm] at le
      omega
    dsimp only
    split
    · exact quotient
    · split
      · exact next (by omega)
      · split
        · exact quotient
        · exact next (by omega)

namespace Double

/-- The number that a magnitude stands for. -/
def Magnitude.value (m : Magnitude) : ℚ := m.mantissa * 2 ^ m.exponent

/-- Scaling a fraction multiplies it by the power of two, and keeps its denominator above zero. -/
lemma scaleTwo_eq (num : Nat) {den : Nat} (pos : 0 < den) (e : Int) :
    0 < (scaleTwo num den e).2 ∧
      ((scaleTwo num den e).1 : ℚ) / (scaleTwo num den e).2 = num / den * 2 ^ e := by
  have pos' : (0 : ℚ) < den := by exact_mod_cast pos
  unfold scaleTwo
  split
  · rename_i nonneg
    refine ⟨pos, ?_⟩
    obtain ⟨n, rfl⟩ := Int.eq_ofNat_of_zero_le nonneg
    simp only [Int.toNat_natCast, Nat.pow_eq, Nat.cast_mul, Nat.cast_pow, Nat.cast_ofNat,
      zpow_natCast]
    ring
  · rename_i negative
    obtain ⟨n, rfl⟩ : ∃ n : Nat, e = -n := ⟨(-e).toNat, by omega⟩
    refine ⟨Nat.mul_pos pos (Nat.pow_pos (by decide)), ?_⟩
    simp only [neg_neg, Int.toNat_natCast, Nat.pow_eq, Nat.cast_mul, Nat.cast_pow, Nat.cast_ofNat,
      zpow_neg, zpow_natCast]
    field_simp

/-- A number above zero is at least two to the power of its leading exponent. -/
lemma two_pow_leadingExponent_le {num den : Nat} (num_pos : 0 < num) (den_pos : 0 < den) :
    (2 : ℚ) ^ leadingExponent num den ≤ num / den := by
  have den_pos' : (0 : ℚ) < den := by exact_mod_cast den_pos
  obtain ⟨pos, scaled⟩ := scaleTwo_eq num den_pos (-((num.log2 : Int) - den.log2))
  unfold leadingExponent
  dsimp only
  generalize scaleTwo num den (-((num.log2 : Int) - den.log2)) = nd at pos scaled ⊢
  obtain ⟨n, d⟩ := nd
  dsimp only at pos scaled ⊢
  have pos' : (0 : ℚ) < d := by exact_mod_cast pos
  split
  -- the quotient of the leading bits is at most one bit too large
  · have low : ((2 ^ num.log2 : Nat) : ℚ) ≤ num := by exact_mod_cast Nat.log2_self_le num_pos.ne'
    have high : (den : ℚ) ≤ (2 ^ (den.log2 + 1) : Nat) := by exact_mod_cast Nat.lt_log2_self.le
    push_cast at low high
    rw [le_div_iff₀ den_pos']
    calc (2 : ℚ) ^ ((num.log2 : Int) - den.log2 - 1) * den
        ≤ (2 : ℚ) ^ ((num.log2 : Int) - den.log2 - 1) * 2 ^ (den.log2 + 1) := by gcongr
      _ = 2 ^ num.log2 := by
        rw [← zpow_natCast, ← zpow_natCast, ← zpow_add₀ (by norm_num)]
        congr 1
        push_cast
        ring
      _ ≤ num := low
  · rename_i ge
    have one_le : (1 : ℚ) ≤ n / d := by
      rw [le_div_iff₀ pos', one_mul]
      exact_mod_cast Nat.le_of_not_lt ge
    rw [scaled, zpow_neg] at one_le
    rwa [← div_eq_mul_inv, le_div_iff₀ (by positivity), one_mul] at one_le

/-- The exponent of a rounded fraction is no larger than that of a double above it. -/
lemma exponent_le {num den c : Nat} {k : Int} (num_pos : 0 < num) (den_pos : 0 < den)
    (c_lt : c < 2 ^ 53) (min_le : minExponent ≤ k) (le : (num : ℚ) / den ≤ c * 2 ^ k) :
    max (leadingExponent num den - 52) minExponent ≤ k := by
  -- a double above the fraction has at most 53 bits above its own exponent
  have below : (2 : ℚ) ^ leadingExponent num den < 2 ^ (53 + k) :=
    calc (2 : ℚ) ^ leadingExponent num den ≤ c * 2 ^ k :=
          (two_pow_leadingExponent_le num_pos den_pos).trans le
      _ < 2 ^ (53 : Nat) * 2 ^ k := by
        gcongr
        exact_mod_cast c_lt
      _ = 2 ^ (53 + k) := by
        rw [← zpow_natCast, ← zpow_add₀ (by norm_num)]
        rfl
  have lead := (zpow_lt_zpow_iff_right₀ (by norm_num : (1 : ℚ) < 2)).1 below
  omega

/-- A mantissa is not rounded beyond a double above the fraction. -/
lemma mantissa_le {num den c : Nat} {k q : Int} (den_pos : 0 < den) (q_le : q ≤ k)
    (le : (num : ℚ) / den ≤ c * 2 ^ k) :
    roundRatio (scaleTwo num den (-q)).1 (scaleTwo num den (-q)).2 ≤ c * 2 ^ (k - q).toNat := by
  obtain ⟨pos, scaled⟩ := scaleTwo_eq num den_pos (-q)
  generalize scaleTwo num den (-q) = nd at pos scaled ⊢
  obtain ⟨n, d⟩ := nd
  dsimp only at pos scaled ⊢
  have pos' : (0 : ℚ) < d := by exact_mod_cast pos
  obtain ⟨j, rfl⟩ : ∃ j : Nat, k = q + j := ⟨(k - q).toNat, by omega⟩
  rw [show (q + j - q : Int).toNat = j by omega]
  refine roundRatio_le ?_
  have bound : (n : ℚ) / d ≤ c * 2 ^ j :=
    calc (n : ℚ) / d = num / den * 2 ^ (-q) := scaled
      _ ≤ c * 2 ^ (q + j) * 2 ^ (-q) := by gcongr
      _ = c * 2 ^ j := by
        rw [mul_assoc, ← zpow_add₀ (by norm_num), ← zpow_natCast]
        congr 2
        ring
  rw [div_le_iff₀ pos'] at bound
  exact_mod_cast bound

/-- The nearest double to a fraction is never beyond a double above the fraction. -/
lemma ofRatio_le {negative : Bool} {num den c : Nat} {k : Int} (den_pos : 0 < den)
    (c_lt : c < 2 ^ 53) (min_le : minExponent ≤ k) (le_max : k ≤ maxExponent)
    (le : (num : ℚ) / den ≤ c * 2 ^ k) :
    ∃ m, ofRatio negative num den = .finite negative m ∧ m.value ≤ c * 2 ^ k := by
  unfold ofRatio
  split
  · exact ⟨⟨0, minExponent⟩, rfl,
      by simp only [Magnitude.value, Nat.cast_zero, zero_mul]; positivity⟩
  · rename_i nonzero
    have num_pos : 0 < num := by omega
    have q_le := exponent_le num_pos den_pos c_lt min_le le
    have m_le := mantissa_le den_pos q_le le
    dsimp only
    generalize max (leadingExponent num den - 52) minExponent = q at q_le m_le ⊢
    generalize roundRatio (scaleTwo num den (-q)).1 (scaleTwo num den (-q)).2 = m at m_le ⊢
    obtain ⟨j, rfl⟩ : ∃ j : Nat, k = q + j := ⟨(k - q).toNat, by omega⟩
    rw [show (q + j - q : Int).toNat = j by omega] at m_le
    have value_le : (m : ℚ) * 2 ^ q ≤ c * 2 ^ (q + j) := by
      have m_le' : (m : ℚ) ≤ c * 2 ^ j := by exact_mod_cast m_le
      calc (m : ℚ) * 2 ^ q ≤ c * 2 ^ j * 2 ^ q := by gcongr
        _ = c * 2 ^ (q + j) := by
          rw [zpow_add₀ (by norm_num), zpow_natCast]
          ring
    split
    · -- the mantissa is one bit too long, so the exponent is still below `k`
      rename_i full
      have room : j ≠ 0 := by
        rintro rfl
        rw [full, pow_zero, mul_one, show fullMantissa = 2 ^ 52 from rfl] at m_le
        omega
      refine ⟨⟨fullMantissa, q + 1⟩, if_neg (by omega), ?_⟩
      refine le_of_eq_of_le ?_ value_le
      rw [full, Magnitude.value, zpow_add₀ (by norm_num)]
      push_cast
      ring
    · exact ⟨⟨m, q⟩, if_neg (by omega), value_le⟩

/-- A natural number is not rounded beyond a double above it. -/
lemma ofNat_le {n c : Nat} {k : Int} (c_lt : c < 2 ^ 53) (min_le : minExponent ≤ k)
    (le_max : k ≤ maxExponent) (le : (n : ℚ) ≤ c * 2 ^ k) :
    ∃ m, ofNat n = .finite false m ∧ m.value ≤ c * 2 ^ k := by
  refine ofRatio_le Nat.one_pos c_lt min_le le_max ?_
  rwa [Nat.cast_one, div_one]

/-- Numerators over the common power of two stand for the magnitudes. -/
lemma align_eq (a b : Magnitude) : ∃ x y : Nat, ∃ e : Int, align false a false b = (↑x, ↑y, e) ∧
    a.value = x * 2 ^ e ∧ b.value = y * 2 ^ e := by
  have scale (m : Magnitude) (e : Int) (le : e ≤ m.exponent) :
      m.value = (m.mantissa * Nat.pow 2 (m.exponent - e).toNat : Nat) * 2 ^ e := by
    obtain ⟨m, q⟩ := m
    obtain ⟨n, rfl⟩ : ∃ n : Nat, q = e + n := ⟨(q - e).toNat, by dsimp only at le; omega⟩
    rw [show (e + n - e : Int).toNat = n by omega, Magnitude.value, zpow_add₀ (by norm_num)]
    push_cast [Nat.pow_eq]
    rw [zpow_natCast]
    ring
  refine ⟨_, _, _, rfl, ?_, ?_⟩
  · exact scale a _ (min_le_left _ _)
  · exact scale b _ (min_le_right _ _)

/-- A scaled whole number is a fraction to be rounded. -/
lemma ofScaled_eq (negative : Bool) (m : Nat) (e : Int) :
    ofScaled negative m e = ofRatio negative (scaleTwo m 1 e).1 (scaleTwo m 1 e).2 := rfl

/-- The sum of two finite doubles: their mantissas are aligned, added and rounded. -/
lemma finite_add (s t : Bool) (a b : Magnitude) : Double.finite s a + Double.finite t b =
    if (align s a t b).1 + (align s a t b).2.1 = 0 then zero (s && t)
    else ofScaled (decide ((align s a t b).1 + (align s a t b).2.1 < 0))
      ((align s a t b).1 + (align s a t b).2.1).natAbs (align s a t b).2.2 := rfl

/-- The product of two finite doubles: mantissas are multiplied, exponents added. -/
lemma finite_mul (s t : Bool) (a b : Magnitude) : Double.finite s a * Double.finite t b =
    ofScaled (s != t) (a.mantissa * b.mantissa) (a.exponent + b.exponent) := rfl

/-- The quotient of two finite doubles, and what division by zero gives. -/
lemma finite_div (s t : Bool) (a b : Magnitude) : Double.finite s a / Double.finite t b =
    if b.mantissa = 0 then if a.mantissa = 0 then .nan else .infinite (s != t)
    else ofRatio (s != t) (scaleTwo a.mantissa b.mantissa (a.exponent - b.exponent)).1
      (scaleTwo a.mantissa b.mantissa (a.exponent - b.exponent)).2 := rfl

/-- Finite doubles are compared by their aligned mantissas. -/
lemma finite_lt (s t : Bool) (a b : Magnitude) : Double.finite s a < Double.finite t b ↔
    (align s a t b).1 < (align s a t b).2.1 := decide_eq_true_iff

/-- A sum is not rounded beyond a double above it. -/
lemma add_le {a b : Magnitude} {c : Nat} {k : Int} (c_lt : c < 2 ^ 53) (min_le : minExponent ≤ k)
    (le_max : k ≤ maxExponent) (le : a.value + b.value ≤ c * 2 ^ k) :
    ∃ m, Double.finite false a + Double.finite false b = .finite false m ∧ m.value ≤ c * 2 ^ k := by
  obtain ⟨x, y, e, aligned, a_eq, b_eq⟩ := align_eq a b
  rw [finite_add, aligned]
  dsimp only
  split
  · exact ⟨⟨0, minExponent⟩, rfl,
      by simp only [Magnitude.value, Nat.cast_zero, zero_mul]; positivity⟩
  · have sum : ((x : Int) + y).natAbs = x + y := by omega
    rw [decide_eq_false (by omega), sum, ofScaled_eq]
    obtain ⟨pos, scaled⟩ := scaleTwo_eq (x + y) Nat.one_pos e
    refine ofRatio_le pos c_lt min_le le_max ?_
    rw [scaled]
    push_cast
    rw [div_one, add_mul, ← a_eq, ← b_eq]
    exact le

/-- A quotient is not rounded beyond a double above it. -/
lemma div_le {a b : Magnitude} {c : Nat} {k : Int} (b_pos : 0 < b.mantissa) (c_lt : c < 2 ^ 53)
    (min_le : minExponent ≤ k) (le_max : k ≤ maxExponent) (le : a.value / b.value ≤ c * 2 ^ k) :
    ∃ m, Double.finite false a / Double.finite false b = .finite false m ∧ m.value ≤ c * 2 ^ k := by
  rw [finite_div, if_neg b_pos.ne']
  obtain ⟨pos, scaled⟩ := scaleTwo_eq a.mantissa b_pos (a.exponent - b.exponent)
  refine ofRatio_le pos c_lt min_le le_max ?_
  rw [scaled, zpow_sub₀ (by norm_num)]
  refine le_of_eq_of_le ?_ le
  unfold Magnitude.value
  field_simp

/-- Doubles without a sign are ordered as the numbers that they stand for. -/
lemma lt_iff {a b : Magnitude} :
    Double.finite false a < Double.finite false b ↔ a.value < b.value := by
  obtain ⟨x, y, e, aligned, a_eq, b_eq⟩ := align_eq a b
  rw [finite_lt, aligned, a_eq, b_eq, mul_lt_mul_iff_left₀ (by positivity)]
  exact Int.ofNat_lt.trans Nat.cast_lt.symm

/-- The sign of a double; what is no number has none. -/
def isSigned : Double → Bool
  | .nan => false
  | .infinite s => s
  | .finite s _ => s

/-- Rounding keeps the sign. -/
lemma isSigned_ofRatio (negative : Bool) (num den : Nat) :
    (ofRatio negative num den).isSigned = negative := by
  unfold ofRatio
  split
  · rfl
  · dsimp only
    split <;> split <;> rfl

/-- A product of doubles without a sign has none. -/
lemma isSigned_mul {a b : Double} (ha : a.isSigned = false) (hb : b.isSigned = false) :
    (a * b).isSigned = false := by
  cases a with
  | nan => rfl
  | infinite s =>
    cases ha
    cases b with
    | nan => rfl
    | infinite t => cases hb; rfl
    | finite t b =>
      cases hb
      show (if b.mantissa = 0 then Double.nan else .infinite false).isSigned = false
      split <;> rfl
  | finite s a =>
    cases ha
    cases b with
    | nan => rfl
    | infinite t =>
      cases hb
      show (if a.mantissa = 0 then Double.nan else .infinite false).isSigned = false
      split <;> rfl
    | finite t b =>
      cases hb
      rw [finite_mul]
      exact isSigned_ofRatio false _ _

/-- A double above another one without a sign has no sign. -/
lemma isSigned_of_lt {a b : Double} (ha : a.isSigned = false) (lt : a < b) :
    b.isSigned = false := by
  cases a with
  | nan => cases lt
  | infinite s =>
    cases ha
    cases b <;> cases lt
  | finite s a =>
    cases ha
    cases b with
    | nan => rfl
    | infinite t =>
      cases t with
      | false => rfl
      | true => cases lt
    | finite t b =>
      cases t with
      | false => rfl
      | true =>
        -- one numerator is at least zero and the other at most
        rw [finite_lt] at lt
        have left : 0 ≤ (align false a true b).1 := Int.natCast_nonneg _
        have right : (align false a true b).2.1 ≤ 0 :=
          Int.neg_nonpos_of_nonneg (Int.natCast_nonneg _)
        omega

end Double

end Fleet
