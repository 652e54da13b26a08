import Fleet.Proofs.Double.Rounding

/-!
# Exact doubles

Rounding never goes below a double that is not above the fraction (`le_ofRatio`), nor beyond one
that is not below it, so a fraction that is a double is not rounded at all. Whole numbers up to
`2 ^ 53` are doubles, and sums and products that come to such a number are exact (`standsFor_add`,
`standsFor_mul`).

`StandsFor x v` says that the double `x` is finite, not negative and has the value `v`;
`AtLeast x v` that it is not below `v`, or infinite. Both are about values, so the facts below are
used without a look at mantissas and exponents. The bound from below is needed where an exact value
may be no double: a product above a ceiling may be rounded or overflow, but it is not rounded below
the ceiling (`atLeast_mul`).
-/

namespace Fleet

/-- A fraction is not rounded below a whole number that it is not below. -/
lemma le_roundRatio {num den bound : Nat} (pos : 0 < den) (le : bound * den ≤ num) :
    bound ≤ roundRatio num den := by
  have quotient : bound ≤ num / den := (Nat.le_div_iff_mul_le pos).2 le
  unfold roundRatio
  dsimp only
  split_ifs <;> omega

/-- A whole number is not rounded. -/
lemma roundRatio_eq {num den whole : Nat} (pos : 0 < den) (eq : num = whole * den) :
    roundRatio num den = whole :=
  le_antisymm (roundRatio_le eq.le) (le_roundRatio pos eq.ge)

namespace Double

/-- A double without a sign that stands for a number. -/
def StandsFor (x : Double) (v : ℚ) : Prop := ∃ m : Magnitude, x = .finite false m ∧ m.value = v

/-- A double without a sign that is not below a number. -/
def AtLeast (x : Double) (v : ℚ) : Prop :=
  x = .infinite false ∨ ∃ m : Magnitude, x = .finite false m ∧ v ≤ m.value

variable {x y : Double} {num den c n : Nat} {k : Int} {v w : ℚ}

/-! ### Rounding from below -/

/-- A fraction scaled by a power of two is not rounded below a whole number that it is not below. -/
lemma le_roundRatio_scaleTwo {bound : Nat} (den_pos : 0 < den) {e : Int}
    (le : (bound : ℚ) ≤ num / den * 2 ^ e) :
    bound ≤ roundRatio (scaleTwo num den e).1 (scaleTwo num den e).2 := by
  obtain ⟨pos, scaled⟩ := scaleTwo_eq num den_pos e
  have pos' : (0 : ℚ) < (scaleTwo num den e).2 := by exact_mod_cast pos
  rw [← scaled, le_div_iff₀ pos'] at le
  exact le_roundRatio pos (by exact_mod_cast le)

/-- The mantissa of a fraction at its own exponent has full length. -/
lemma fullMantissa_le_roundRatio (num_pos : 0 < num) (den_pos : 0 < den) :
    2 ^ 52 ≤ roundRatio (scaleTwo num den (-(leadingExponent num den - 52))).1
      (scaleTwo num den (-(leadingExponent num den - 52))).2 := by
  have lead := two_pow_leadingExponent_le num_pos den_pos
  apply le_roundRatio_scaleTwo den_pos
  calc ((2 ^ 52 : Nat) : ℚ) =
    2 ^ leadingExponent num den * 2 ^ (-(leadingExponent num den - 52)) := by
        rw [← zpow_add₀ (by norm_num), Nat.cast_pow, Nat.cast_ofNat, ← zpow_natCast]
        congr 1
        push_cast
        ring
    _ ≤ num / den * 2 ^ (-(leadingExponent num den - 52)) := by gcongr

/-- A mantissa is not rounded below a double that the fraction is not below. -/
lemma le_mantissa (den_pos : 0 < den) {q : Int} (q_le : q ≤ k) (le : c * (2 : ℚ) ^ k ≤ num / den) :
    c * 2 ^ (k - q).toNat ≤ roundRatio (scaleTwo num den (-q)).1 (scaleTwo num den (-q)).2 := by
  obtain ⟨j, rfl⟩ : ∃ j : Nat, k = q + j := ⟨(k - q).toNat, by omega⟩
  rw [show (q + j - q : Int).toNat = j by omega]
  apply le_roundRatio_scaleTwo den_pos
  calc ((c * 2 ^ j : Nat) : ℚ) = c * 2 ^ (q + j) * 2 ^ (-q) := by
        rw [mul_assoc, ← zpow_add₀ (by norm_num), Nat.cast_mul, Nat.cast_pow, Nat.cast_ofNat,
          ← zpow_natCast]
        congr 2
        ring
    _ ≤ num / den * 2 ^ (-q) := by gcongr

/-- A mantissa of full length at a larger exponent is no smaller. -/
lemma value_le_of_lt (c_lt : c < 2 ^ 53) {m : Nat} {q : Int} (lt : k < q) (full : 2 ^ 52 ≤ m) :
    c * (2 : ℚ) ^ k ≤ m * 2 ^ q := by
  have full' : (2 : ℚ) ^ 52 ≤ m := by exact_mod_cast full
  calc (c : ℚ) * 2 ^ k ≤ 2 ^ 53 * 2 ^ k := by
        gcongr
        exact_mod_cast c_lt.le
    _ = 2 ^ 52 * 2 ^ (k + 1) := by
        rw [zpow_add₀ (by norm_num)]
        ring
    _ ≤ 2 ^ 52 * 2 ^ q := by
        gcongr
        · norm_num
        · omega
    _ ≤ m * 2 ^ q := by gcongr

/-- A rounded mantissa at the exponent of a fraction is not below a double that the fraction is not
below. -/
lemma le_rounded (num_pos : 0 < num) (den_pos : 0 < den) (c_lt : c < 2 ^ 53)
    (min_le : minExponent ≤ k) (le : c * (2 : ℚ) ^ k ≤ num / den) {q : Int}
    (q_eq : q = max (leadingExponent num den - 52) minExponent) :
    c * (2 : ℚ) ^ k ≤ roundRatio (scaleTwo num den (-q)).1 (scaleTwo num den (-q)).2 * 2 ^ q := by
  obtain q_le | lt_q := le_or_gt q k
  · have m_le := le_mantissa den_pos q_le le
    generalize roundRatio (scaleTwo num den (-q)).1 (scaleTwo num den (-q)).2 = m at m_le ⊢
    obtain ⟨j, rfl⟩ : ∃ j : Nat, k = q + j := ⟨(k - q).toNat, by omega⟩
    rw [show (q + j - q : Int).toNat = j by omega] at m_le
    have m_le' : (c : ℚ) * 2 ^ j ≤ m := by exact_mod_cast m_le
    calc (c : ℚ) * 2 ^ (q + j) = c * 2 ^ j * 2 ^ q := by
          rw [zpow_add₀ (by norm_num), zpow_natCast]
          ring
      _ ≤ m * 2 ^ q := by gcongr
  · -- the exponent is not the least one, so the mantissa has full length
    have lead : q = leadingExponent num den - 52 := by omega
    exact value_le_of_lt c_lt lt_q (lead ▸ fullMantissa_le_roundRatio num_pos den_pos)

/-- The nearest double to a fraction is never below a double that the fraction is not below. -/
lemma le_ofRatio (den_pos : 0 < den) (c_lt : c < 2 ^ 53) (min_le : minExponent ≤ k)
    (le : c * (2 : ℚ) ^ k ≤ num / den) : (ofRatio false num den).AtLeast (c * 2 ^ k) := by
  unfold ofRatio
  split
  · rename_i zero
    obtain rfl : num = 0 := by omega
    refine .inr ⟨⟨0, minExponent⟩, rfl, le.trans ?_⟩
    simp [Magnitude.value]
  · rename_i nonzero
    have value_le := le_rounded (by omega) den_pos c_lt min_le le rfl
    dsimp only
    generalize max (leadingExponent num den - 52) minExponent = q at value_le ⊢
    generalize roundRatio (scaleTwo num den (-q)).1 (scaleTwo num den (-q)).2 = m at value_le ⊢
    split_ifs with full above above
    · exact .inl rfl
    · refine .inr ⟨_, rfl, value_le.trans_eq ?_⟩
      rw [full, Magnitude.value, zpow_add₀ (by norm_num)]
      push_cast
      ring
    · exact .inl rfl
    · exact .inr ⟨_, rfl, value_le⟩

/-! ### Whole numbers -/

/-- Whole numbers of 53 bits are doubles, and so is the one after them. -/
lemma exists_whole (le : n ≤ 2 ^ 53) :
    ∃ c : Nat, ∃ k : Int, c < 2 ^ 53 ∧ minExponent ≤ k ∧ k ≤ maxExponent ∧
    (n : ℚ) = c * 2 ^ k := by
  obtain rfl | lt := le.eq_or_lt
  · exact ⟨1, 53, by decide, by decide, by decide, by norm_num⟩
  · exact ⟨n, 0, lt, by decide, by decide, by simp⟩

/-- A fraction is not rounded below a double whole number that it is not below. -/
lemma atLeast_ofRatio (den_pos : 0 < den) (n_le : n ≤ 2 ^ 53) (le : (n : ℚ) ≤ num / den) :
    (ofRatio false num den).AtLeast n := by
  obtain ⟨c, k, c_lt, min_le, -, eq⟩ := exists_whole n_le
  rw [eq] at le ⊢
  exact le_ofRatio den_pos c_lt min_le le

/-- A fraction that is a whole number of at most 53 bits is not rounded. -/
lemma standsFor_ofRatio (den_pos : 0 < den) (n_le : n ≤ 2 ^ 53) (eq : (num : ℚ) / den = n) :
    (ofRatio false num den).StandsFor n := by
  have low := atLeast_ofRatio den_pos n_le eq.ge
  obtain ⟨c, k, c_lt, min_le, le_max, whole⟩ := exists_whole n_le
  have high : ∃ m, ofRatio false num den = .finite false m ∧ m.value ≤ c * 2 ^ k :=
    ofRatio_le den_pos c_lt min_le le_max (eq.trans whole).le
  obtain ⟨m, m_eq, m_le⟩ := high
  rw [m_eq] at low ⊢
  obtain infinite | ⟨m', same, le_m⟩ := low
  · cases infinite
  · cases same
    exact ⟨m, rfl, le_antisymm (whole ▸ m_le) le_m⟩

/-- A whole number up to `2 ^ 53` is a double. -/
lemma standsFor_ofNat (le : n ≤ 2 ^ 53) : (ofNat n).StandsFor n :=
  standsFor_ofRatio Nat.one_pos le (by rw [Nat.cast_one, div_one])

/-- Doubles that stand for numbers are ordered as these. -/
lemma StandsFor.lt_iff (hx : x.StandsFor v) (hy : y.StandsFor w) : x < y ↔ v < w := by
  obtain ⟨a, rfl, rfl⟩ := hx
  obtain ⟨b, rfl, rfl⟩ := hy
  exact Double.lt_iff

/-- A double that is not below a number is not below one that stands for it. -/
lemma AtLeast.not_lt (hx : x.AtLeast v) (hy : y.StandsFor v) : ¬ x < y := by
  obtain ⟨b, rfl, rfl⟩ := hy
  obtain rfl | ⟨a, rfl, le⟩ := hx
  · exact nofun
  · rw [Double.lt_iff]
    exact le.not_gt

/-! ### Sums and products -/

/-- A scaled number is rounded as the fraction that it is. -/
lemma exists_ofScaled (m : Nat) (e : Int) :
    ∃ num den, 0 < den ∧ ofScaled false m e = ofRatio false num den ∧
    (num : ℚ) / den = m * 2 ^ e := by
  obtain ⟨pos, scaled⟩ := scaleTwo_eq m Nat.one_pos e
  refine ⟨_, _, pos, ofScaled_eq false m e, scaled.trans ?_⟩
  rw [Nat.cast_one, div_one]

/-- A product is the exact one, rounded. -/
lemma exists_mul (hx : x.StandsFor v) (hy : y.StandsFor w) : ∃ num den, 0 < den ∧
    x * y = ofRatio false num den ∧ (num : ℚ) / den = v * w := by
  obtain ⟨a, rfl, rfl⟩ := hx
  obtain ⟨b, rfl, rfl⟩ := hy
  obtain ⟨num, den, pos, eq, value⟩ :=
    exists_ofScaled (a.mantissa * b.mantissa) (a.exponent + b.exponent)
  refine ⟨num, den, pos, (finite_mul false false a b).trans eq, value.trans ?_⟩
  rw [Magnitude.value, Magnitude.value, zpow_add₀ (by norm_num)]
  push_cast
  ring

/-- A product that comes to such a number is exact. -/
lemma standsFor_mul (hx : x.StandsFor v) (hy : y.StandsFor w) (le : n ≤ 2 ^ 53) (eq : v * w = n) :
    (x * y).StandsFor n := by
  obtain ⟨num, den, pos, product, value⟩ := exists_mul hx hy
  rw [product]
  exact standsFor_ofRatio pos le (value.trans eq)

/-- A product is not rounded below such a number that it is not below. -/
lemma atLeast_mul (hx : x.StandsFor v) (hy : y.StandsFor w) (n_le : n ≤ 2 ^ 53)
    (le : (n : ℚ) ≤ v * w) : (x * y).AtLeast n := by
  obtain ⟨num, den, pos, product, value⟩ := exists_mul hx hy
  rw [product]
  exact atLeast_ofRatio pos n_le (le.trans value.ge)

/-- A sum that comes to such a number is exact. -/
lemma standsFor_add (hx : x.StandsFor v) (hy : y.StandsFor w) (le : n ≤ 2 ^ 53) (eq : v + w = n) :
    (x + y).StandsFor n := by
  obtain ⟨a, rfl, rfl⟩ := hx
  obtain ⟨b, rfl, rfl⟩ := hy
  obtain ⟨p, q, e, aligned, a_eq, b_eq⟩ := align_eq a b
  rw [a_eq, b_eq, ← add_mul] at eq
  rw [finite_add, aligned]
  dsimp only
  split
  · rename_i none
    obtain ⟨rfl, rfl⟩ : p = 0 ∧ q = 0 := by omega
    rw [Nat.cast_zero, add_zero, zero_mul] at eq
    exact ⟨_, rfl, by rw [← eq, Magnitude.value, Nat.cast_zero, zero_mul]⟩
  · have sum : ((p : Int) + q).natAbs = p + q := by omega
    rw [decide_eq_false (by omega), sum]
    obtain ⟨num, den, pos, rounded, value⟩ := exists_ofScaled (p + q) e
    rw [rounded]
    refine standsFor_ofRatio pos le (value.trans ?_)
    rw [← eq, Nat.cast_add]

end Double

end Fleet
