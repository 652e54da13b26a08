import Fleet.Proofs.Double.Rounding
import Fleet.Retry

/-!
# Delays of a retry budget

A delay is turned into a double of seconds, multiplied and turned back. No step of that leaves the
range of durations while the ceiling is below `2 ^ 63` seconds (`Retry.InRange.isSome_ofSeconds?`),
so the delay after a failure never falls back to no time at all.

The lesser of the product and the ceiling is no more than the ceiling, in doubles, whatever the
product has been rounded to. The double of a duration may be rounded up, but not beyond half as much
again as the power of two above it (`seconds_le`), which leaves such a ceiling inside the range; and
turning seconds back does not round beyond a whole number above them (`secs_ofMagnitude_le`).
`InRange` is what a budget keeps from one probe to the next.
-/

namespace Fleet

namespace Duration

/-- A billion is a double. -/
lemma ofNat_perSecond : Double.ofNat perSecond = .finite false ⟨8388608000000000, -23⟩ := by decide

/-- A natural number is not rounded beyond a whole double above it. -/
lemma ofNat_le {n c : Nat} (c_lt : c < 2 ^ 53) (le : n ≤ c) :
    ∃ m, Double.ofNat n = .finite false m ∧ m.value ≤ c := by
  have le' : (n : ℚ) ≤ c * 2 ^ (0 : Int) := by
    rw [zpow_zero, mul_one]
    exact_mod_cast le
  obtain ⟨m, eq, bound⟩ := Double.ofNat_le c_lt (by decide) (by decide) le'
  rw [zpow_zero, mul_one] at bound
  exact ⟨m, eq, bound⟩

/-- Nanoseconds beyond the whole seconds are at most one second. -/
lemma subsec_le (d : Duration) :
    ∃ m, (d.subsecNanos : Double) / (perSecond : Double) = .finite false m ∧ m.value ≤ 1 := by
  have lt : d.subsecNanos < perSecond := Nat.mod_lt _ (by decide)
  obtain ⟨m, eq, bound⟩ := ofNat_le (by decide) lt.le
  have quotient : m.value / (⟨8388608000000000, -23⟩ : Double.Magnitude).value ≤
      (1 : Nat) * 2 ^ (0 : Int) := by
    have billion : (⟨8388608000000000, -23⟩ : Double.Magnitude).value = (perSecond : ℚ) := by
      norm_num [Double.Magnitude.value, perSecond, zpow_neg]
    rw [billion, div_le_iff₀ (by norm_num [perSecond])]
    norm_num
    exact bound
  show ∃ m, Double.ofNat d.subsecNanos / Double.ofNat perSecond = .finite false m ∧ m.value ≤ 1
  rw [eq, ofNat_perSecond]
  obtain ⟨q, eq', bound'⟩ := Double.div_le (by decide) (by decide) (by decide) (by decide) quotient
  refine ⟨q, eq', bound'.trans_eq ?_⟩
  norm_num

/-- Seconds of a duration as a double: no more than half as much again as the power of two above. -/
lemma seconds_le {d : Duration} {k : Nat} (pos : 0 < k) (k_le : k ≤ 900)
    (lt : d.secs < 2 ^ (k + 1)) :
    ∃ m, d.seconds Double = .finite false m ∧ m.value ≤ 3 * 2 ^ k := by
  have whole : (d.secs : ℚ) ≤ (2 : Nat) * 2 ^ (k : Int) := by
    rw [zpow_natCast, Nat.cast_ofNat, ← pow_succ']
    exact_mod_cast lt.le
  have min_le : Double.minExponent ≤ k := le_trans (by decide) (Int.natCast_nonneg k)
  have le_max : (k : Int) ≤ Double.maxExponent := by
    show (k : Int) ≤ 971
    omega
  obtain ⟨a, a_eq, a_le⟩ := Double.ofNat_le (by decide) min_le le_max whole
  obtain ⟨b, b_eq, b_le⟩ := subsec_le d
  have one_le : (1 : ℚ) ≤ 2 ^ k := one_le_pow₀ (by norm_num)
  have sum : a.value + b.value ≤ (3 : Nat) * 2 ^ (k : Int) := by
    rw [zpow_natCast] at a_le ⊢
    push_cast at a_le ⊢
    linarith
  obtain ⟨m, m_eq, m_le⟩ := Double.add_le (by decide) min_le le_max sum
  refine ⟨m, ?_, ?_⟩
  · show Double.ofNat d.secs + (d.subsecNanos : Double) / (perSecond : Double) = _
    rw [a_eq, b_eq, m_eq]
  · rw [zpow_natCast] at m_le
    exact_mod_cast m_le

/-- A magnitude of seconds is not rounded to a longer duration than a whole number of seconds above
it. -/
lemma secs_ofMagnitude_le {m : Double.Magnitude} {bound : Nat} (le : m.value ≤ bound) :
    (ofMagnitude m).secs ≤ bound := by
  obtain ⟨pos, scaled⟩ := Double.scaleTwo_eq (m.mantissa * perSecond) Nat.one_pos m.exponent
  have nanos : (ofMagnitude m).nanos ≤ bound * perSecond := by
    apply roundRatio_le
    have pos' : (0 : ℚ) < (Double.scaleTwo (m.mantissa * perSecond) 1 m.exponent).2 := by
      exact_mod_cast pos
    have fraction : ((Double.scaleTwo (m.mantissa * perSecond) 1 m.exponent).1 : ℚ) /
        (Double.scaleTwo (m.mantissa * perSecond) 1 m.exponent).2 ≤ (bound * perSecond : Nat) := by
      rw [scaled]
      push_cast
      calc (m.mantissa : ℚ) * perSecond / 1 * 2 ^ m.exponent
          = m.value * perSecond := by
            unfold Double.Magnitude.value
            ring
        _ ≤ bound * perSecond := by gcongr
    rw [div_le_iff₀ pos'] at fraction
    exact_mod_cast fraction
  exact Nat.div_le_of_le_mul (by rwa [Nat.mul_comm] at nanos)

/-- A double of seconds without a sign that is not too long is a duration. -/
lemma isSome_ofSeconds? {m : Double.Magnitude} {bound : Nat} (le : m.value ≤ bound)
    (lt : bound < limitSecs) : (ofSeconds? (.finite false m)).isSome := by
  have secs := secs_ofMagnitude_le le
  have less : (ofMagnitude m).secs < limitSecs := by omega
  simp only [ofSeconds?, Bool.false_eq_true, false_and, if_false, if_pos less, Option.isSome_some]

/-- Durations of doubles are in range. -/
lemma secs_ofSeconds_lt (x : Double) : (ofSeconds x).secs < limitSecs := by
  unfold ofSeconds
  cases eq : ofSeconds? x with
  | none => exact Nat.pow_pos (by decide)
  | some d =>
    unfold ofSeconds? at eq
    split at eq
    · split at eq
      · cases eq
      · split at eq
        · rename_i less
          cases eq
          exact less
        · cases eq
    · cases eq

end Duration

namespace Retry

/-- A factor has no sign. -/
lemma isSigned_clampFactor (f : Double) : (clampFactor f).isSigned = false := by
  unfold clampFactor
  split
  · rename_i above
    exact Double.isSigned_of_lt (Double.isSigned_ofRatio false 1 1) above
  · exact Double.isSigned_ofRatio false 1 1

/-- Budgets whose delays can be worked out: the factor has no sign, the delay is a duration, and the
ceiling is short enough for its rounding. -/
structure InRange (r : Retry) : Prop where
  factor : r.factor.isSigned = false
  delay : r.delay.secs < Duration.limitSecs
  base : r.base.secs < Duration.limitSecs
  ceiling : r.ceiling.secs < 2 ^ 63

/-- A fresh budget is in range if both of its durations are. -/
lemma inRange_new {base ceiling : Duration} (base_lt : base.secs < 2 ^ 63)
    (ceiling_lt : ceiling.secs < 2 ^ 63) (factor : Double) (budget : Nat) :
    (new base ceiling factor budget).InRange where
  factor := isSigned_clampFactor factor
  delay := base_lt.trans (by decide)
  base := base_lt.trans (by decide)
  ceiling := by
    show (ceiling.max base).secs < 2 ^ 63
    unfold Duration.max
    split
    · exact base_lt
    · exact ceiling_lt

/-- A success leaves the delay in range. -/
lemma InRange.reset {r : Retry} (inRange : r.InRange) : r.reset.InRange :=
  { inRange with delay := inRange.base }

/-- A failure leaves the delay in range. -/
lemma InRange.recordFailure {r : Retry} (inRange : r.InRange) : r.recordFailure.InRange :=
  { inRange with delay := Duration.secs_ofSeconds_lt _ }

/-- The delay after one more failure is a duration. -/
theorem InRange.isSome_ofSeconds? {r : Retry} (inRange : r.InRange) :
    (Duration.ofSeconds? r.nextSeconds).isSome := by
  -- the double of the ceiling may be rounded up, but not to a length that is no duration
  obtain ⟨c, c_eq, c_le⟩ := Duration.seconds_le (k := 62) (by decide) (by decide) inRange.ceiling
  obtain ⟨d, d_eq, -⟩ := Duration.seconds_le (k := 63) (by decide) (by decide) inRange.delay
  have short : ((3 * 2 ^ 62 : Nat) : ℚ) = 3 * 2 ^ 62 := by norm_num
  rw [← short] at c_le
  have unsigned : (r.delay.seconds Double * r.factor).isSigned = false := by
    rw [d_eq]
    exact Double.isSigned_mul rfl inRange.factor
  unfold nextSeconds lesser
  rw [c_eq]
  split
  · -- a product below the ceiling is finite, and not below zero
    rename_i below
    cases product : r.delay.seconds Double * r.factor with
    | nan =>
      rw [product] at below
      cases below
    | infinite s =>
      rw [product] at below unsigned
      cases unsigned
      cases below
    | finite s m =>
      rw [product] at below unsigned
      cases unsigned
      have m_le := (Double.lt_iff.1 below).le.trans c_le
      exact Duration.isSome_ofSeconds? m_le (by decide)
  · exact Duration.isSome_ofSeconds? c_le (by decide)

end Retry

end Fleet
