import Fleet.Proofs.Double.Exact
import Fleet.Retry

/-!
# Delays of whole seconds

Whole seconds up to `2 ^ 53` pass through doubles unchanged (`seconds_ofSecs`,
`ofSeconds?_of_standsFor`). So a budget of such durations with a whole factor multiplies its delay
exactly and stops at the ceiling, also where the product is rounded or no finite double at all
(`BackedOff.recordFailure`).

`backoff base factor ceiling k` is the delay after `k` failures in whole numbers: the base times the
factor for each of them, up to the ceiling. `BackedOff` says of a budget that its delay is that one.
A product at most the ceiling is at most `2 ^ 53` and exact; one above the ceiling may be anything,
but it is rounded to no less than the ceiling, and the lesser of the two is the ceiling again
(`standsFor_lesser_mul`).
-/

namespace Fleet

namespace Duration

variable {n : Nat}

/-- Whole seconds of a duration of seconds. -/
lemma secs_ofSecs (n : Nat) : (ofSecs n).secs = n := by
  unfold secs ofSecs
  exact Nat.mul_div_cancel n (by decide)

/-- A duration of seconds has no rest. -/
lemma subsecNanos_ofSecs (n : Nat) : (ofSecs n).subsecNanos = 0 := by
  unfold subsecNanos ofSecs
  exact Nat.mul_mod_left n perSecond

/-- No nanoseconds are no part of a second. -/
lemma zero_div_perSecond :
    ((0 : Nat) : Double) / (perSecond : Double) = .finite false ⟨0, Double.minExponent⟩ := by decide

/-- Whole seconds of up to 53 bits are not rounded. -/
lemma standsFor_seconds {d : Duration} (whole : d.secs = n) (rest : d.subsecNanos = 0)
    (le : n ≤ 2 ^ 53) : (d.seconds Double).StandsFor n := by
  have none : Double.StandsFor (.finite false ⟨0, Double.minExponent⟩) 0 :=
    ⟨⟨0, Double.minExponent⟩, rfl, by simp [Double.Magnitude.value]⟩
  unfold seconds
  rw [whole, rest, zero_div_perSecond]
  exact Double.standsFor_add (Double.standsFor_ofNat le) none le (add_zero _)

/-- Whole seconds up to `2 ^ 53` are a double. -/
lemma seconds_ofSecs (le : n ≤ 2 ^ 53) : ((ofSecs n).seconds Double).StandsFor n :=
  standsFor_seconds (secs_ofSecs n) (subsecNanos_ofSecs n) le

/-- A double that stands for whole seconds is turned into them. -/
lemma ofSeconds?_of_standsFor {x : Double} (stands : x.StandsFor n) (lt : n < limitSecs) :
    ofSeconds? x = some (ofSecs n) := by
  obtain ⟨m, rfl, value⟩ := stands
  obtain ⟨pos, scaled⟩ := Double.scaleTwo_eq (m.mantissa * perSecond) Nat.one_pos m.exponent
  have made : ofMagnitude m = ofSecs n := by
    unfold ofMagnitude ofSecs
    dsimp only
    congr 1
    apply roundRatio_eq pos
    have pos' : (0 : ℚ) < (Double.scaleTwo (m.mantissa * perSecond) 1 m.exponent).2 := by
      exact_mod_cast pos
    have nanos : ((Double.scaleTwo (m.mantissa * perSecond) 1 m.exponent).1 : ℚ) /
        (Double.scaleTwo (m.mantissa * perSecond) 1 m.exponent).2 = (n * perSecond : Nat) := by
      rw [scaled, Nat.cast_mul, Nat.cast_mul, ← value, Double.Magnitude.value]
      push_cast
      ring
    rw [div_eq_iff pos'.ne'] at nanos
    exact_mod_cast nanos
  simp only [ofSeconds?, Bool.false_eq_true, false_and, if_false]
  rw [made, secs_ofSecs, if_pos lt]

/-- The longer of two durations of seconds is the one with more of them. -/
lemma max_ofSecs {m : Nat} (le : n ≤ m) : (ofSecs m).max (ofSecs n) = ofSecs m :=
  if_neg (Nat.not_lt_of_le (Nat.mul_le_mul_right perSecond le))

end Duration

namespace Retry

variable {r : Retry} {x y z f : Double} {base ceiling factor budget d k : Nat}

/-- A product that is cut off at a whole number is exact. -/
lemma standsFor_lesser_mul (hx : x.StandsFor d) (hf : f.StandsFor factor) (hz : z.StandsFor ceiling)
    (le : ceiling ≤ 2 ^ 53) : (lesser (x * f) z).StandsFor (min (d * factor) ceiling : Nat) := by
  unfold lesser
  obtain below | reached := lt_or_ge (d * factor) ceiling
  · have product : (x * f).StandsFor (d * factor : Nat) :=
      Double.standsFor_mul hx hf (below.le.trans le) (by push_cast; rfl)
    rw [if_pos ((product.lt_iff hz).2 (by exact_mod_cast below)), min_eq_left below.le]
    exact product
  · -- the product may be rounded, but not below the ceiling
    have product : (x * f).AtLeast ceiling :=
      Double.atLeast_mul hx hf le (by exact_mod_cast reached)
    rw [if_neg (product.not_lt hz), min_eq_right reached]
    exact hz

/-- Whole seconds multiplied with every failure, up to a ceiling. -/
def backoff (base factor ceiling k : Nat) : Nat := min (base * factor ^ k) ceiling

/-- Without failures the delay is the base. -/
lemma backoff_zero (le : base ≤ ceiling) : backoff base factor ceiling 0 = base := by
  unfold backoff
  rw [pow_zero, mul_one, min_eq_left le]

/-- The ceiling is kept once it was reached. -/
lemma backoff_succ (pos : 1 ≤ factor) :
    backoff base factor ceiling (k + 1) = min (backoff base factor ceiling k * factor) ceiling := by
  unfold backoff
  rw [pow_succ, ← mul_assoc]
  obtain below | reached := le_total (base * factor ^ k) ceiling
  · rw [min_eq_left below]
  · have more : ceiling ≤ base * factor ^ k * factor :=
      reached.trans (Nat.le_mul_of_pos_right _ pos)
    rw [min_eq_right reached, min_eq_right more, min_eq_right (Nat.le_mul_of_pos_right _ pos)]

/-- A delay is not above the ceiling. -/
lemma backoff_le (base factor ceiling k : Nat) : backoff base factor ceiling k ≤ ceiling :=
  min_le_right _ _

/-- More failures give no shorter delay. -/
lemma backoff_mono (pos : 1 ≤ factor) : Monotone (backoff base factor ceiling) := by
  intro j k le
  exact min_le_min_right _ (Nat.mul_le_mul_left base (Nat.pow_le_pow_right pos le))

/-- A delay is not below the base. -/
lemma le_backoff (pos : 1 ≤ factor) (le : base ≤ ceiling) (k : Nat) :
    base ≤ backoff base factor ceiling k :=
  (backoff_zero le).symm.le.trans (backoff_mono pos (Nat.zero_le k))

/-- A budget of whole seconds after failures in a row. -/
structure BackedOff (base factor ceiling k : Nat) (r : Retry) : Prop where
  delay : r.delay = .ofSecs (backoff base factor ceiling k)
  base : r.base = .ofSecs base
  ceiling : r.ceiling = .ofSecs ceiling
  factor : r.factor.StandsFor factor

/-- A whole factor above zero is not clamped. -/
lemma standsFor_clampFactor (stands : f.StandsFor factor) (pos : 1 ≤ factor) :
    (clampFactor f).StandsFor factor := by
  have one : Double.one.StandsFor (1 : Nat) := Double.standsFor_ofNat (by decide)
  unfold clampFactor
  split
  · exact stands
  · rename_i notAbove
    rw [one.lt_iff stands, not_lt] at notAbove
    have le : factor ≤ 1 := by exact_mod_cast notAbove
    rw [le_antisymm le pos]
    exact one

/-- A new budget has had no failure. -/
lemma backedOff_new (stands : f.StandsFor factor) (pos : 1 ≤ factor) (le : base ≤ ceiling)
    (budget : Nat) :
    (new (.ofSecs base) (.ofSecs ceiling) f budget).BackedOff base factor ceiling 0 where
  base := rfl
  ceiling := Duration.max_ofSecs le
  factor := standsFor_clampFactor stands pos
  delay := congrArg Duration.ofSecs (backoff_zero le).symm

/-- After a success there is no failure in a row. -/
lemma BackedOff.reset (backed : r.BackedOff base factor ceiling k) (le : base ≤ ceiling) :
    r.reset.BackedOff base factor ceiling 0 :=
  { backed with delay := backed.base.trans (congrArg Duration.ofSecs (backoff_zero le).symm) }

/-- The seconds after one more failure are worked out exactly. -/
lemma BackedOff.nextSeconds (backed : r.BackedOff base factor ceiling k) (pos : 1 ≤ factor)
    (le : ceiling ≤ 2 ^ 53) : r.nextSeconds.StandsFor (backoff base factor ceiling (k + 1)) := by
  have delay := Duration.seconds_ofSecs ((backoff_le base factor ceiling k).trans le)
  unfold Retry.nextSeconds
  rw [backed.delay, backed.ceiling, backoff_succ pos]
  exact standsFor_lesser_mul delay backed.factor (Duration.seconds_ofSecs le) le

/-- One more failure multiplies the delay once more, up to the ceiling. -/
lemma BackedOff.recordFailure (backed : r.BackedOff base factor ceiling k) (pos : 1 ≤ factor)
    (le : ceiling ≤ 2 ^ 53) : r.recordFailure.BackedOff base factor ceiling (k + 1) := by
  have lt : backoff base factor ceiling (k + 1) < Duration.limitSecs :=
    ((backoff_le base factor ceiling (k + 1)).trans le).trans_lt (by decide)
  have delay : r.nextDelay = .ofSecs (backoff base factor ceiling (k + 1)) := by
    unfold nextDelay Duration.ofSeconds
    rw [Duration.ofSeconds?_of_standsFor (backed.nextSeconds pos le) lt]
    rfl
  exact { backed with delay }

end Retry

end Fleet
