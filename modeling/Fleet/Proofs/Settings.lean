import Fleet.Limiter
import Fleet.Proofs.Double.Rounding
import Fleet.Proofs.Except
import Fleet.Settings.Decode

/-!
# Settings that are accepted

Settings are accepted exactly if they pass the checks (`parse_eq_ok_iff`). The checks let two values
through that are of no use: a time limit of nothing for requests, and a factor that is no number.
Apart from these, accepted settings are usable, and those who use them take every value as it is
(`usable_iff_of_parse`).

Three structures name the conditions field by field: `Checked` is what the checks ask for, one field
for each in their order; `Usable` is what every setting should be; `Unclamped` says of every part of
the program that clamps a value on its way in that it leaves the value alone. The checks are a chain
of refusals, taken apart by one lemma about a link (`check_eq_none_iff`). Both gaps are equivalences
(`Checked.usable_iff`, `Checked.unclamped_iff`), so there are no more of them.
-/

namespace Fleet

/-- Both are numbers, and neither is below the other. -/
structure Double.Same (a b : Double) : Prop where
  left : a ≠ .nan
  right : b ≠ .nan
  notBelow : ¬ a < b
  notAbove : ¬ b < a

/-- No double is below itself. -/
lemma Double.not_lt_self (a : Double) : ¬ a < a := by
  cases a with
  | nan => exact nofun
  | infinite s =>
    cases s with
    | false => exact nofun
    | true => exact nofun
  | finite s m =>
    rw [Double.finite_lt]
    exact lt_irrefl _

/-- A factor is kept if it is a number that is not below one. -/
lemma Retry.same_clampFactor {f : Double} (number : f ≠ .nan) (enough : ¬ f < .one) :
    (clampFactor f).Same f := by
  unfold clampFactor
  split
  · exact ⟨number, number, f.not_lt_self, f.not_lt_self⟩
  · rename_i notMore
    exact ⟨nofun, number, notMore, enough⟩

namespace Settings

variable {c : Settings} {text : String}

/-- What the checks ask of settings. -/
structure Checked (c : Settings) : Prop where
  maxParallel : 1 ≤ c.fanout.maxParallel
  commandMaxParallel : 1 ≤ c.fanout.commandMaxParallel
  versionTimeout : 0 < c.fanout.versionTimeout
  listTimeout : ∀ t, c.fanout.listTimeout = some t → 0 < t
  commandTimeout : ∀ t, c.fanout.commandTimeout = some t → 0 < t
  qps : 1 ≤ c.client.qps
  burst : c.client.qps ≤ c.client.burst
  refreshInterval : 0 < c.supervisor.refreshInterval
  maxDelay : c.supervisor.refreshInterval ≤ c.supervisor.maxDelay
  factor : ¬ c.supervisor.factor < .one
  maxConnRetry : 1 ≤ c.supervisor.maxConnRetry
  probeTimeout : 0 < c.supervisor.probeTimeout
  kubectl : ¬ Text.isAllBlank c.kubectl

/-- Every setting is of use: every bound and every time limit that is set is above zero, intervals
do not exceed their ceilings, and the factor is a number not below one. -/
structure Usable (c : Settings) : Prop extends Checked c where
  requestTimeout : ∀ t, c.client.requestTimeout = some t → 0 < t
  number : c.supervisor.factor ≠ .nan

/-- Batches, buckets and retry budgets are made with the values that are set. -/
structure Unclamped (c : Settings) : Prop where
  maxParallel : ∀ timeout, (Dispatch.Limits.new c.policy.maxParallel timeout).maxParallel =
    c.fanout.maxParallel
  commandMaxParallel : ∀ timeout,
    (Dispatch.Limits.new c.policy.commandMaxParallel timeout).maxParallel =
      c.fanout.commandMaxParallel
  rate : ∀ now, (Limiter.Bucket.new c.client.qps c.client.burst now).rate = (c.client.qps : Double)
  capacity : ∀ now, (Limiter.Bucket.new c.client.qps c.client.burst now).capacity =
    (c.client.burst : Double)
  base : c.supervision.retry.base = .ofSecs c.supervisor.refreshInterval
  ceiling : c.supervision.retry.ceiling = .ofSecs c.supervisor.maxDelay
  factor : c.supervision.retry.factor.Same c.supervisor.factor
  budget : c.supervision.retry.budget = c.supervisor.maxConnRetry

/-! ### Checks -/

/-- A limit is not nothing exactly if it is above zero where it is set. -/
lemma ne_some_zero_iff {limit : Option Nat} : limit ≠ some 0 ↔ ∀ t, limit = some t → 0 < t := by
  constructor
  · rintro set t rfl
    exact Nat.pos_of_ne_zero fun zero => set (by rw [zero])
  · rintro pos rfl
    exact absurd (pos 0 rfl) (lt_irrefl 0)

/-- Nothing is refused if neither a check nor one of those after it refuses. -/
lemma check_eq_none_iff {refused : Prop} [Decidable refused] {e : Failure}
    {later : Option Failure} :
    (if refused then some e else later) = none ↔ ¬ refused ∧ later = none := by
  by_cases h : refused
  · rw [if_pos h]
    exact ⟨nofun, fun both => absurd h both.1⟩
  · rw [if_neg h]
    exact ⟨fun none => ⟨h, none⟩, And.right⟩

/-- No setting is refused exactly if all checks are passed. -/
lemma problem?_eq_none_iff : c.problem? = none ↔ c.Checked := by
  unfold problem?
  simp only [check_eq_none_iff]
  constructor
  · rintro ⟨h₁, h₂, h₃, h₄, h₅, h₆, h₇, h₈, h₉, h₁₀, h₁₁, h₁₂, h₁₃, -⟩
    exact {
      maxParallel := Nat.pos_of_ne_zero h₁
      commandMaxParallel := Nat.pos_of_ne_zero h₂
      versionTimeout := Nat.pos_of_ne_zero h₃
      listTimeout := ne_some_zero_iff.1 h₄
      commandTimeout := ne_some_zero_iff.1 h₅
      qps := Nat.pos_of_ne_zero h₆
      burst := Nat.le_of_not_lt h₇
      refreshInterval := Nat.pos_of_ne_zero h₈
      maxDelay := Nat.le_of_not_lt h₉
      factor := h₁₀
      maxConnRetry := Nat.pos_of_ne_zero h₁₁
      probeTimeout := Nat.pos_of_ne_zero h₁₂
      kubectl := h₁₃ }
  · intro checked
    exact ⟨Nat.ne_of_gt checked.maxParallel, Nat.ne_of_gt checked.commandMaxParallel,
      Nat.ne_of_gt checked.versionTimeout, ne_some_zero_iff.2 checked.listTimeout,
      ne_some_zero_iff.2 checked.commandTimeout, Nat.ne_of_gt checked.qps,
      Nat.not_lt_of_le checked.burst,
      Nat.ne_of_gt checked.refreshInterval, Nat.not_lt_of_le checked.maxDelay, checked.factor,
      Nat.ne_of_gt checked.maxConnRetry, Nat.ne_of_gt checked.probeTimeout, checked.kubectl,
      trivial⟩

/-- Settings are accepted exactly if a document says them and they pass the checks. -/
lemma parse_eq_ok_iff : parse text = .ok c ↔ decode text = .ok c ∧ c.Checked := by
  unfold parse
  cases decode text with
  | error e => exact ⟨nofun, fun both => nomatch both.1⟩
  | ok c' =>
    dsimp only
    rw [← problem?_eq_none_iff]
    constructor
    · intro parsed
      cases refused : c'.problem? with
      | some e =>
        rw [refused] at parsed
        cases parsed
      | none =>
        rw [refused] at parsed
        cases parsed
        exact ⟨rfl, refused⟩
    · rintro ⟨same, none⟩
      cases same
      rw [none]

/-! ### Uses -/

/-- Checked settings are of use but for two gaps. -/
lemma Checked.usable_iff (checked : c.Checked) :
    c.Usable ↔ c.client.requestTimeout ≠ some 0 ∧ c.supervisor.factor ≠ .nan := by
  rw [ne_some_zero_iff]
  exact ⟨fun usable => ⟨usable.requestTimeout, usable.number⟩, fun ⟨limit, number⟩ =>
    ⟨checked, limit, number⟩⟩

/-- Of checked settings, only a factor that is no number is not taken as it is. -/
lemma Checked.unclamped_iff (checked : c.Checked) : c.Unclamped ↔ c.supervisor.factor ≠ .nan := by
  refine ⟨fun unclamped => unclamped.factor.right, fun number => ?_⟩
  have slots {n : Nat} (pos : 1 ≤ n) (timeout : Option Nat) :
      (Dispatch.Limits.new n timeout).maxParallel = n :=
    if_neg (Nat.ne_of_gt pos)
  have capacity : 1 ≤ c.client.burst := checked.qps.trans checked.burst
  have long : (Duration.ofSecs c.supervisor.refreshInterval).nanos ≤
      (Duration.ofSecs c.supervisor.maxDelay).nanos :=
    Nat.mul_le_mul_right _ checked.maxDelay
  have ceiling : c.supervision.retry.ceiling = .ofSecs c.supervisor.maxDelay :=
    if_neg (Nat.not_lt_of_le long)
  exact {
    maxParallel := slots checked.maxParallel
    commandMaxParallel := slots checked.commandMaxParallel
    rate := fun _ => congrArg Nat.cast (Nat.max_eq_left checked.qps)
    capacity := fun _ => congrArg Nat.cast (Nat.max_eq_left capacity)
    base := rfl
    ceiling := ceiling
    factor := Retry.same_clampFactor number checked.factor
    budget := rfl }

/-- Settings are accepted exactly if they pass the checks. Accepted ones are usable, and taken as
they are, but for a time limit of nothing for requests and a factor that is no number. -/
theorem usable_iff_of_parse (text : String) (c : Settings) :
    (parse text = .ok c ↔ decode text = .ok c ∧ c.Checked) ∧
    (parse text = .ok c →
      (c.Usable ↔ c.client.requestTimeout ≠ some 0 ∧ c.supervisor.factor ≠ .nan) ∧
      (c.Unclamped ↔ c.supervisor.factor ≠ .nan)) := by
  refine ⟨parse_eq_ok_iff, fun parsed => ?_⟩
  obtain ⟨-, checked⟩ := parse_eq_ok_iff.1 parsed
  exact ⟨checked.usable_iff, checked.unclamped_iff⟩

/-- A document with bounds that are just accepted, and with the largest factor. -/
def narrowText : String :=
  "[client]\nburst = 50\nrequest_timeout_ms = 1\n" ++
    "[supervisor]\nmax_delay_secs = 15\nbackoff_multiplier = inf\n"

/-- What the document sets, and the default settings otherwise. -/
def narrow : Settings :=
  { Settings.default with
    client := ⟨50, 50, some 1⟩
    supervisor := { Supervision.default with maxDelay := 15, factor := .infinite false } }

/-- Bounds that are just accepted are usable, and taken as they are. -/
theorem usable_iff_of_parse_narrow :
    parse narrowText = .ok narrow ∧ narrow.Usable ∧ narrow.Unclamped := by
  have parsed : parse narrowText = .ok narrow := eq_ok_of_toOption (by decide +kernel)
  obtain ⟨usable, unclamped⟩ := (usable_iff_of_parse narrowText narrow).2 parsed
  exact ⟨parsed, usable.2 ⟨by decide, nofun⟩, unclamped.2 nofun⟩

/-- A document with a time limit of nothing for requests and a factor that is no number. -/
def laxText : String := "[client]\nrequest_timeout_ms = 0\n[supervisor]\nbackoff_multiplier = nan\n"

/-- The default settings with these two. -/
def lax : Settings :=
  { Settings.default with
    client := ⟨50, 100, some 0⟩
    supervisor := { Supervision.default with factor := .nan } }

/-- Settings that are accepted, two of which are of no use; the retry budget takes one in the place
of the factor. -/
theorem not_usable_lax :
    parse laxText = .ok lax ∧ lax.client.requestTimeout = some 0 ∧ lax.supervisor.factor = .nan ∧
    lax.supervision.retry.factor = .one ∧ ¬ lax.Usable ∧ ¬ lax.Unclamped := by
  have parsed : parse laxText = .ok lax := eq_ok_of_toOption (by decide +kernel)
  refine ⟨parsed, rfl, rfl, rfl, fun usable => ?_, fun unclamped => unclamped.factor.right rfl⟩
  exact absurd (usable.requestTimeout 0 rfl) (lt_irrefl 0)

end Settings

end Fleet
