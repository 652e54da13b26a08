import Fleet.Proofs.Retry.Backoff
import Fleet.Proofs.Settings
import Fleet.Proofs.Supervisor.Series

/-!
# Delays between probes

With accepted settings, a whole factor and a ceiling of at most `2 ^ 53` seconds, every probe is
followed by a delay that the number of failures in a row gives exactly (`series_backoff`). The state
carries the delay of its history from one probe to the next (`OnPace.tick`).

`OnPace` is the invariant: the budget has multiplied its delay once for each failure in a row
(`Retry.BackedOff`), and the cadence is the one that was set. A success resets both counts, and a
failure raises both by one, also the last failure, by which the connection is lost. The run lemma
`onPace_series` is the induction over ticks that all facts about series share, and the settings give
the first state (`onPace_start`).
-/

namespace Fleet.Supervisor

open Retry (BackedOff backoff)

/-- The budget and the cadence of a state are those that a history calls for. -/
structure OnPace (base factor ceiling : Nat) (history : List Bool) (s : State) : Prop where
  retry : s.retry.BackedOff base factor ceiling (failuresInRow history)
  cadence : s.cadence = .ofSecs base

variable {base factor ceiling : Nat} {history : List Bool} {s : State} {c : Settings}

/-- A failure leaves the next budget, the same cadence and the delay of that budget, spent or
not. -/
lemma fail_delay (s : State) :
    s.fail.state.retry = s.retry.recordFailure ∧ s.fail.state.cadence = s.cadence ∧
    s.fail.delay = s.retry.recordFailure.delay := by
  unfold State.fail
  dsimp only
  split <;> exact ⟨rfl, rfl, rfl⟩

/-- A probe keeps the pace, and is followed by the delay of the history that it ends. -/
lemma OnPace.tick (onPace : OnPace base factor ceiling history s) (pos : 1 ≤ factor)
    (base_le : base ≤ ceiling) (le : ceiling ≤ 2 ^ 53) (live : s.connectivity.isTerminal = false)
    (up : Bool) :
    OnPace base factor ceiling (history ++ [up]) (s.tick up).state ∧
      (s.tick up).delay =
        .ofSecs (backoff base factor ceiling (failuresInRow (history ++ [up]))) := by
  cases up with
  | true =>
    rw [State.tick_up live, failuresInRow_up, Retry.backoff_zero base_le]
    refine ⟨⟨?_, onPace.cadence⟩, onPace.cadence⟩
    rw [failuresInRow_up]
    exact onPace.retry.reset base_le
  | false =>
    obtain ⟨retry, cadence, delay⟩ := fail_delay s
    have backed := onPace.retry.recordFailure pos le
    rw [← failuresInRow_down] at backed
    rw [State.tick_down live, delay]
    exact ⟨⟨retry ▸ backed, cadence.trans onPace.cadence⟩, backed.delay⟩

/-- After any number of ticks the state has the delay of the probes made. -/
lemma onPace_series (start : OnPace base factor ceiling [] s) (pos : 1 ≤ factor)
    (base_le : base ≤ ceiling) (le : ceiling ≤ 2 ^ 53) (probe : Probe) (n : Nat) :
    OnPace base factor ceiling (probe.history (probed (series probe n s 0 0)))
      (after s (series probe n s 0 0)) :=
  series_induction (motive := fun history s _ => OnPace base factor ceiling history s) start
    (fun up onPace live => (onPace.tick pos base_le le live up).1) probe n

/-- A tick of a series that makes a probe is followed by the delay of the probes made so far. -/
lemma delay_of_getElem?_series (start : OnPace base factor ceiling [] s) (pos : 1 ≤ factor)
    (base_le : base ≤ ceiling) (le : ceiling ≤ 2 ^ 53) {probe : Probe} {n i at_ : Nat} {t : Tick}
    (found : (series probe n s 0 0)[i]? = some (t, some at_)) :
    t.delay = .ofSecs (backoff base factor ceiling (failuresInRow (probe.history (i + 1)))) := by
  obtain ⟨live, rfl⟩ := tick_of_getElem?_series found
  have onPace := onPace_series start pos base_le le probe i
  rw [probed_series live] at onPace
  rw [Probe.history_succ]
  exact (onPace.tick pos base_le le live (probe.result i)).2

/-- A factor that is accepted is at least one. -/
lemma one_le_of_notBelow {f : Double} (stands : f.StandsFor factor) (notBelow : ¬ f < .one) :
    1 ≤ factor := by
  have one : Double.one.StandsFor (1 : Nat) := Double.standsFor_ofNat (by decide)
  rw [stands.lt_iff one, not_lt] at notBelow
  exact_mod_cast notBelow

/-- The first state that accepted settings give has the cadence for a delay. -/
lemma onPace_start (checked : c.Checked) (whole : c.supervisor.factor.StandsFor factor)
    (side : Option SideRefresh) :
    OnPace c.supervisor.refreshInterval factor c.supervisor.maxDelay []
      (State.start c.supervision side) where
  retry := Retry.backedOff_new whole (one_le_of_notBelow whole checked.factor) checked.maxDelay _
  cadence := rfl

/-- With settings that are accepted, a whole factor and a ceiling of at most `2 ^ 53` seconds, every
tick that does not find the connection lost makes a probe, and returns exactly as many seconds as
the failures in a row that end with the probe give: the cadence times the factor for each of them,
up to the ceiling. So a delay is never below the cadence or above the ceiling, a success brings the
cadence back, and one more failure never shortens the delay. -/
theorem series_backoff (c : Settings) (factor : Nat) (side : Option SideRefresh) (probe : Probe)
    (n : Nat) (accepted : c.problem? = none) (whole : c.supervisor.factor.StandsFor factor)
    (ceiling_le : c.supervisor.maxDelay ≤ 2 ^ 53) :
    let config := c.supervision
    let start := State.start config side
    let ts := series probe n start 0 0
    (∀ i < n, (after start (series probe i start 0 0)).connectivity.isTerminal = false →
      ∃ t at_, ts[i]? = some (t, some at_)) ∧
    ∀ i t at_, ts[i]? = some (t, some at_) →
      t.delay = .ofSecs
        (min (c.supervisor.refreshInterval * factor ^ failuresInRow (probe.history (i + 1)))
          c.supervisor.maxDelay) ∧
      config.refreshInterval.nanos ≤ t.delay.nanos ∧ t.delay.nanos ≤ config.maxDelay.nanos ∧
      (probe.result i = true → t.delay = config.refreshInterval) ∧
      ∀ t' at_', ts[i + 1]? = some (t', some at_') → probe.result (i + 1) = false →
        t.delay.nanos ≤ t'.delay.nanos := by
  intro config start ts
  refine ⟨fun i lt live => ⟨_, _, getElem?_series_of_live lt live⟩, fun i t at_ found => ?_⟩
  have checked := Settings.problem?_eq_none_iff.1 accepted
  have pos := one_le_of_notBelow whole checked.factor
  have onPace := onPace_start checked whole side
  have delay := delay_of_getElem?_series onPace pos checked.maxDelay ceiling_le found
  refine ⟨delay, ?_, ?_, fun up => ?_, fun t' at_' found' down => ?_⟩
  · rw [delay]
    exact Nat.mul_le_mul_right _ (Retry.le_backoff pos checked.maxDelay _)
  · rw [delay]
    exact Nat.mul_le_mul_right _ (Retry.backoff_le ..)
  · rw [delay, Probe.history_succ, up, failuresInRow_up, Retry.backoff_zero checked.maxDelay]
    rfl
  · have delay' := delay_of_getElem?_series onPace pos checked.maxDelay ceiling_le found'
    rw [Probe.history_succ probe (i + 1), down, failuresInRow_down] at delay'
    rw [delay, delay']
    exact Nat.mul_le_mul_right _ (Retry.backoff_mono pos (Nat.le_succ _))

/-- Settings whose products leave the whole numbers that doubles can hold at the first failure. -/
def steep : Settings :=
  { Settings.default with supervisor := ⟨3, 2 ^ 53, .ofNat (2 ^ 60), 9, 5000⟩ }

/-- A failure whose product is rounded and cut off, a second one, and a success after them. -/
theorem series_backoff_steep :
    (steep.problem? = none ∧ steep.supervisor.factor.StandsFor (2 ^ 60 : Nat) ∧
      steep.supervisor.maxDelay ≤ 2 ^ 53) ∧
    let ts := series (.ofList [true, false, false, true] true 20) 4
      (State.start steep.supervision none) 0 0
    ∃ a b c, ts[0]? = some (a, some 0) ∧ ts[2]? = some (b, some 40) ∧ ts[3]? = some (c, some 60) ∧
      a.delay = .ofSecs 3 ∧ b.delay = .ofSecs (2 ^ 53) ∧ c.delay = .ofSecs 3 := by
  have accepted : steep.problem? = none := by decide
  have whole : steep.supervisor.factor.StandsFor (2 ^ 60 : Nat) :=
    ⟨⟨2 ^ 52, 8⟩, by decide, by norm_num [Double.Magnitude.value]⟩
  have ceiling_le : steep.supervisor.maxDelay ≤ 2 ^ 53 := le_refl _
  refine ⟨⟨accepted, whole, ceiling_le⟩, ?_⟩
  intro ts
  have delays :=
    (series_backoff steep (2 ^ 60) none (.ofList [true, false, false, true] true 20) 4 accepted
      whole ceiling_le).2
  refine ⟨_, _, _, rfl, rfl, rfl, ?_, ?_, ?_⟩
  · exact (delays 0 _ _ rfl).2.2.2.1 rfl
  · exact (delays 2 _ _ rfl).1
  · exact (delays 3 _ _ rfl).2.2.2.1 rfl

end Fleet.Supervisor
