import Fleet.Proofs.Supervisor.Series
import Fleet.Proofs.Supervisor.Signals

/-!
# Runs until the connection is lost or a signal comes

All that the rest of a run can come to (`Course`), by what its next wait comes to, and what holds
whenever a probe may start (`Poised`). From both, by induction on the course: a run starts no probe
while the flag is up, ends as its budget and the signals demand, and returns when the flag stays up
(`run_heeds`).

`Course` has one rule for each way to go on: the flag is up before a probe, the connection is lost
by one, the wait after it is ended by the signals, the wait is over and the rest of the run follows,
or the fuel is spent. A run is such a course (`course_runFrom`), and from there on nothing is said
about the function that runs.

`Poised` says that the connection is live, the state in line with the probes made, and no setting
counted as seen that has not been made; it holds at the start and again after each wait that is not
the end (`Poised.next`). That fuel suffices is a count: probes in a row are separated by a delay or
by a setting of the flag, or they are failures, of which the budget allows a few (`Steady`), so an
instant from which the flag stays up bounds their number (`Course.length_le`).
-/

namespace Fleet.Supervisor

/-- The probe that starts at an instant after a number of others. -/
def probeAt (probe : Probe) (s : State) (done now : Nat) : Probed :=
  ⟨now, now + probe.length, s.tick (probe.result done)⟩

/-- The instant at which the delay of a probe has passed. -/
def Probed.due (p : Probed) : Nat := p.stop + p.tick.delay.millisUp

/-- All that the rest of a run with room for so many probes can come to. -/
inductive Course (probe : Probe) (signals : Signals) :
    Nat → State → Nat → Nat → Nat → Trace → Prop where
  | unfinished {s done seen now} : Course probe signals 0 s done seen now ⟨[], none⟩
  | stopped {n s done seen now} :
    signals.flag now = true →
    Course probe signals (n + 1) s done seen now ⟨[], some (.stopped, now)⟩
  | lost {n s done seen now p k} :
    signals.flag now = false →
    p = probeAt probe s done now →
    p.tick.state.connectivity = .lost k →
    Course probe signals (n + 1) s done seen now
      ⟨[p], some (.lost k p.tick.state.retry.budget, p.stop)⟩
  | halted {n s done seen now p u} :
    signals.flag now = false →
    p = probeAt probe s done now →
    p.tick.state.connectivity.isTerminal = false →
    Waits signals p.stop p.due seen (.stop u) →
    Course probe signals (n + 1) s done seen now ⟨[p], some (.stopped, u)⟩
  | next {n s done seen now p seen' later t} :
    signals.flag now = false →
    p = probeAt probe s done now →
    p.tick.state.connectivity.isTerminal = false →
    Waits signals p.stop p.due seen (.resume later seen') →
    Course probe signals n p.tick.state (done + 1) seen' later t →
    Course probe signals (n + 1) s done seen now (t.after p)

variable {config : Config} {probe : Probe} {signals : Signals}

/-- A run is one of the courses that it can take. -/
lemma course_runFrom (ordered : signals.Ordered) (n : Nat) (s : State) (done seen now : Nat) :
    Course probe signals n s done seen now (runFrom probe signals n s done seen now) := by
  induction n generalizing s done seen now with
  | zero => exact .unfinished
  | succ n ih =>
    rw [runFrom]
    split
    · rename_i up
      exact .stopped up
    · rename_i down
      have down := Bool.eq_false_of_not_eq_true down
      have waits :=
        waits_wait ordered (probeAt probe s done now).stop (probeAt probe s done now).due seen
      dsimp only
      split
      · rename_i k connectivity
        exact .lost down rfl connectivity
      · rename_i not_lost
        -- the run waits in the same way whether the probe succeeded or failed
        have live : (probeAt probe s done now).tick.state.connectivity.isTerminal = false := by
          cases connectivity : (probeAt probe s done now).tick.state.connectivity with
          | lost k => exact absurd connectivity (not_lost k)
          | healthy => rfl
          | degraded k => rfl
        split
        · rename_i u ends
          exact .halted down rfl live (ends ▸ waits)
        · rename_i later seen' ends
          exact .next down rfl live (ends ▸ waits) (ih _ _ _ _)

/-- A tick leaves the cadence. -/
lemma State.tick_cadence (s : State) (up : Bool) : (s.tick up).state.cadence = s.cadence := by
  unfold State.tick
  split
  · rfl
  · split
    · rfl
    · unfold State.fail
      dsimp only
      split <;> rfl

/-- What holds whenever a run looks at the flag before its next probe. -/
structure Poised (config : Config) (probe : Probe) (signals : Signals) (s : State)
    (done seen now : Nat) : Prop where
  supervised : ∃ ns, Supervised config (probe.history done) s ns
  live : s.connectivity.isTerminal = false
  cadence : s.cadence = config.refreshInterval
  seen_le : seen ≤ signals.sent now

/-- A run begins poised, with no probe made and no setting seen. -/
lemma poised_start (interval_lt : config.refreshInterval.secs < 2 ^ 63)
    (maxDelay_lt : config.maxDelay.secs < 2 ^ 63) :
    Poised config probe signals (State.start config) 0 0 0 where
  supervised := ⟨[], supervised_start interval_lt maxDelay_lt _⟩
  live := rfl
  cadence := rfl
  seen_le := Nat.zero_le _

/-- A live connection has room for another failure. -/
lemma Supervised.failuresInRow_lt {history : List Bool} {s : State} {ns : List Notice}
    (inv : Supervised config history s ns) (live : s.connectivity.isTerminal = false) :
    failuresInRow history < max config.budget 1 := by
  by_contra spent
  have lost := connectivityOf_eq_lost.2 ⟨rfl, Nat.le_of_not_lt spent⟩
  rw [inv.connectivity, lost] at live
  cases live

section
variable {n : Nat} {s : State} {done seen now : Nat} {p : Probed} {t : Trace}

/-- A run that may start a probe has not used up its budget. -/
lemma Poised.failuresInRow_lt (poised : Poised config probe signals s done seen now) :
    failuresInRow (probe.history done) < max config.budget 1 := by
  obtain ⟨ns, supervised⟩ := poised.supervised
  exact supervised.failuresInRow_lt poised.live

/-- A probe leaves a state in line with the history that it makes longer. -/
lemma Poised.supervised_probeAt (poised : Poised config probe signals s done seen now)
    (budget_le : config.budget ≤ Retry.countLimit) (eq : p = probeAt probe s done now) :
    ∃ ns, Supervised config (probe.history (done + 1)) p.tick.state ns := by
  obtain ⟨ns, supervised⟩ := poised.supervised
  rw [eq, probe.history_succ]
  exact ⟨_, supervised.tick budget_le poised.live _⟩

/-- A wait that is not the end leaves a run poised for the next probe. -/
lemma Poised.next (poised : Poised config probe signals s done seen now) (ordered : signals.Ordered)
    (budget_le : config.budget ≤ Retry.countLimit) (eq : p = probeAt probe s done now)
    (live : p.tick.state.connectivity.isTerminal = false) {later seen' : Nat}
    (waits : Waits signals p.stop p.due seen (.resume later seen')) :
    Poised config probe signals p.tick.state (done + 1) seen' later where
  supervised := poised.supervised_probeAt budget_le eq
  live := live
  cadence := by
    rw [eq]
    exact (s.tick_cadence _).trans poised.cadence
  seen_le := by
    have le : now ≤ p.stop := eq ▸ Nat.le_add_right _ _
    exact (waits.resume ordered (Nat.le_add_right _ _)
      (poised.seen_le.trans (ordered.sent_mono le))).2.2.1

/-- The probe that spends the budget ends a run of failures as long as the budget. -/
lemma Poised.lost (poised : Poised config probe signals s done seen now)
    (budget_le : config.budget ≤ Retry.countLimit) (eq : p = probeAt probe s done now) {k : Nat}
    (lost : p.tick.state.connectivity = .lost k) : k = max config.budget 1 ∧
      p.tick.state.retry.budget = config.budget ∧ k = failuresInRow (probe.history (done + 1)) := by
  obtain ⟨ns, supervised⟩ := poised.supervised_probeAt budget_le eq
  rw [supervised.connectivity, connectivityOf_eq_lost] at lost
  obtain ⟨count, spent⟩ := lost
  have room := poised.failuresInRow_lt
  refine ⟨?_, supervised.budget, count.symm⟩
  rw [probe.history_succ] at count
  cases result : probe.result done with
  | true =>
    rw [result, failuresInRow_up] at count
    omega
  | false =>
    rw [result, failuresInRow_down] at count
    omega

section
variable (ordered : signals.Ordered) (budget_le : config.budget ≤ Retry.countLimit)
include ordered budget_le

/-- Every probe of a run was poised to start, with the flag down. -/
lemma Course.poised_of_mem (course : Course probe signals n s done seen now t)
    (poised : Poised config probe signals s done seen now) (mem : p ∈ t.probes) :
    signals.flag p.start = false ∧
      ∃ s done seen, Poised config probe signals s done seen p.start ∧
        p = probeAt probe s done p.start := by
  induction course with
  | unfinished => cases mem
  | stopped _ => cases mem
  | lost down eq _ =>
    obtain rfl := (List.mem_singleton.1 mem).trans eq
    exact ⟨down, _, _, _, poised, rfl⟩
  | halted down eq _ _ =>
    obtain rfl := (List.mem_singleton.1 mem).trans eq
    exact ⟨down, _, _, _, poised, rfl⟩
  | next down eq live waits _ ih =>
    obtain first | later := List.mem_cons.1 mem
    · obtain rfl := first.trans eq
      exact ⟨down, _, _, _, poised, rfl⟩
    · exact ih (poised.next ordered budget_le eq live waits) later

/-- A run is lost just when its probes end with as many failures as the budget has, or one. -/
lemma Course.lost_iff (course : Course probe signals n s done seen now t)
    (poised : Poised config probe signals s done seen now) :
    t.ending.map (·.1) = some (.lost (max config.budget 1) config.budget) ↔
      max config.budget 1 ≤ failuresInRow (probe.history (done + t.probes.length)) := by
  induction course with
  | unfinished => exact ⟨nofun, fun spent => absurd poised.failuresInRow_lt (Nat.not_lt.2 spent)⟩
  | stopped _ => exact ⟨nofun, fun spent => absurd poised.failuresInRow_lt (Nat.not_lt.2 spent)⟩
  | lost _ eq lost =>
    obtain ⟨count, budget, spent⟩ := poised.lost budget_le eq lost
    rw [budget, count]
    exact ⟨fun _ => (count ▸ spent).le, fun _ => rfl⟩
  | halted _ eq live _ =>
    obtain ⟨ns, supervised⟩ := poised.supervised_probeAt budget_le eq
    exact ⟨nofun, fun spent => absurd (supervised.failuresInRow_lt live) (Nat.not_lt.2 spent)⟩
  | @next _ _ done _ _ _ _ _ t _ eq live waits _ ih =>
    have count : done + 1 + t.probes.length = done + (t.probes.length + 1) := by omega
    exact count ▸ ih (poised.next ordered budget_le eq live waits)

/-- A run ends with the loss of the connection, or with the flag up or the sender gone. -/
lemma Course.ending_cases (course : Course probe signals n s done seen now t)
    (poised : Poised config probe signals s done seen now)
    {e : Ending} {u : Nat} (ends : t.ending = some (e, u)) :
    e = .lost (max config.budget 1) config.budget ∨
      e = .stopped ∧ (signals.flag u = true ∨ signals.isClosed u = true) := by
  induction course with
  | unfinished => cases ends
  | stopped up =>
    cases ends
    exact .inr ⟨rfl, .inl up⟩
  | lost _ eq lost =>
    cases ends
    obtain ⟨count, budget, -⟩ := poised.lost budget_le eq lost
    rw [budget, count]
    exact .inl rfl
  | halted _ _ _ waits =>
    cases ends
    exact .inr ⟨rfl, waits.flag_or_isClosed ordered⟩
  | next _ eq live waits _ ih => exact ih (poised.next ordered budget_le eq live waits) ends

/-- A run whose flag goes up for good has ended by then, or ends with the probe in progress. -/
lemma Course.ending_le (course : Course probe signals n s done seen now t)
    (poised : Poised config probe signals s done seen now)
    {T : Nat} (stays : ∀ u, T ≤ u → signals.flag u = true) (le : now ≤ T) {e : Ending} {u : Nat}
    (ends : t.ending = some (e, u)) : u ≤ T ∨ ∃ p ∈ t.probes.getLast?, u = p.stop := by
  induction course with
  | unfinished => cases ends
  | stopped _ =>
    cases ends
    exact .inl le
  | lost _ _ _ =>
    cases ends
    exact .inr ⟨_, rfl, rfl⟩
  | halted down eq _ waits =>
    cases ends
    obtain early | late :=
      waits.stop_le ordered stays (eq ▸ Nat.le_add_right _ _) down poised.seen_le
    · exact .inl early
    · exact .inr ⟨_, rfl, late⟩
  | @next _ _ _ _ _ p _ _ t down eq live waits _ ih =>
    -- the wait does not go on beyond the instant, so the rest of the run starts by then
    have early := waits.resume_le ordered stays (eq ▸ Nat.le_add_right _ _) down poised.seen_le
    obtain early | ⟨q, last, late⟩ := ih (poised.next ordered budget_le eq live waits) early ends
    · exact .inl early
    · refine .inr ⟨q, ?_, late⟩
      show q ∈ (p :: t.probes).getLast?
      rw [List.getLast?_cons, Option.mem_def.1 last]
      rfl

end

/-- A run that has not ended has used up its room. -/
lemma Course.length_eq (course : Course probe signals n s done seen now t)
    (going : t.ending = none) : t.probes.length = n := by
  induction course with
  | unfinished => rfl
  | stopped _ => cases going
  | lost _ _ _ => cases going
  | halted _ _ _ _ => cases going
  | next _ _ _ _ _ ih => exact congrArg (· + 1) (ih going)

end

/-- Room beyond the end of a run changes nothing. -/
lemma runFrom_of_ended {n m : Nat} (le : n ≤ m) {s : State} {done seen now : Nat}
    (ended : (runFrom probe signals n s done seen now).ending.isSome) :
    runFrom probe signals m s done seen now = runFrom probe signals n s done seen now := by
  induction n generalizing m s done seen now with
  | zero => cases ended
  | succ n ih =>
    obtain ⟨m, rfl⟩ := Nat.exists_eq_succ_of_ne_zero (Nat.ne_zero_of_lt le)
    revert ended
    rw [runFrom, runFrom]
    split
    · exact fun _ => rfl
    · dsimp only
      cases (s.tick (probe.result done)).state.connectivity with
      | lost k => exact fun _ => rfl
      | healthy | degraded =>
        dsimp only
        cases signals.wait _ _ _ with
        | stop u => exact fun _ => rfl
        | resume later seen' =>
          exact fun ended => congrArg (Trace.after _) (ih (Nat.le_of_succ_le_succ le) ended)

section
variable {n : Nat} {s : State} {done seen now : Nat} {p : Probed} {t : Trace} {T : Nat}

/-- Probes do not outnumber the milliseconds passed and the settings seen by more than the budget
allows. -/
def Steady (config : Config) (probe : Probe) (done seen now : Nat) : Prop :=
  done ≤ (now + seen) * max config.budget 1 + failuresInRow (probe.history done)

/-- Probes before an instant are no more than the budget allows for the milliseconds and settings
until then. -/
lemma Steady.le (steady : Steady config probe done seen now)
    (poised : Poised config probe signals s done seen now) (early : now ≤ T) :
    done < (T + signals.events.length + 1) * max config.budget 1 := by
  have room := poised.failuresInRow_lt
  have seen_le := poised.seen_le.trans (signals.sent_le now)
  calc done ≤ (now + seen) * max config.budget 1 + failuresInRow (probe.history done) := steady
    _ < (now + seen) * max config.budget 1 + max config.budget 1 := Nat.add_lt_add_left room _
    _ = (now + seen + 1) * max config.budget 1 := (Nat.succ_mul _ _).symm
    _ ≤ (T + signals.events.length + 1) * max config.budget 1 := by gcongr

/-- A failure uses up some of the budget, and a success takes time unless a setting is seen. -/
lemma Steady.next (steady : Steady config probe done seen now)
    (poised : Poised config probe signals s done seen now) (ordered : signals.Ordered)
    (moves : probe.length ≠ 0 ∨ config.refreshInterval.nanos ≠ 0)
    (eq : p = probeAt probe s done now) {later seen' : Nat}
    (waits : Waits signals p.stop p.due seen (.resume later seen')) :
    Steady config probe (done + 1) seen' later := by
  have start_le : now ≤ p.stop := eq ▸ Nat.le_add_right _ _
  obtain ⟨stop_le, -, -, passes⟩ :=
    waits.resume ordered (Nat.le_add_right _ _) (poised.seen_le.trans (ordered.sent_mono start_le))
  have room := poised.failuresInRow_lt
  unfold Steady at steady ⊢
  rw [probe.history_succ]
  cases up : probe.result done with
  | true =>
    -- the next probe starts later, or a setting has ended the wait and counts instead
    have later_lt : now + seen < later + seen' := by
      obtain ⟨waited, same⟩ | sees := passes
      · have delay : p.tick.delay = config.refreshInterval := by
          rw [eq, ← poised.cadence]
          unfold probeAt
          rw [up, State.tick_up poised.live]
          rfl
        have stop : p.stop = now + probe.length := by rw [eq]; rfl
        rw [delay, Duration.millisUp, stop] at waited
        omega
      · omega
    rw [failuresInRow_up, Nat.add_zero]
    calc done + 1 ≤ (now + seen) * max config.budget 1 + max config.budget 1 := by omega
      _ = (now + seen + 1) * max config.budget 1 := (Nat.succ_mul _ _).symm
      _ ≤ (later + seen') * max config.budget 1 := Nat.mul_le_mul_right _ later_lt
  | false =>
    rw [failuresInRow_down, ← Nat.add_assoc]
    have no_less : now + seen ≤ later + seen' := by omega
    exact Nat.succ_le_succ (steady.trans (Nat.add_le_add_right (Nat.mul_le_mul_right _ no_less) _))

/-- A flag that goes up for good bounds the number of probes. -/
lemma Course.length_le (course : Course probe signals n s done seen now t)
    (ordered : signals.Ordered) (budget_le : config.budget ≤ Retry.countLimit)
    (poised : Poised config probe signals s done seen now) (stays : ∀ u, T ≤ u →
    signals.flag u = true) (moves : probe.length ≠ 0 ∨ config.refreshInterval.nanos ≠ 0)
    (steady : Steady config probe done seen now) (early : now ≤ T) :
    done + t.probes.length ≤ (T + signals.events.length + 1) * max config.budget 1 := by
  have done_lt := steady.le poised early
  induction course with
  | unfinished => exact done_lt.le
  | stopped _ => exact done_lt.le
  | lost _ _ _ => exact done_lt
  | halted _ _ _ _ => exact done_lt
  | @next _ _ done _ _ p _ _ t down eq live waits _ ih =>
    have early := waits.resume_le ordered stays (eq ▸ Nat.le_add_right _ _) down poised.seen_le
    have steady := steady.next poised ordered moves eq waits
    have poised := poised.next ordered budget_le eq live waits
    have count : done + 1 + t.probes.length = done + (t.probes.length + 1) := by omega
    exact count ▸ ih poised steady early (steady.le poised early)

end

/-- What the shutdown channel and the retry budget ask of a run with room for so many probes. -/
structure Heeds (config : Config) (probe : Probe) (signals : Signals) (n : Nat) (t : Trace) :
    Prop where
  /-- A run that has not ended goes on probing. -/
  going : t.ending = none → t.probes.length = n
  /-- No probe starts while the flag is up. -/
  down : ∀ p ∈ t.probes, signals.flag p.start = false
  lost : t.ending.map (·.1.outcome) =
    some (.error (.disconnected (max config.budget 1) config.budget)) ↔
    max config.budget 1 ≤ failuresInRow (probe.history t.probes.length)
  stopped : ∀ e u, t.ending = some (e, u) →
    e.outcome = .error (.disconnected (max config.budget 1) config.budget) ∨
      e.outcome = .ok () ∧ (signals.flag u = true ∨ signals.isClosed u = true)
  /-- When the flag goes up for good, no probe starts any more, and the run ends then or with the
  probe in progress, unless it has ended before. -/
  prompt : ∀ T, (∀ u, T ≤ u → signals.flag u = true) →
    (∀ p ∈ t.probes, p.start < T) ∧
    ∀ e u, t.ending = some (e, u) → u ≤ T ∨ ∃ p ∈ t.probes.getLast?, u = p.stop
  /-- The delay after a failure can always be worked out. -/
  ready : ∀ s ∈ State.start config :: t.probes.map (·.tick.state),
    (Duration.ofSeconds? s.retry.nextSeconds).isSome

/-- A run returns when the flag goes up for good, unless time never gets there: neither a probe nor
the delay after a success takes any, and the run probes for ever before that. -/
def Returns (config : Config) (probe : Probe) (signals : Signals) (T : Nat) : Prop :=
  (∃ n, (run config probe signals n).ending.isSome ∧
    ∀ m, n ≤ m → run config probe signals m = run config probe signals n) ∨
  probe.length = 0 ∧ config.refreshInterval.nanos = 0 ∧
    ∀ n, (run config probe signals n).probes.length = n ∧
      ∀ p ∈ (run config probe signals n).probes, p.stop < T

section
variable (ordered : signals.Ordered) (budget_le : config.budget ≤ Retry.countLimit)
  (interval_lt : config.refreshInterval.secs < 2 ^ 63) (maxDelay_lt : config.maxDelay.secs < 2 ^ 63)
include ordered budget_le interval_lt maxDelay_lt

/-- A run from the start heeds its budget and its signals. -/
lemma heeds_run (n : Nat) : Heeds config probe signals n (run config probe signals n) := by
  have poised : Poised config probe signals (State.start config) 0 0 0 :=
    poised_start interval_lt maxDelay_lt
  have course : Course probe signals n (State.start config) 0 0 0 (run config probe signals n) :=
    course_runFrom ordered n _ 0 0 0
  generalize run config probe signals n = t at course
  have down : ∀ p ∈ t.probes, signals.flag p.start = false := fun p mem =>
    (course.poised_of_mem ordered budget_le poised mem).1
  refine ⟨course.length_eq, down, ?_, ?_, ?_, ?_⟩
  · rw [← Nat.zero_add t.probes.length, ← course.lost_iff ordered budget_le poised]
    cases ends : t.ending with
    | none => exact ⟨nofun, nofun⟩
    | some ending =>
      obtain ⟨e, u⟩ := ending
      cases e with
      | stopped => exact ⟨nofun, nofun⟩
      | lost k b => simp [Ending.outcome]
  · intro e u ends
    obtain rfl | ⟨rfl, asked⟩ := course.ending_cases ordered budget_le poised ends
    · exact .inl rfl
    · exact .inr ⟨rfl, asked⟩
  · intro T stays
    refine ⟨fun p mem => Signals.lt_of_down stays (down p mem), fun e u ends => ?_⟩
    exact course.ending_le ordered budget_le poised stays (Nat.zero_le T) ends
  · refine List.forall_mem_cons.2
      ⟨(Retry.inRange_new interval_lt maxDelay_lt _ _).isSome_ofSeconds?, ?_⟩
    refine List.forall_mem_map.2 fun p mem => ?_
    obtain ⟨-, s, done, seen, poised, eq⟩ := course.poised_of_mem ordered budget_le poised mem
    obtain ⟨ns, supervised⟩ := poised.supervised_probeAt budget_le eq
    exact supervised.inRange.isSome_ofSeconds?

/-- A run from the start returns when the flag stays up. -/
lemma returns_run {T : Nat} (stays : ∀ u, T ≤ u → signals.flag u = true) :
    Returns config probe signals T := by
  have poised : Poised config probe signals (State.start config) 0 0 0 :=
    poised_start interval_lt maxDelay_lt
  have course :
      ∀ n, Course probe signals n (State.start config) 0 0 0 (run config probe signals n) :=
    fun n => course_runFrom ordered n _ 0 0 0
  by_cases ended : ∃ n, (run config probe signals n).ending.isSome
  · obtain ⟨n, ended⟩ := ended
    exact .inl ⟨n, ended, fun m le => runFrom_of_ended le ended⟩
  · have going : ∀ n, (run config probe signals n).ending = none := fun n =>
      Option.not_isSome_iff_eq_none.1 fun ends => ended ⟨n, ends⟩
    -- a run that never ends makes more probes than there is room for while time passes
    have still : probe.length = 0 ∧ config.refreshInterval.nanos = 0 := by
      by_contra moves
      have moves := not_and_or.1 moves
      generalize bound : (T + signals.events.length + 1) * max config.budget 1 = N
      have count := (course (N + 1)).length_le ordered budget_le poised stays moves (Nat.zero_le _)
        (Nat.zero_le T)
      rw [(course (N + 1)).length_eq (going (N + 1)), bound] at count
      omega
    refine .inr ⟨still.1, still.2, fun n => ⟨(course n).length_eq (going n), fun p mem => ?_⟩⟩
    obtain ⟨down, s, done, seen, -, eq⟩ := (course n).poised_of_mem ordered budget_le poised mem
    have stop : p.stop = p.start + probe.length := congrArg Probed.stop eq
    rw [stop, still.1]
    exact Signals.lt_of_down stays down

end

/-- A run starts probes only while the flag is down. It is lost just when its probes end with as
many failures as its budget has, at least one, and ends otherwise only when the flag is up or the
sender gone. When the flag goes up for good it returns, at that instant or when the probe in
progress ends. -/
theorem run_heeds (config : Config) (probe : Probe) (signals : Signals) (ordered : signals.Ordered)
    (budget_le : config.budget ≤ Retry.countLimit)
    (interval_lt : config.refreshInterval.secs < 2 ^ 63)
    (maxDelay_lt : config.maxDelay.secs < 2 ^ 63) :
    (∀ n, Heeds config probe signals n (run config probe signals n)) ∧
    ∀ T, (∀ u, T ≤ u → signals.flag u = true) → Returns config probe signals T :=
  ⟨heeds_run ordered budget_le interval_lt maxDelay_lt,
    fun _ stays => returns_run ordered budget_le interval_lt maxDelay_lt stays⟩

/-- A failure within the budget, settings during a probe and during a wait, and a flag that goes up
for good while another probe is in progress. -/
theorem run_heeds_roused :
    let config : Config := { Config.default with budget := 2 }
    let probe : Probe := .ofList [true, false] true 10
    let signals : Signals := ⟨false, [(4, .send false), (900, .send false), (905, .send true)]⟩
    (signals.Ordered ∧ config.budget ≤ Retry.countLimit ∧ config.refreshInterval.secs < 2 ^ 63 ∧
      config.maxDelay.secs < 2 ^ 63 ∧ ∀ u, 905 ≤ u → signals.flag u = true) ∧
    Heeds config probe signals 9 (run config probe signals 9) ∧ Returns config probe signals 905 ∧
    (run config probe signals 9).probes.map (·.start) = [0, 10, 900] ∧
    (run config probe signals 9).ending = some (.stopped, 910) := by
  intro config probe signals
  have ordered : signals.Ordered := by decide
  have stays : ∀ u, 905 ≤ u → signals.flag u = true := by
    intro u late
    have upTo : signals.upTo u = [.send false, .send false, .send true] := by
      unfold Signals.upTo
      simp [signals, show 4 ≤ u by omega, show 900 ≤ u by omega, late]
    unfold Signals.flag
    rw [upTo]
    rfl
  obtain ⟨heeds, returns⟩ :=
    run_heeds config probe signals ordered (by decide) (by decide) (by decide)
  exact ⟨⟨ordered, by decide, by decide, by decide, stays⟩, heeds 9, returns 905 stays,
    by decide +kernel, by decide +kernel⟩

end Fleet.Supervisor
