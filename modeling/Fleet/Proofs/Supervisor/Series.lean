import Fleet.Proofs.Retry
import Fleet.Proofs.Supervisor.History
import Fleet.Supervisor.Run

/-!
# Ticks one after another

Every tick keeps the state in line with the history of probes (`Supervised.tick`), so the state, the
gate, the consumer and the status log agree with the history after any number of ticks
(`series_agrees`), whatever the work on the side does.

A tick is a success or a failure of a live connection (`State.tick_up`, `State.tick_down`) or
changes nothing (`State.tick_of_isTerminal`). What each of both does is said once, in terms of the
counter and the notices (`notices_succeed`, `fail_eq`), and every invariant of a series is carried
by one induction (`series_induction`), which gives the step the history so far and that the
connection is live. The delays of a series are another instance of it.

Work on the side is told by a notice of its own that nobody but its log hears. A series with it and
a series without it are the same once that notice is left out (`alone_series`).
-/

namespace Fleet.Supervisor

/-- The last of a series of ticks leaves this state. -/
def after (s : State) (ts : List (Tick × Option Nat)) : State :=
  (ts.getLast?.map fun t => t.1.state).getD s

/-- Probes made by a series of ticks. -/
def probed (ts : List (Tick × Option Nat)) : Nat := (ts.filterMap fun t => t.2).length

/-- Notices sent by a series of ticks. -/
def heard (ts : List (Tick × Option Nat)) : List Notice := ts.flatMap fun t => t.1.notices

/-- One tick after a number of probes, with the start of its probe. -/
def tickAt (probe : Probe) (s : State) (done now : Nat) : Tick × Option Nat :=
  if s.connectivity.isTerminal then (s.tick false, none) else (s.tick (probe.result done), some now)

/-- The last tick leaves its state. -/
lemma after_concat (s : State) (ts : List (Tick × Option Nat)) (t : Tick × Option Nat) :
    after s (ts ++ [t]) = t.1.state := by
  unfold after
  rw [List.getLast?_concat]
  rfl

/-- What several ticks leave is what all but the first leave from its state on. -/
lemma after_cons (s : State) (t : Tick × Option Nat) (ts : List (Tick × Option Nat)) :
    after s (t :: ts) = after t.1.state ts := by
  unfold after
  rw [List.getLast?_cons]
  cases ts.getLast? <;> rfl

/-- The notices of the last tick are heard last. -/
lemma heard_concat (ts : List (Tick × Option Nat)) (t : Tick × Option Nat) :
    heard (ts ++ [t]) = heard ts ++ t.1.notices := by
  unfold heard
  rw [List.flatMap_append, List.flatMap_singleton]

/-- A tick of a lost connection changes nothing. -/
lemma State.tick_of_isTerminal {s : State} (terminal : s.connectivity.isTerminal = true)
    (up : Bool) :
    s.tick up = ⟨s, s.retry.delay, [], none⟩ := if_pos terminal

/-- A tick of a live connection whose probe succeeds is a success. -/
lemma State.tick_up {s : State} (live : s.connectivity.isTerminal = false) :
    s.tick true = s.succeed := by
  unfold State.tick
  rw [live]
  rfl

/-- A tick of a live connection whose probe fails is a failure. -/
lemma State.tick_down {s : State} (live : s.connectivity.isTerminal = false) :
    s.tick false = s.fail := by
  unfold State.tick
  rw [live]
  rfl

/-- A longer series has one more tick at its end. -/
lemma series_succ (probe : Probe) (n : Nat) (s : State) (done now : Nat) :
    series probe (n + 1) s done now = series probe n s done now ++
      [tickAt probe (after s (series probe n s done now))
        (done + probed (series probe n s done now))
        (now + probed (series probe n s done now) * probe.length)] := by
  -- the series is built from its front, so the state and the counts at its front vary
  induction n generalizing s done now with
  | zero =>
    show (if s.connectivity.isTerminal then _ else _) =
      [tickAt probe s done (now + 0 * probe.length)]
    rw [Nat.zero_mul]
    unfold tickAt
    split <;> rfl
  | succ n ih =>
    rw [series]
    conv_rhs => rw [series]
    cases terminal : s.connectivity.isTerminal with
    | true =>
      rw [if_pos rfl, if_pos rfl, ih, after_cons, State.tick_of_isTerminal terminal]
      rfl
    | false =>
      rw [if_neg Bool.false_ne_true, if_neg Bool.false_ne_true]
      dsimp only
      rw [ih, after_cons, List.cons_append]
      generalize series probe n (s.tick (probe.result done)).state (done + 1) (now + probe.length) =
        ts
      have count : probed ((s.tick (probe.result done), some now) :: ts) = probed ts + 1 := rfl
      have done_eq : done + 1 + probed ts = done + (probed ts + 1) := by omega
      have now_eq : now + probe.length + probed ts * probe.length =
          now + (probed ts + 1) * probe.length := by ring
      rw [count, done_eq, now_eq]

/-- The delays, the counter and the listeners are in line with a history. -/
structure Supervised (config : Config) (history : List Bool) (s : State) (ns : List Notice) :
    Prop where
  counter : s.retry.failures = failuresInRow history
  budget : s.retry.budget = config.budget
  connectivity : s.connectivity = connectivityOf config.budget (failuresInRow history)
  inRange : s.retry.InRange
  gate : Watch.gateAfter true (Watch.gateSteps ns) = decide (failuresInRow history = 0)
  calls : Watch.gateSteps ns = (upToEach history).flatMap callsFor
  status : entries ns = (upToEach history).map (entryFor config.budget)

/-- Before any probe nothing has been heard. -/
lemma supervised_start {config : Config} (interval_lt : config.refreshInterval.secs < 2 ^ 63)
    (maxDelay_lt : config.maxDelay.secs < 2 ^ 63) (side : Option SideRefresh) :
    Supervised config [] (State.start config side) [] where
  counter := rfl
  budget := rfl
  connectivity := rfl
  inRange := Retry.inRange_new interval_lt maxDelay_lt config.factor config.budget
  gate := rfl
  calls := rfl
  status := rfl

/-- Calls of the consumer come in the order of the notices. -/
lemma gateSteps_append (ns ns' : List Notice) :
    Watch.gateSteps (ns ++ ns') = Watch.gateSteps ns ++ Watch.gateSteps ns' := List.filterMap_append

/-- Entries of the status log come in the order of the notices. -/
lemma entries_append (ns ns' : List Notice) : entries (ns ++ ns') = entries ns ++ entries ns' :=
  List.filter_append _ _

/-- The calls for a history with one more probe end with those for that probe. -/
lemma calls_concat {history : List Bool} {up : Bool} {ns ns' : List Notice}
    (calls : Watch.gateSteps ns = (upToEach history).flatMap callsFor)
    (last : Watch.gateSteps ns' = callsFor (history ++ [up])) :
    Watch.gateSteps (ns ++ ns') = (upToEach (history ++ [up])).flatMap callsFor := by
  rw [gateSteps_append, calls, last, upToEach_concat, List.flatMap_append, List.flatMap_singleton]

/-- The entries for a history with one more probe end with that for the probe. -/
lemma entries_concat {budget : Nat} {history : List Bool} {up : Bool} {ns ns' : List Notice}
    (status : entries ns = (upToEach history).map (entryFor budget))
    (last : entries ns' = [entryFor budget (history ++ [up])]) :
    entries (ns ++ ns') = (upToEach (history ++ [up])).map (entryFor budget) := by
  rw [entries_append, status, last, upToEach_concat, List.map_append, List.map_singleton]

/-- The gate keeps what it was told last. -/
lemma gateAfter_append (live : Bool) (steps more : List Watch.GateStep) :
    Watch.gateAfter live (steps ++ more) = Watch.gateAfter (Watch.gateAfter live steps) more :=
  List.foldl_append

/-- Notices of a success: of the recovery if there was a failure, and of work on the side. -/
lemma notices_succeed (s : State) : s.succeed.notices =
    (if 0 < s.retry.failures then [.status .info recoveredMessage, .resume] else [.clear]) ++
      if s.side.isSome then [.refresh] else [] := by
  simp only [State.succeed, decide_eq_true_eq]
  cases s.side <;> rfl

/-- A success resumes the consumer after failures only. -/
lemma gateSteps_succeed (s : State) : Watch.gateSteps s.succeed.notices =
    if 0 < s.retry.failures then [.resume] else [] := by
  rw [notices_succeed]
  split <;> split <;> rfl

/-- A success makes one entry in the status log, which says whether it recovers. -/
lemma entries_succeed (s : State) : entries s.succeed.notices =
    [if 0 < s.retry.failures then .status .info recoveredMessage else .clear] := by
  rw [notices_succeed]
  split <;> split <;> rfl

/-- A failure pauses the consumer. -/
lemma gateSteps_fail (s : State) : Watch.gateSteps s.fail.notices = [.pause] := by
  unfold State.fail
  dsimp only
  split <;> rfl

/-- A failure leaves the next budget, and a connection and an entry in the status log that its
counter calls for. -/
lemma fail_eq {s : State} (lt : s.retry.failures < Retry.countLimit) :
    s.fail.state.retry = s.retry.recordFailure ∧
      s.fail.state.retry.failures = s.retry.failures + 1 ∧
      s.fail.state.connectivity = connectivityOf s.retry.budget (s.retry.failures + 1) ∧
      entries s.fail.notices = [if s.retry.failures + 1 < s.retry.budget then
        .status .warn (failedMessage (s.retry.failures + 1) s.retry.budget)
        else .status .error (lostMessage (s.retry.failures + 1))] := by
  have count : s.retry.recordFailure.failures = s.retry.failures + 1 := min_eq_left lt
  unfold State.fail connectivityOf
  dsimp only
  cases spent : s.retry.recordFailure.isExhausted with
  | true =>
    have full : s.retry.budget ≤ s.retry.failures + 1 := count ▸ of_decide_eq_true spent
    rw [if_pos rfl, if_neg (Nat.succ_ne_zero _), if_neg (Nat.not_lt.2 full),
      if_neg (Nat.not_lt.2 full)]
    refine ⟨rfl, count, ?_, ?_⟩
    · rw [count]
    · rw [count]
      rfl
  | false =>
    have room : s.retry.failures + 1 < s.retry.budget :=
      Nat.lt_of_not_le (count ▸ of_decide_eq_false spent)
    rw [if_neg Bool.false_ne_true, if_neg (Nat.succ_ne_zero _), if_pos room, if_pos room]
    refine ⟨rfl, count, ?_, ?_⟩
    · rw [count]
    · rw [count]
      rfl

/-- A connection that is not lost leaves room for one more failure. -/
lemma lt_countLimit {budget k : Nat} (budget_le : budget ≤ Retry.countLimit)
    (live : (connectivityOf budget k).isTerminal = false) : k < Retry.countLimit := by
  unfold connectivityOf at live
  split at live
  · rename_i zero
    rw [zero]
    decide
  · split at live
    · omega
    · cases live

/-- A probe keeps the listeners in line with the history. -/
lemma Supervised.tick {config : Config} {history : List Bool} {s : State} {ns : List Notice}
    (inv : Supervised config history s ns) (budget_le : config.budget ≤ Retry.countLimit)
    (live : s.connectivity.isTerminal = false) (up : Bool) :
    Supervised config (history ++ [up]) (s.tick up).state (ns ++ (s.tick up).notices) := by
  cases up with
  | true =>
    rw [State.tick_up live]
    have calls : Watch.gateSteps s.succeed.notices = callsFor (history ++ [true]) := by
      rw [gateSteps_succeed, inv.counter, callsFor, List.getLast?_concat, recovers_up]
      simp
    have entry : entries s.succeed.notices = [entryFor config.budget (history ++ [true])] := by
      rw [entries_succeed, inv.counter, entryFor, failuresInRow_up, recovers_up]
      simp
    refine ⟨(failuresInRow_up history).symm, inv.budget, ?_, inv.inRange.reset, ?_,
      calls_concat inv.calls calls, entries_concat inv.status entry⟩
    · rw [failuresInRow_up]
      rfl
    · rw [gateSteps_append, gateAfter_append, inv.gate, gateSteps_succeed, inv.counter,
        failuresInRow_up]
      split
      · rfl
      · exact decide_eq_true (by omega)
  | false =>
    rw [State.tick_down live]
    -- the counter is not at its limit, so the failure counts
    have lt : s.retry.failures < Retry.countLimit := by
      rw [inv.connectivity] at live
      rw [inv.counter]
      exact lt_countLimit budget_le live
    obtain ⟨retry, count, connectivity, entry⟩ := fail_eq lt
    rw [inv.counter] at count
    rw [inv.counter, inv.budget] at connectivity entry
    have calls : Watch.gateSteps s.fail.notices = callsFor (history ++ [false]) := by
      rw [gateSteps_fail, callsFor, List.getLast?_concat]
      rfl
    have entry' : entries s.fail.notices = [entryFor config.budget (history ++ [false])] := by
      rw [entry, entryFor, failuresInRow_down]
      rfl
    refine ⟨?_, ?_, ?_, ?_, ?_, calls_concat inv.calls calls, entries_concat inv.status entry'⟩
    · rw [count, failuresInRow_down]
    · rw [retry]
      exact inv.budget
    · rw [connectivity, failuresInRow_down]
    · rw [retry]
      exact inv.inRange.recordFailure
    · rw [gateSteps_append, gateAfter_append, gateSteps_fail, failuresInRow_down]
      rfl

/-- What is in line with a history agrees with it. -/
lemma Supervised.agrees {config : Config} {history : List Bool} {s : State} {ns : List Notice}
    (inv : Supervised config history s ns) : Agrees config.budget history s ns where
  counter := inv.counter
  healthy := by
    rw [inv.connectivity]
    exact connectivityOf_eq_healthy
  degraded k := by
    rw [inv.connectivity]
    exact connectivityOf_eq_degraded
  lost k := by
    rw [inv.connectivity, connectivityOf_eq_lost]
  live := by
    rw [inv.gate, inv.connectivity, decide_eq_true_iff, connectivityOf_eq_healthy]
  calls := inv.calls
  status := inv.status
  ready := inv.inRange.isSome_ofSeconds?

/-- Results of the first probes, oldest first. -/
def Probe.history (probe : Probe) (n : Nat) : List Bool := (List.range n).map probe.result

/-- The history of one more probe ends with its result. -/
lemma Probe.history_succ (probe : Probe) (n : Nat) :
    probe.history (n + 1) = probe.history n ++ [probe.result n] := by
  unfold Probe.history
  rw [List.range_succ, List.map_append, List.map_singleton]

/-- One more tick makes a probe or does not. -/
lemma probed_concat (ts : List (Tick × Option Nat)) (t : Tick × Option Nat) :
    probed (ts ++ [t]) = probed ts + t.2.toList.length := by
  unfold probed
  rw [List.filterMap_append, List.length_append]
  obtain ⟨t, _ | start⟩ := t <;> rfl

/-- What every probe keeps in line with the history holds after any number of ticks, since a tick of
a lost connection changes nothing. -/
lemma series_induction {motive : List Bool → State → List Notice → Prop} {s : State}
    (start : motive [] s [])
    (step : ∀ {history s ns} up, motive history s ns → s.connectivity.isTerminal = false →
      motive (history ++ [up]) (s.tick up).state (ns ++ (s.tick up).notices))
    (probe : Probe) (n : Nat) :
    motive (probe.history (probed (series probe n s 0 0))) (after s (series probe n s 0 0))
      (heard (series probe n s 0 0)) := by
  induction n with
  | zero => exact start
  | succ n ih =>
    rw [series_succ, after_concat, heard_concat, probed_concat]
    generalize series probe n s 0 0 = ts at ih ⊢
    unfold tickAt
    cases terminal : (after s ts).connectivity.isTerminal with
    | true =>
      rw [if_pos rfl, State.tick_of_isTerminal terminal, List.append_nil]
      exact ih
    | false =>
      rw [if_neg Bool.false_ne_true, Nat.zero_add]
      show motive (probe.history (probed ts + 1)) _ _
      rw [Probe.history_succ]
      exact step _ ih terminal

/-- Any number of ticks keeps the listeners in line with the probes made. -/
lemma supervised_series {config : Config} {s : State} (start : Supervised config [] s [])
    (budget_le : config.budget ≤ Retry.countLimit) (probe : Probe) (n : Nat) :
    Supervised config (probe.history (probed (series probe n s 0 0)))
      (after s (series probe n s 0 0))
      (heard (series probe n s 0 0)) :=
  series_induction start (fun up inv live => inv.tick budget_le live up) probe n

/-- Every tick makes a probe until the connection is lost. -/
lemma probed_series {probe : Probe} {n : Nat} {s : State}
    (live : (after s (series probe n s 0 0)).connectivity.isTerminal = false) :
    probed (series probe n s 0 0) = n := by
  induction n with
  | zero => rfl
  | succ n ih =>
    rw [series_succ, after_concat] at live
    rw [series_succ, probed_concat]
    generalize series probe n s 0 0 = ts at ih live ⊢
    unfold tickAt at live ⊢
    cases terminal : (after s ts).connectivity.isTerminal with
    | true =>
      rw [terminal, if_pos rfl, State.tick_of_isTerminal terminal, terminal] at live
      cases live
    | false =>
      rw [if_neg Bool.false_ne_true, ih terminal]
      rfl

/-- There are as many ticks as asked for. -/
lemma length_series (probe : Probe) (n : Nat) (s : State) : (series probe n s 0 0).length = n := by
  induction n with
  | zero => rfl
  | succ n ih => rw [series_succ, List.length_append, ih, List.length_singleton]

/-- A tick of a series is that of the state which the ticks before it leave. -/
lemma getElem?_series {probe : Probe} {n i : Nat} {s : State} (lt : i < n) :
    (series probe n s 0 0)[i]? =
    some (tickAt probe (after s (series probe i s 0 0)) (probed (series probe i s 0 0))
      (probed (series probe i s 0 0) * probe.length)) := by
  induction n with
  | zero => cases lt
  | succ n ih =>
    have length := length_series probe n s
    rw [series_succ, Nat.zero_add, Nat.zero_add]
    obtain earlier | rfl := Nat.lt_succ_iff_lt_or_eq.1 lt
    · rw [List.getElem?_append_left (length.symm ▸ earlier), ih earlier]
    · rw [List.getElem?_append_right length.le, length, Nat.sub_self, List.getElem?_cons_zero]

/-- A tick that does not find the connection lost makes a probe. -/
lemma getElem?_series_of_live {probe : Probe} {n i : Nat} {s : State} (lt : i < n)
    (live : (after s (series probe i s 0 0)).connectivity.isTerminal = false) :
    (series probe n s 0 0)[i]? =
    some ((after s (series probe i s 0 0)).tick (probe.result i), some (i * probe.length)) := by
  rw [getElem?_series lt]
  unfold tickAt
  rw [live, if_neg Bool.false_ne_true, probed_series live]

/-- A tick that makes a probe is that of a state whose connection is not lost. -/
lemma tick_of_getElem?_series {probe : Probe} {n i at_ : Nat} {s : State} {t : Tick}
    (found : (series probe n s 0 0)[i]? = some (t, some at_)) :
    (after s (series probe i s 0 0)).connectivity.isTerminal = false ∧
      t = (after s (series probe i s 0 0)).tick (probe.result i) := by
  have lt : i < n := length_series probe n s ▸ (List.getElem?_eq_some_iff.1 found).1
  cases terminal : (after s (series probe i s 0 0)).connectivity.isTerminal with
  | true =>
    rw [getElem?_series lt] at found
    unfold tickAt at found
    rw [terminal] at found
    cases found
  | false =>
    rw [getElem?_series_of_live lt terminal] at found
    exact ⟨rfl, (congrArg Prod.fst (Option.some.inj found)).symm⟩

/-- Once the connection is lost, ticks make no probe and change nothing. -/
lemma series_add {probe : Probe} {n : Nat} {s : State}
    (terminal : (after s (series probe n s 0 0)).connectivity.isTerminal = true) (more : Nat) :
    series probe (n + more) s 0 0 = series probe n s 0 0 ++ List.replicate more
      (⟨after s (series probe n s 0 0), (after s (series probe n s 0 0)).retry.delay, [], none⟩,
        none) := by
  generalize eq : series probe n s 0 0 = ts at terminal
  -- every further tick starts from the state that lost the connection
  induction more with
  | zero =>
    rw [Nat.add_zero, eq]
    exact (List.append_nil ts).symm
  | succ more ih =>
    have same : after s (series probe (n + more) s 0 0) = after s ts := by
      rw [ih]
      cases more with
      | zero => rw [List.replicate_zero, List.append_nil]
      | succ more => rw [List.replicate_succ', ← List.append_assoc, after_concat]
    rw [← Nat.add_assoc, series_succ, same, ih]
    unfold tickAt
    rw [if_pos terminal, State.tick_of_isTerminal terminal, List.replicate_succ', List.append_assoc]

/-- State without work on the side. -/
def State.alone (s : State) : State := { s with side := none, rounds := 0 }

/-- Tick without work on the side, the notices of it and the warnings about it. -/
def Tick.alone (t : Tick) : Tick :=
  ⟨t.state.alone, t.delay, t.notices.filter (· ≠ .refresh), none⟩

/-- Work on the side changes nothing else. -/
lemma State.alone_tick (s : State) (up : Bool) : (s.tick up).alone = s.alone.tick up := by
  unfold State.tick
  show _ = if s.connectivity.isTerminal then _ else _
  split
  · rfl
  · cases up with
    | true =>
      rw [if_pos rfl, if_pos rfl]
      have notices : s.succeed.notices.filter (· ≠ .refresh) = s.alone.succeed.notices := by
        rw [notices_succeed, notices_succeed]
        show _ = (if 0 < s.retry.failures then _ else _) ++ []
        split <;> split <;> rfl
      show (⟨_, _, s.succeed.notices.filter (· ≠ .refresh), none⟩ : Tick) = _
      rw [notices]
      rfl
    | false =>
      rw [if_neg Bool.false_ne_true, if_neg Bool.false_ne_true]
      unfold State.fail
      show _ = if s.retry.recordFailure.isExhausted then _ else _
      dsimp only
      split <;> rfl

/-- Work on the side has no part in anything else. -/
lemma alone_series (probe : Probe) (n : Nat) (s : State) (done now : Nat) :
    (series probe n s done now).map (Prod.map Tick.alone id) = series probe n s.alone done now := by
  induction n generalizing s done now with
  | zero => rfl
  | succ n ih =>
    rw [series]
    conv_rhs => rw [series]
    show _ = if s.connectivity.isTerminal then _ else _
    split
    · rw [List.map_cons, ih, ← State.alone_tick]
      rfl
    · rw [List.map_cons, ih, ← State.alone_tick]
      rfl

/-- After any number of ticks the connection, the counter, the gate, the consumer and the status log
agree with the probes made. Every tick makes a probe until the connection is lost; from then on no
tick makes one or changes anything. Work on the side has no part in this. -/
theorem series_agrees (config : Config) (side : Option SideRefresh) (probe : Probe) (n : Nat)
    (budget_le : config.budget ≤ Retry.countLimit)
    (interval_lt : config.refreshInterval.secs < 2 ^ 63)
    (maxDelay_lt : config.maxDelay.secs < 2 ^ 63) :
    let start := State.start config side
    let ts := series probe n start 0 0
    let s := after start ts
    Agrees config.budget (probe.history (probed ts)) s (heard ts) ∧
    (s.connectivity.isTerminal = false → probed ts = n) ∧
    (s.connectivity.isTerminal = true → ∀ more, series probe (n + more) start 0 0 =
      ts ++ List.replicate more (⟨s, s.retry.delay, [], none⟩, none)) ∧
    ts.map (Prod.map Tick.alone id) = series probe n (State.start config none) 0 0 := by
  intro start ts s
  have inv := supervised_series (supervised_start interval_lt maxDelay_lt side) budget_le probe n
  exact ⟨inv.agrees, probed_series, series_add, alone_series probe n start 0 0⟩

/-- A recovery, then two failures that spend a budget of two, and ticks after that. -/
theorem series_agrees_recovery :
    let config : Config := { Config.default with budget := 2 }
    let start := State.start config (some fun _ => .error (.disconnected 0 0))
    let ts := series (.ofList [false, true] false 10) 6 start 0 0
    (config.budget ≤ Retry.countLimit ∧ config.refreshInterval.secs < 2 ^ 63 ∧
      config.maxDelay.secs < 2 ^ 63) ∧
    Agrees 2 [false, true, false, false] (after start ts) (heard ts) ∧
    entries (heard ts) = [.status .warn "Dial K8s Toast [1/2]", .status .info "K8s connectivity OK",
      .status .warn "Dial K8s Toast [1/2]",
      .status .error "Lost K8s connection (2). Bailing out!"] := by
  intro config start ts
  have four : probed ts = 4 := by decide
  have agrees := (series_agrees config (some fun _ => .error (.disconnected 0 0))
    (.ofList [false, true] false 10) 6 (by decide) (by decide) (by decide)).1
  change Agrees 2 ((Probe.ofList [false, true] false 10).history (probed ts)) _ _ at agrees
  rw [four] at agrees
  exact ⟨by decide, agrees, agrees.status.trans (by decide)⟩

end Fleet.Supervisor
