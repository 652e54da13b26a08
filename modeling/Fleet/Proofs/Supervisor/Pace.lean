import Fleet.Proofs.Supervisor.Course

/-!
# The pace of probes

A wait is cut short by every setting of the flag, also by one that leaves it down. So one probe
follows another before the delay has passed just when the flag is set in the meantime
(`paced_of_infix`).

`Paced` says of two probes in a row when the second one starts: as soon as the flag has been set
since the first one began, or when the delay has passed, whichever comes first; and `Separated` that
the delay has passed. Waits end at whole milliseconds, so the delay is rounded up to one
(`separated_iff_due_le`). The condition `Apart` keeps settings away from the very instants at which
a delay ends, where the order of two things at one instant would decide.
-/

namespace Fleet.Supervisor

/-- Nanoseconds in a millisecond. -/
def nanosPerMilli : Nat := 1000000

/-- A probe starts no earlier than the delay after the one before it. -/
def Separated (p q : Probed) : Prop :=
  p.stop * nanosPerMilli + p.tick.delay.nanos ≤ q.start * nanosPerMilli

/-- The flag is set at an instant. -/
def Signals.SetAt (s : Signals) (u : Nat) : Prop := ∃ up, (u, .send up) ∈ s.events

/-- When a probe starts after another one: as soon as the flag has been set, or the delay has
passed. -/
structure Paced (signals : Signals) (p q : Probed) : Prop where
  prompt : ∀ u, signals.SetAt u → p.start < u → q.start ≤ max p.stop u
  cause : q.start = p.due ∨ ∃ u, signals.SetAt u ∧ p.start < u ∧ u < p.due ∧ q.start = max p.stop u
  separated : Separated p q ↔
    p.tick.delay.nanos = 0 ∨ ∀ u, signals.SetAt u → p.start < u → p.due ≤ u

/-- No setting at the first instant or when a delay has just passed. -/
def Apart (signals : Signals) (t : Trace) : Prop :=
  ∀ e ∈ signals.events, 0 < e.1 ∧ ∀ p ∈ t.probes, e.1 ≠ p.due

/-- Whether settings and ends of delays fall apart is decided by comparing instants. -/
instance (signals : Signals) (t : Trace) : Decidable (Apart signals t) :=
  inferInstanceAs (Decidable (∀ e ∈ signals.events, 0 < e.1 ∧ ∀ p ∈ t.probes, e.1 ≠ p.due))

variable {probe : Probe} {signals : Signals} {n : Nat} {s : State}
  {done seen now later seen' u v : Nat}
  {p q : Probed} {t : Trace}

/-- More settings have been made just when one was made in between. -/
lemma Signals.Ordered.sent_lt_iff (ordered : signals.Ordered) (le : u ≤ v) :
    signals.sent u < signals.sent v ↔ ∃ w, signals.SetAt w ∧ u < w ∧ w ≤ v := by
  obtain ⟨past, future, split, gone, ahead⟩ := ordered.split u
  unfold sent
  rw [upTo_of_split split gone le, upTo_of_split_self split gone ahead, List.filter_append,
    List.length_append, Nat.lt_add_right_iff_pos, List.length_pos_iff_exists_mem]
  constructor
  · rintro ⟨e, mem⟩
    obtain ⟨mem, is_send⟩ := List.mem_filter.1 mem
    obtain ⟨⟨w, e⟩, new, rfl⟩ := List.mem_map.1 mem
    obtain ⟨mem, early⟩ := List.mem_filter.1 new
    cases e with
    | hangUp => cases is_send
    | send up =>
      have here : (w, .send up) ∈ signals.events := split ▸ List.mem_append_right past mem
      exact ⟨w, ⟨up, here⟩, ahead _ mem, of_decide_eq_true early⟩
  · rintro ⟨w, ⟨up, mem⟩, late, early⟩
    rw [split] at mem
    have new : (w, .send up) ∈ future.filter (·.1 ≤ v) := by
      obtain before | after := List.mem_append.1 mem
      · exact absurd (gone _ before) (Nat.not_le_of_lt late)
      · exact List.mem_filter.2 ⟨after, decide_eq_true early⟩
    exact ⟨.send up, List.mem_filter.2 ⟨List.mem_map.2 ⟨_, new, rfl⟩, rfl⟩⟩

/-- A reader that goes on has seen all settings, unless one is made right at the deadline. -/
lemma Waits.caught_up {deadline : Nat} (ordered : signals.Ordered) (le : now ≤ deadline)
    (seen_le : seen ≤ signals.sent now) (apart : ∀ e ∈ signals.events, e.1 ≠ deadline)
    (waits : Waits signals now deadline seen (.resume later seen')) :
    seen' = signals.sent later := by
  cases waits with
  | roused _ _ => rfl
  | rested seen_all quiet =>
    have same :=
      ordered.upTo_eq le fun e mem after => lt_of_le_of_ne (quiet e mem after) (apart e mem).symm
    rw [Signals.sent_eq_of_upTo same]
    exact le_antisymm seen_le seen_all
  | stirred seen_all next _ =>
    rw [Signals.sent_of_send (ordered.upTo_next next).2.2]
    exact congrArg (· + 1) (le_antisymm seen_le seen_all)

/-- A whole number of milliseconds is long enough just when it is no less than the delay rounded
up. -/
lemma separated_iff_due_le : Separated p q ↔ p.due ≤ q.start := by
  unfold Separated Probed.due Duration.millisUp nanosPerMilli
  omega

section
variable {start deadline : Nat}

/-- A reader goes on no later than it is told to. -/
lemma Waits.later_le (ordered : signals.Ordered) (le : start ≤ now)
    (caught : seen = signals.sent start)
    (waits : Waits signals now deadline seen (.resume later seen')) (set : signals.SetAt u)
    (late : start < u) : later ≤ max now u := by
  -- a setting that was not missed is made during the wait
  have during : signals.sent now ≤ seen → now < u := by
    intro seen_all
    by_contra early
    have missed := (ordered.sent_lt_iff le).2 ⟨u, set, late, Nat.le_of_not_lt early⟩
    exact absurd missed (Nat.not_lt.2 (caught ▸ seen_all))
  obtain ⟨up, mem⟩ := set
  cases waits with
  | roused _ _ => exact le_max_left _ _
  | rested seen_all quiet => exact le_max_of_le_right (quiet _ mem (during seen_all))
  | stirred seen_all next _ =>
    exact le_max_of_le_right ((ordered.upTo_next next).2.1 _ mem (during seen_all))

/-- A reader that goes on before its deadline has been told to. -/
lemma Waits.cause (ordered : signals.Ordered) (le : start ≤ now) (le' : now ≤ deadline)
    (caught : seen = signals.sent start)
    (waits : Waits signals now deadline seen (.resume later seen')) :
    later = deadline ∨ ∃ u, signals.SetAt u ∧ start < u ∧ u < deadline ∧ later = max now u := by
  cases waits with
  | roused missed _ =>
    obtain ⟨u, set, late, early⟩ := (ordered.sent_lt_iff le).1 (caught ▸ missed)
    obtain due | ahead := le'.eq_or_lt
    · exact .inl due
    · exact .inr ⟨u, set, late, early.trans_lt ahead, (max_eq_left early).symm⟩
  | rested _ _ => exact .inl rfl
  | stirred _ next early =>
    have ahead := (ordered.upTo_next next).1
    have set : signals.SetAt later := ⟨false, List.mem_of_find?_eq_some next⟩
    exact .inr ⟨later, set, le.trans_lt ahead, early, (max_eq_right ahead.le).symm⟩

end

/-- The wait after a probe that has missed no setting gives the next one its pace. -/
lemma paced_of_waits (ordered : signals.Ordered) (le : p.start ≤ p.stop)
    (caught : seen = signals.sent p.start)
    (waits : Waits signals p.stop p.due seen (.resume later seen')) (next : q.start = later) :
    Paced signals p q := by
  have due_ge : p.stop ≤ p.due := Nat.le_add_right _ _
  have prompt : ∀ u, signals.SetAt u → p.start < u → q.start ≤ max p.stop u := fun u set late =>
    next ▸ waits.later_le ordered le caught set late
  have cause : q.start = p.due ∨
      ∃ u, signals.SetAt u ∧ p.start < u ∧ u < p.due ∧ q.start = max p.stop u :=
    next ▸ waits.cause ordered le due_ge caught
  refine ⟨prompt, cause, separated_iff_due_le.trans ⟨fun due_le => ?_, ?_⟩⟩
  · by_cases idle : p.tick.delay.nanos = 0
    · exact .inl idle
    · have ahead : p.stop < p.due := by
        unfold Probed.due Duration.millisUp
        omega
      refine .inr fun u set late => ?_
      have := prompt u set late
      omega
  · rintro (idle | unset)
    · have due : p.due = p.stop := by
        unfold Probed.due Duration.millisUp
        rw [idle]
        rfl
      obtain same | ⟨u, -, -, -, same⟩ := cause
      · exact same.ge
      · omega
    · obtain same | ⟨u, set, late, early, -⟩ := cause
      · exact same.ge
      · exact absurd (unset u set late) (Nat.not_le_of_lt early)

/-- The first probe of a course starts where the course does. -/
lemma Course.start_of_head? (course : Course probe signals n s done seen now t)
    (first : t.probes.head? = some q) : q.start = now := by
  cases course with
  | unfinished => cases first
  | stopped _ => cases first
  | lost _ eq _ =>
    cases first
    rw [eq]
    rfl
  | halted _ eq _ _ =>
    cases first
    rw [eq]
    rfl
  | next _ eq _ _ _ =>
    cases first
    rw [eq]
    rfl

/-- Two probes one after the other keep the pace, from an instant at which all settings have been
seen. -/
lemma Course.paced (course : Course probe signals n s done seen now t) (ordered : signals.Ordered)
    (caught : seen = signals.sent now) (apart : ∀ e ∈ signals.events, ∀ p ∈ t.probes, e.1 ≠ p.due)
    (adjacent : [p, q] <:+: t.probes) : Paced signals p q := by
  induction course with
  | unfinished => exact absurd adjacent.length_le (Nat.not_succ_le_zero 1)
  | stopped _ => exact absurd adjacent.length_le (Nat.not_succ_le_zero 1)
  | lost _ _ _ => exact absurd adjacent.length_le (Nat.not_succ_le_self 1)
  | halted _ _ _ _ => exact absurd adjacent.length_le (Nat.not_succ_le_self 1)
  | @next _ _ _ _ _ r _ _ t down eq live waits course ih =>
    have le : r.start ≤ r.stop := by rw [eq]; exact Nat.le_add_right _ _
    -- the two are this probe and the first of the rest, or both in the rest
    obtain first | rest := List.infix_cons_iff.1 adjacent
    · obtain ⟨rfl, after⟩ := List.cons_prefix_cons.1 first
      have start : p.start = _ := congrArg Probed.start eq
      refine paced_of_waits ordered le (start ▸ caught) waits (course.start_of_head? ?_)
      obtain ⟨more, probes⟩ := after
      rw [← probes]
      rfl
    · have unmissed : ∀ e ∈ signals.events, e.1 ≠ r.due := fun e mem =>
        apart e mem r (List.mem_cons_self ..)
      have seen_le : _ ≤ signals.sent r.stop := caught.le.trans (ordered.sent_mono (eq ▸ le))
      exact ih (waits.caught_up ordered (Nat.le_add_right _ _) seen_le unmissed)
        (fun e mem p later => apart e mem p (List.mem_cons_of_mem _ later)) rest

/-- Two probes one after the other are separated by the delay of the first just when there is none
or the flag is not set in the meantime. Otherwise the second starts as soon as the flag has been
set. -/
theorem paced_of_infix (config : Config) (probe : Probe) (signals : Signals) (n : Nat)
    (ordered : signals.Ordered) (apart : Apart signals (run config probe signals n)) (p q : Probed)
    (adjacent : [p, q] <:+: (run config probe signals n).probes) : Paced signals p q := by
  have quiet : signals.upTo 0 = [] := by
    unfold Signals.upTo
    rw [List.filter_eq_nil_iff.2, List.map_nil]
    exact fun e mem early => absurd (of_decide_eq_true early) (Nat.not_le_of_lt (apart e mem).1)
  have caught : 0 = signals.sent 0 := by
    unfold Signals.sent
    rw [quiet]
    rfl
  exact (course_runFrom ordered n _ 0 0 0).paced ordered caught (fun e mem => (apart e mem).2)
    adjacent

/-- Three failures, with the flag set while the second delay runs. -/
theorem paced_of_infix_cut :
    let config : Config := { Config.default with budget := 3 }
    let probe : Probe := .ofList [] false 0
    let signals : Signals := ⟨false, [(31000, .send false)]⟩
    (signals.Ordered ∧ Apart signals (run config probe signals 9)) ∧
    ∀ p q, [p, q] <:+: (run config probe signals 9).probes → Paced signals p q := by
  intro config probe signals
  have ordered : signals.Ordered := by decide
  have apart : Apart signals (run config probe signals 9) := by decide +kernel
  exact ⟨⟨ordered, apart⟩, paced_of_infix config probe signals 9 ordered apart⟩

/-- Settings that leave the flag down cut both waits short and spend the budget in two seconds. -/
theorem not_separated_cut :
    let config : Config := { Config.default with budget := 3 }
    let signals : Signals := ⟨false, [(1000, .send false), (2000, .send false)]⟩
    let t := run config (.ofList [] false 0) signals 9
    t.ending = some (.lost 3 3, 2000) ∧ ¬ ∀ p q, [p, q] <:+: t.probes → Separated p q := by
  intro config signals t
  have probes : t.probes.map (fun p => (p.start, p.stop, p.tick.delay)) =
    [(0, 0, Duration.ofSecs 30),
      (1000, 1000, Duration.ofSecs 60), (2000, 2000, Duration.ofSecs 120)] := by decide +kernel
  refine ⟨by decide +kernel, fun separated => ?_⟩
  generalize t.probes = ps at probes separated
  obtain _ | ⟨p, _ | ⟨q, rest⟩⟩ := ps
  · simp at probes
  · simp at probes
  · have apart := separated p q ⟨[], rest, rfl⟩
    unfold Separated at apart
    simp only [List.map_cons, List.cons.injEq, Prod.mk.injEq] at probes
    obtain ⟨⟨-, stop, delay⟩, ⟨start, -, -⟩, -⟩ := probes
    rw [stop, delay, start] at apart
    exact absurd apart (by decide)

end Fleet.Supervisor
