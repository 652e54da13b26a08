import Fleet.Proofs.Watch.Loop

/-!
# Passes and beats

What every turn of the loop keeps: the clock never passes an instant at which the loop is to return,
and no beat is later than it should be (`Timely`); passes do not overlap and start while the gate is
live (`Orderly`); no beat goes by unused (`Attentive`). So whatever the loop returns is sound
(`drive_sound`).

The three invariants are kept by every rule of `Step`, in this order, since each one uses those
before it: that a beat is not missed, for one, needs that the next deadline is no later than the
next multiple. `Steps.inv` carries them along any number of turns. `Driven.Sound` states what they
come to when the loop returns, without mentioning loops: when it returned and why, which passes
there were, and which beats found the gate live and started one.
-/

namespace Fleet.Watch

/-- The pass has started by an instant and is not over yet. -/
def Pass.InFlightAt (p : Pass) (u : Nat) : Prop := p.start ≤ u ∧ ∀ e ∈ p.stop, u < e

/-- The pass is over when another one starts. -/
def Pass.Before (p q : Pass) : Prop := ∃ e ∈ p.stop, e ≤ q.start

variable {s : Sources} {l l' : Loop} {now due : Nat} {p : Pass} {finished : List Pass}

/-- While no pass is in flight all are over. -/
lemma passes_idle : (⟨now, due, none, finished⟩ : Loop).passes = finished :=
  List.append_nil finished

/-- A pass in flight comes last. -/
lemma passes_inFlight :
    (⟨now, due, some p, finished⟩ : Loop).passes = finished ++ [⟨p.start, none⟩] := rfl

/-- A pass starts then, one of the earlier ones or the last. -/
lemma exists_start_concat {m : Nat} :
    (∃ q ∈ finished ++ [p], q.start = m) ↔ (∃ q ∈ finished, q.start = m) ∨ p.start = m := by
  simp only [List.mem_append, List.mem_singleton, or_and_right, exists_or, exists_eq_left]

/-- A pass by its number is one of those before or the last one. -/
lemma of_getElem?_concat {i : Nat} {q : Pass} (found : (finished ++ [p])[i]? = some q) :
    finished[i]? = some q ∨ i = finished.length ∧ q = p := by
  rw [List.getElem?_append] at found
  split at found
  · exact .inl found
  · rename_i beyond
    rw [List.getElem?_singleton] at found
    split at found
    · exact .inr ⟨by omega, (Option.some.inj found).symm⟩
    · cases found

/-! ### The clock and the beats -/

/-- The clock is not late, and neither is the next beat. -/
structure Timely (s : Sources) (l : Loop) : Prop where
  early : ∀ t ∈ s.ends, l.now ≤ t
  dvd : s.interval ∣ l.due
  ahead : ∀ m, s.interval ∣ m → l.now < m → l.due ≤ m
  begun : ∀ p ∈ l.inFlight, p.start ≤ l.now
  flying : ∀ p ∈ l.inFlight, ∀ e ∈ p.stop, l.now ≤ e
  /-- A beat that is missed during a pass is due. -/
  missed : ∀ p ∈ l.inFlight, ∀ m, s.interval ∣ m → p.start < m → l.due ≤ m

/-- The clock begins on a beat, before any end. -/
lemma timely_start : Timely s .start where
  early _ _ := Nat.zero_le _
  dvd := Nat.dvd_zero _
  ahead _ _ _ := Nat.zero_le _
  begun := nofun
  flying := nofun
  missed := nofun

/-- A turn never takes the clock beyond an end. -/
lemma Step.timely (step : Step s l l') (inv : Timely s l) : Timely s l' := by
  cases step with
  | finish _ => exact ⟨inv.early, inv.dvd, inv.ahead, nofun, nofun, nofun⟩
  | launch ready _ =>
    refine ⟨inv.early, dvd_nextBeat inv.dvd ready, fun _ => nextBeat_le inv.dvd ready, ?_, ?_, ?_⟩
    · intro p flies
      cases flies
      exact le_rfl
    · intro p flies e ends
      cases flies
      obtain ⟨n, -, rfl⟩ := Option.map_eq_some_iff.1 ends
      exact Nat.le_add_right _ _
    · intro p flies m
      cases flies
      exact nextBeat_le inv.dvd ready
  | skip ready _ =>
    exact ⟨inv.early, dvd_nextBeat inv.dvd ready, fun _ => nextBeat_le inv.dvd ready, nofun, nofun,
      nofun⟩
  | wake least later =>
    refine ⟨fun t ends => least.2 (List.mem_append_left _ ends), inv.dvd,
      fun m beat late => inv.ahead m beat (later.trans late),
      fun p flies => (inv.begun p flies).trans later.le, fun p flies e ends => ?_, inv.missed⟩
    refine least.2 (List.mem_append_right _ ?_)
    rw [Option.mem_def.1 flies]
    exact Option.mem_toList.2 ends

/-! ### Passes -/

/-- Passes take their time one after another, and start while the gate is live. -/
structure Orderly (s : Sources) (l : Loop) : Prop where
  apart : l.passes.Pairwise Pass.Before
  live : ∀ p ∈ l.passes, s.gate.live p.start = true
  timed : ∀ i p, l.finished[i]? = some p → p = s.pass i p.start ∧ ∃ e ∈ p.stop, e ≤ l.now
  flight : ∀ p ∈ l.inFlight, p = s.pass l.finished.length p.start

/-- At the start there is no pass. -/
lemma orderly_start : Orderly s .start where
  apart := .nil
  live _ mem := absurd mem List.not_mem_nil
  timed _ _ found := nomatch found
  flight := nofun

/-- Passes stay in order from turn to turn. -/
lemma Step.orderly (step : Step s l l') (timely : Timely s l) (inv : Orderly s l) :
    Orderly s l' := by
  cases step with
  | @finish now due start stop finished ready =>
    obtain ⟨apart, live, timed, flight⟩ := inv
    rw [passes_inFlight] at apart live
    -- the clock has not gone past the end of the pass
    obtain rfl : now = stop := le_antisymm (timely.flying _ rfl _ rfl) ready
    refine ⟨?_, ?_, ?_, nofun⟩
    · rw [passes_idle]
      obtain ⟨before, -, last⟩ := List.pairwise_append.1 apart
      refine List.pairwise_append.2 ⟨before, List.pairwise_singleton _ _, fun p mem => ?_⟩
      have ends := last p mem ⟨start, none⟩ (List.mem_singleton_self _)
      exact List.forall_mem_singleton.2 ends
    · rw [passes_idle]
      obtain ⟨before, last⟩ := List.forall_mem_append.1 live
      have up : s.gate.live start = true := last _ (List.mem_singleton_self _)
      exact List.forall_mem_append.2 ⟨before, List.forall_mem_singleton.2 up⟩
    · intro i p found
      obtain old | ⟨rfl, rfl⟩ := of_getElem?_concat found
      · exact timed i p old
      · exact ⟨flight _ rfl, now, rfl, le_rfl⟩
  | @launch now due finished ready up =>
    obtain ⟨apart, live, timed, -⟩ := inv
    rw [passes_idle] at apart live
    refine ⟨?_, ?_, timed, ?_⟩
    · rw [passes_inFlight]
      refine List.pairwise_append.2 ⟨apart, List.pairwise_singleton _ _, fun p mem => ?_⟩
      obtain ⟨i, found⟩ := List.getElem?_of_mem mem
      exact List.forall_mem_singleton.2 (timed i p found).2
    · rw [passes_inFlight]
      exact List.forall_mem_append.2 ⟨live, List.forall_mem_singleton.2 up⟩
    · intro p flies
      cases flies
      rfl
  | skip _ _ => exact ⟨inv.apart, inv.live, inv.timed, nofun⟩
  | wake _ later =>
    refine ⟨inv.apart, inv.live, fun i p found => ?_, inv.flight⟩
    obtain ⟨eq, e, ends, le⟩ := inv.timed i p found
    exact ⟨eq, e, ends, le.trans later.le⟩

/-! ### Beats -/

/-- No beat goes by unused: on one that finds the gate live and no pass in flight a pass starts, and
so it does when a pass ends after a beat that it missed. -/
structure Attentive (s : Sources) (l : Loop) : Prop where
  taken : ∀ m, s.interval ∣ m → m < l.now ∨ m = l.now ∧ l.now < l.due → s.gate.live m = true →
    (∀ p ∈ l.passes, ¬ p.InFlightAt m) → ∃ p ∈ l.passes, p.start = m
  retaken : ∀ p ∈ l.finished, ∀ e ∈ p.stop, ∀ m, s.interval ∣ m → p.start < m → m ≤ e →
    s.gate.live e = true → (∃ q ∈ l.passes, q.start = e) ∨ e = l.now ∧ l.inFlight = none ∧
      l.due ≤ l.now

/-- At the start no beat has gone by. -/
lemma attentive_start : Attentive s .start where
  taken m _ passed := by
    obtain past | ⟨-, ahead⟩ := passed
    · cases past
    · cases ahead
  retaken _ mem := absurd mem List.not_mem_nil

/-- A pass that ends leaves no beat unused but the one that is due then. -/
lemma attentive_finish {start stop : Nat}
    (timely : Timely s ⟨now, due, some ⟨start, some stop⟩, finished⟩)
    (inv : Attentive s ⟨now, due, some ⟨start, some stop⟩, finished⟩) :
    Attentive s ⟨now, due, none, finished ++ [⟨start, some now⟩]⟩ := by
  obtain ⟨taken, retaken⟩ := inv
  simp only [passes_inFlight, exists_start_concat] at taken retaken
  have early : start ≤ now := timely.begun _ rfl
  have missed := timely.missed _ rfl
  refine ⟨fun m beat passed live grounded => ?_, fun p mem e ends m beat late le live => ?_⟩
  · rw [passes_idle] at grounded ⊢
    rw [exists_start_concat]
    obtain ⟨before, last⟩ := List.forall_mem_append.1 grounded
    have last := last _ (List.mem_singleton_self _)
    obtain past | ⟨rfl, ahead⟩ := passed
    · -- the pass was not in flight then, so it began later
      have later : m < start := by
        by_contra flies
        refine last ⟨Nat.le_of_not_lt flies, fun e ends => ?_⟩
        cases ends
        exact past
      refine taken m beat (.inl past) live (List.forall_mem_append.2 ⟨before, ?_⟩)
      exact List.forall_mem_singleton.2 fun flies => absurd flies.1 (Nat.not_le_of_lt later)
    · -- a beat at this very instant would be due if the pass had begun before
      obtain same | earlier := early.eq_or_lt
      · exact .inr same
      · exact absurd (missed m beat earlier) (Nat.not_le_of_lt ahead)
  · rw [passes_idle, exists_start_concat]
    obtain old | new := List.mem_append.1 mem
    · obtain again | ⟨-, flies, -⟩ := retaken p old e ends m beat late le live
      · exact .inl again
      · cases flies
    · obtain rfl := List.mem_singleton.1 new
      cases ends
      exact .inr ⟨rfl, rfl, (missed m beat late).trans le⟩

/-- A pass that starts uses the beat that is due. -/
lemma attentive_launch {due' : Nat} {stop : Option Nat}
    (inv : Attentive s ⟨now, due, none, finished⟩) :
    Attentive s ⟨now, due', some ⟨now, stop⟩, finished⟩ := by
  obtain ⟨taken, retaken⟩ := inv
  rw [passes_idle] at taken
  simp only [passes_idle] at retaken
  refine ⟨fun m beat passed live grounded => ?_, fun p mem e ends m beat late le live => ?_⟩
  · rw [passes_inFlight] at grounded ⊢
    rw [exists_start_concat]
    obtain past | ⟨rfl, -⟩ := passed
    · exact .inl (taken m beat (.inl past) live (List.forall_mem_append.1 grounded).1)
    · exact .inr rfl
  · rw [passes_inFlight, exists_start_concat]
    obtain again | ⟨rfl, -, -⟩ := retaken p mem e ends m beat late le live
    · exact .inl (.inl again)
    · exact .inl (.inr rfl)

/-- A beat on which the gate is not live asks for nothing. -/
lemma attentive_skip {due' : Nat} (down : s.gate.live now = false)
    (inv : Attentive s ⟨now, due, none, finished⟩) : Attentive s ⟨now, due', none, finished⟩ := by
  obtain ⟨taken, retaken⟩ := inv
  refine ⟨fun m beat passed live grounded => ?_, fun p mem e ends m beat late le live => ?_⟩
  · obtain past | ⟨rfl, -⟩ := passed
    · exact taken m beat (.inl past) live grounded
    · rw [down] at live
      cases live
  · obtain again | ⟨rfl, -, -⟩ := retaken p mem e ends m beat late le live
    · exact .inl again
    · rw [down] at live
      cases live

/-- No beat lies between a turn and the next alarm. -/
lemma attentive_wake {t : Nat} (timely : Timely s l) (inv : Attentive s l)
    (least : IsLeast {a | a ∈ l.alarms s} t) (later : l.now < t) :
    Attentive s { l with now := t } := by
  obtain ⟨taken, retaken⟩ := inv
  obtain ⟨now, due, inFlight, finished⟩ := l
  cases inFlight with
  | some p =>
    have begun := timely.begun p rfl
    refine ⟨fun m beat passed live grounded => ?_, fun q mem e ends m beat late le live => ?_⟩
    · -- until it ends, every beat finds the pass in flight
      by_cases past : m < now
      · exact taken m beat (.inl past) live grounded
      · refine absurd ⟨begun.trans (Nat.le_of_not_lt past), nofun⟩ (grounded ⟨p.start, none⟩ ?_)
        exact List.mem_append_right _ (List.mem_singleton_self _)
    · obtain again | ⟨-, flies, -⟩ := retaken q mem e ends m beat late le live
      · exact .inl again
      · cases flies
  | none =>
    have le_due : t ≤ due := least.2 (List.mem_append_right _ (List.mem_singleton_self _))
    have ahead : now < due := later.trans_le le_due
    refine ⟨fun m beat passed live grounded => ?_, fun q mem e ends m beat late le live => ?_⟩
    · -- there is no beat between the clock and the deadline of the next one
      have due_le : now < m → due ≤ m := timely.ahead m beat
      have passed : m < now ∨ m = now ∧ now < due := by
        dsimp only at passed later
        omega
      exact taken m beat passed live grounded
    · obtain again | ⟨-, -, due_le⟩ := retaken q mem e ends m beat late le live
      · exact .inl again
      · exact absurd due_le (Nat.not_le_of_lt ahead)

/-- From turn to turn no beat goes by unused. -/
lemma Step.attentive (step : Step s l l') (timely : Timely s l) (inv : Attentive s l) :
    Attentive s l' := by
  cases step with
  | finish _ => exact attentive_finish timely inv
  | launch _ _ => exact attentive_launch inv
  | skip _ down => exact attentive_skip down inv
  | wake least later => exact attentive_wake timely inv least later

/-! ### What the loop returns -/

/-- The three invariants hold after any turns. -/
lemma Steps.inv (steps : Steps s .start l) : Timely s l ∧ Orderly s l ∧ Attentive s l := by
  induction steps with
  | refl => exact ⟨timely_start, orderly_start, attentive_start⟩
  | tail _ step ih =>
    obtain ⟨timely, orderly, attentive⟩ := ih
    exact ⟨step.timely timely, step.orderly timely orderly, step.attentive timely attentive⟩

/-- What a loop that waits for these sources may return. -/
structure Driven.Sound (s : Sources) (d : Driven) : Prop where
  interrupted : d.exit = .interrupted → s.shutdown = some d.elapsed
  supervisor : ∀ r, d.exit = .supervisor r →
    ∃ joined, s.supervisor = some (d.elapsed, joined) ∧ r = joined.outcome ""
  first : ∀ t ∈ s.ends, d.elapsed ≤ t
  /-- A pass starts when the ones before it are over. -/
  apart : d.passes.Pairwise Pass.Before
  live : ∀ p ∈ d.passes, s.gate.live p.start = true
  /-- A pass takes as long as it is to, unless the loop returns before. -/
  timed : ∀ i p, d.passes[i]? = some p →
    (p = s.pass i p.start ∧ ∃ e ∈ p.stop, e ≤ d.elapsed) ∨
    (p.stop = none ∧ p.start ≤ d.elapsed ∧ ∀ e ∈ (s.pass i p.start).stop, d.elapsed ≤ e)
  /-- A beat that finds the gate live and no pass in flight starts one. -/
  taken : ∀ m, s.interval ∣ m → m < d.elapsed → s.gate.live m = true →
    (∀ p ∈ d.passes, ¬ p.InFlightAt m) → ∃ p ∈ d.passes, p.start = m
  /-- A beat that was missed during a pass starts the next one right at its end. -/
  retaken : ∀ p ∈ d.passes, ∀ e ∈ p.stop, e < d.elapsed → ∀ m, s.interval ∣ m → p.start < m →
    m ≤ e →
    s.gate.live e = true → ∃ q ∈ d.passes, q.start = e

variable {d : Driven}

/-- A loop that returns has been sound up to then. -/
lemma sound_driven {exit : Exit} (timely : Timely s l) (orderly : Orderly s l)
    (attentive : Attentive s l) (interrupted : exit = .interrupted → s.shutdown = some l.now)
    (supervisor : ∀ r, exit = .supervisor r → ∃ joined, s.supervisor = some (l.now, joined) ∧
      r = joined.outcome "") : (l.driven s exit).Sound s where
  interrupted := interrupted
  supervisor := supervisor
  first := timely.early
  apart := orderly.apart
  live := orderly.live
  timed i p found := by
    obtain ⟨now, due, inFlight, finished⟩ := l
    cases inFlight with
    | none =>
      have found : finished[i]? = some p := (congrArg (·[i]?) passes_idle.symm).trans found
      exact .inl (orderly.timed i p found)
    | some flying =>
      have found : (finished ++ [⟨flying.start, none⟩])[i]? = some p := found
      obtain old | ⟨rfl, rfl⟩ := of_getElem?_concat found
      · exact .inl (orderly.timed i p old)
      · have same : flying = s.pass finished.length flying.start := orderly.flight flying rfl
        refine .inr ⟨rfl, timely.begun flying rfl, ?_⟩
        rw [← same]
        exact timely.flying flying rfl
  taken m beat early := attentive.taken m beat (.inl early)
  retaken p mem e ends early m beat late le live := by
    have old : p ∈ l.finished := by
      obtain old | new := List.mem_append.1 mem
      · exact old
      · obtain ⟨q, -, rfl⟩ := Option.map_eq_some_iff.1 (Option.mem_toList.1 new)
        cases ends
    obtain again | ⟨rfl, -, -⟩ := attentive.retaken p old e ends m beat late le live
    · exact again
    · exact absurd early (Nat.lt_irrefl _)

/-- What a loop returns tells its clock and its passes. -/
lemma Exits.elapsed_eq (exits : Exits s l d) : d.elapsed = l.now ∧ d.passes = l.passes := by
  cases exits <;> exact ⟨rfl, rfl⟩

/-- Whatever a loop returns is sound. -/
lemma Yields.sound (yields : Yields s d) : d.Sound s := by
  obtain ⟨l, steps, exits⟩ := yields
  obtain ⟨timely, orderly, attentive⟩ := Steps.inv steps
  cases exits with
  | @interrupted t shutdown le =>
    have ends : t ∈ s.ends := List.mem_append_left _ (Option.mem_toList.2 shutdown)
    obtain rfl := le_antisymm le (timely.early t ends)
    exact sound_driven timely orderly attentive (fun _ => shutdown) nofun
  | @supervisor t joined task le =>
    have ends : t ∈ s.ends :=
      List.mem_append_right _ (List.mem_map.2 ⟨_, Option.mem_toList.2 task, rfl⟩)
    obtain rfl := le_antisymm le (timely.early t ends)
    refine sound_driven timely orderly attentive nofun fun r same => ?_
    cases same
    exact ⟨joined, task, rfl⟩

/-- A pass that has started stays one of the passes. -/
lemma Steps.exists_start {m : Nat} (steps : Steps s l l') (starts : ∃ p ∈ l.passes, p.start = m) :
    ∃ p ∈ l'.passes, p.start = m := by
  induction steps with
  | refl => exact starts
  | tail _ step ih =>
    cases step with
    | finish _ =>
      rw [passes_inFlight, exists_start_concat] at ih
      rw [passes_idle, exists_start_concat]
      exact ih
    | launch _ _ =>
      rw [passes_idle] at ih
      rw [passes_inFlight, exists_start_concat]
      exact .inl ih
    | skip _ _ => exact ih
    | wake _ _ => exact ih

/-- Whenever a beat is due, no pass is in flight and the gate is live, a pass starts at that
instant, unless the loop returns then. -/
lemma starts_of_due (steps : Steps s l l') (exits : Exits s l' d) (idle : l.inFlight = none)
    (due_le : l.due ≤ l.now) (live : s.gate.live l.now = true) (goes_on : l.now < d.elapsed) :
    ∃ p ∈ d.passes, p.start = l.now := by
  obtain ⟨elapsed, passes⟩ := exits.elapsed_eq
  rw [passes]
  obtain rfl | ⟨next, step, steps⟩ := steps.cases_head
  · rw [elapsed] at goes_on
    exact absurd goes_on (Nat.lt_irrefl _)
  · refine Steps.exists_start steps ?_
    cases step with
    | finish _ => cases idle
    | launch _ _ =>
      rw [passes_inFlight, exists_start_concat]
      exact .inr rfl
    | skip _ down =>
      rw [down] at live
      cases live
    | @wake _ t least later =>
      have alarm : l.due ∈ l.alarms s := by
        refine List.mem_append_right _ ?_
        rw [idle]
        exact List.mem_singleton_self _
      exact absurd ((least.2 alarm).trans due_le) (Nat.not_le_of_lt later)

/-- Whatever order the loop takes its branches in, it returns at the first instant at which it is
to, with the exit of that instant; passes do not overlap and start while the gate is live, and no
beat that finds the gate live and no pass in flight goes by unused. It does return if it ever is to,
and one of the orders is that of `drive`. -/
theorem drive_sound (s : Sources) :
    (∀ d, Yields s d → d.Sound s) ∧
    (∀ l l' d, Steps s .start l → Steps s l l' → Exits s l' d → l.inFlight = none → l.due ≤ l.now →
      s.gate.live l.now = true → l.now < d.elapsed → ∃ p ∈ d.passes, p.start = l.now) ∧
    (s.ends ≠ [] → (∃ d, drive s = some d ∧ Yields s d) ∧ Acc (fun b a => Step s a b) .start ∧
      ∀ l, Steps s .start l → ∃ d l', Steps s l l' ∧ Exits s l' d) ∧
    (s.ends = [] → drive s = none ∧ ∀ d, ¬ Yields s d) := by
  refine ⟨fun d yields => yields.sound, fun l l' d _ steps exits => starts_of_due steps exits, ?_,
    ?_⟩
  · intro some_end
    obtain ⟨t, ends⟩ := List.exists_mem_of_ne_nil _ some_end
    refine ⟨drive_yields ends, acc_step ends (Nat.zero_le t), fun l steps => ?_⟩
    exact exists_exits ends ((Steps.inv steps).1.early t ends)
  · intro no_end
    refine ⟨?_, fun d yields => ?_⟩
    · unfold drive
      rw [no_end]
      rfl
    · obtain ⟨l, -, exits⟩ := yields
      unfold Sources.ends at no_end
      obtain ⟨no_shutdown, no_supervisor⟩ := List.append_eq_nil_iff.1 no_end
      cases exits with
      | interrupted shutdown _ =>
        rw [shutdown] at no_shutdown
        cases no_shutdown
      | supervisor task _ =>
        rw [task] at no_supervisor
        cases no_supervisor

/-- A pass that overruns, a gate that is down for a beat, and a pass that hangs when the task of the
supervisor is over: it panics, or it returns an error or a value. -/
theorem drive_sound_hanging :
    let s (joined : Dispatch.Joined Unit) : Sources :=
      { interval := 10, gate := ⟨[(25, false), (32, true)]⟩, shutdown := some 90
        length := fun i _ => [some 12, some 3, some 4, none][i]?.getD (some 0)
        supervisor := some (47, joined), interval_pos := by decide }
    let passes : List Pass := [⟨0, some 12⟩, ⟨12, some 15⟩, ⟨20, some 24⟩, ⟨40, none⟩]
    (s .crashed).ends ≠ [] ∧
    (∃ d, drive (s .crashed) = some d ∧ d.Sound (s .crashed) ∧ d.elapsed = 47 ∧ d.passes = passes ∧
      d.exit = .supervisor (.error (.aborted "" "task panicked"))) ∧
    (∃ d, drive (s (.returned (.error (.disconnected 5 5)))) = some d ∧ d.elapsed = 47 ∧
      d.passes = passes ∧ d.exit = .supervisor (.error (.disconnected 5 5))) ∧
    ∃ d, drive (s (.returned (.ok ()))) = some d ∧ d.elapsed = 47 ∧ d.passes = passes ∧
      d.exit = .supervisor (.ok ()) := by
  intro s passes
  have returns (joined : Dispatch.Joined Unit)
      (run : (drive (s joined)).map (fun d => (d.elapsed, d.passes)) = some (47, passes)) :
        ∃ d, drive (s joined) = some d ∧ d.Sound (s joined) ∧
      d.elapsed = 47 ∧ d.passes = passes ∧ d.exit = .supervisor (joined.outcome "") := by
    have ends : (s joined).ends ≠ [] := List.cons_ne_nil 90 [47]
    obtain ⟨sound, -, returns, -⟩ := drive_sound (s joined)
    obtain ⟨d, drives, yields⟩ := (returns ends).1
    rw [drives] at run
    obtain ⟨elapsed, same⟩ := Prod.mk.inj (Option.some.inj run)
    have sound := sound d yields
    refine ⟨d, drives, sound, elapsed, same, ?_⟩
    cases exit : d.exit with
    | interrupted =>
      have shutdown := sound.interrupted exit
      rw [elapsed] at shutdown
      cases shutdown
    | supervisor r =>
      obtain ⟨joined', task, rfl⟩ := sound.supervisor r exit
      rw [elapsed] at task
      cases task
      rfl
  obtain ⟨value, returned, -, late, all, ok⟩ := returns (.returned (.ok ())) (by decide)
  obtain ⟨failure, failed, -, late', all', error⟩ :=
    returns (.returned (.error (.disconnected 5 5))) (by decide)
  exact ⟨by decide, returns .crashed (by decide), ⟨failure, failed, late', all', error⟩,
    value, returned, late, all, ok⟩

end Fleet.Watch
