import Fleet.Proofs.Watch.Passes

/-!
# Passes off the beat

A beat that falls into a pass is not skipped but taken when the pass ends. So a pass starts on a
beat, or right when an earlier one that overran a beat ends between two (`Loop.Ready`), and all
passes of a loop start on beats exactly if the gate is down whenever a pass has overrun
(`onBeat_iff`).

The invariant `Placed` gives a reason for every start of a pass so far, and for the next one if it
may start now. It is kept by every turn (`Step.placed`), for intervals longer than the slack: a beat
that is taken that little too late counts as taken in time. The equivalence needs the other
direction too, that a gate which is up at the end of such a pass does start another one, and this
comes from what every loop returns (`starts_of_due`).
-/

namespace Fleet.Watch

/-- The pass ends at an instant between beats, after one that fell into it. -/
structure Pass.Overruns (interval : Nat) (p : Pass) (e : Nat) : Prop where
  stop : p.stop = some e
  between : ¬ interval ∣ e
  beat : ∃ m, interval ∣ m ∧ p.start < m ∧ m < e

/-- Every pass starts on a beat. -/
def Driven.OnBeat (s : Sources) (d : Driven) : Prop := ∀ q ∈ d.passes, s.interval ∣ q.start

/-- A beat, or the end of a pass that overran one. -/
def Loop.Ready (s : Sources) (l : Loop) (t : Nat) : Prop :=
  s.interval ∣ t ∨ ∃ p ∈ l.finished, p.Overruns s.interval t

/-- Whenever a pass may start, and whenever one did, there is a reason for it. -/
structure Placed (s : Sources) (l : Loop) : Prop where
  starts : ∀ q ∈ l.passes, l.Ready s q.start
  next : l.inFlight = none → l.due ≤ l.now → l.Ready s l.now
  flight : ∀ p ∈ l.inFlight, p.start < l.due

variable {s : Sources} {l l' : Loop} {d : Driven} {now due t : Nat} {finished : List Pass}

/-- With an interval longer than the slack, the next beat is ahead. -/
lemma now_lt_nextBeat {interval : Nat} (slow : slack < interval) :
    now < nextBeat interval due now := by
  unfold nextBeat
  have rest := Nat.mod_lt (now - due) (Nat.zero_lt_of_lt slow)
  split
  · omega
  · omega

/-- A pass that is over leaves a loop ready for an instant. -/
lemma Loop.Ready.concat {p : Pass} {inFlight inFlight' : Option Pass} {due' : Nat}
    (ready : (⟨now, due, inFlight, finished⟩ : Loop).Ready s t) :
    (⟨now, due', inFlight', finished ++ [p]⟩ : Loop).Ready s t := by
  obtain beat | ⟨q, mem, overruns⟩ := ready
  · exact .inl beat
  · exact .inr ⟨q, List.mem_append_left _ mem, overruns⟩

/-- At the start a pass may start, since that is a beat. -/
lemma placed_start : Placed s .start where
  starts _ mem := absurd mem List.not_mem_nil
  next _ _ := .inl (Nat.dvd_zero _)
  flight := nofun

/-- A pass that ends late is the reason for another one to start at once. -/
lemma placed_finish {start stop : Nat}
    (timely : Timely s ⟨now, due, some ⟨start, some stop⟩, finished⟩)
    (inv : Placed s ⟨now, due, some ⟨start, some stop⟩, finished⟩) :
    Placed s ⟨now, due, none, finished ++ [⟨start, some now⟩]⟩ := by
  obtain ⟨starts, -, flight⟩ := inv
  refine ⟨?_, ?_, nofun⟩
  · intro q mem
    rw [passes_inFlight] at starts
    rw [passes_idle] at mem
    obtain ⟨before, last⟩ := List.forall_mem_append.1 starts
    obtain old | new := List.mem_append.1 mem
    · exact (before q old).concat
    · obtain rfl := List.mem_singleton.1 new
      exact (last _ (List.mem_singleton_self _)).concat
  · intro _ late
    by_cases beat : s.interval ∣ now
    · exact .inl beat
    · -- the beat that is due fell into the pass
      have early : start < due := flight _ rfl
      have passed : due < now := by
        apply lt_of_le_of_ne late
        intro same
        exact beat (Eq.subst same timely.dvd)
      refine .inr ⟨_, List.mem_append_right _ (List.mem_singleton_self _), rfl, beat, ?_⟩
      exact ⟨due, timely.dvd, early, passed⟩

/-- From turn to turn there is a reason for every start of a pass. -/
lemma Step.placed (slow : slack < s.interval) (step : Step s l l') (timely : Timely s l)
    (inv : Placed s l) : Placed s l' := by
  cases step with
  | finish ended =>
    obtain rfl := le_antisymm ended (timely.flying _ rfl _ rfl)
    exact placed_finish timely inv
  | launch ready _ =>
    obtain ⟨starts, next, -⟩ := inv
    refine ⟨?_, nofun, ?_⟩
    · rw [passes_idle] at starts
      rw [passes_inFlight]
      apply List.forall_mem_append.2 ⟨starts, ?_⟩
      exact List.forall_mem_singleton.2 (next rfl ready)
    · intro p flies
      cases flies
      exact now_lt_nextBeat slow
  | skip _ _ =>
    refine ⟨inv.starts, ?_, nofun⟩
    intro _ late
    exact absurd late (Nat.not_le_of_lt (now_lt_nextBeat slow))
  | @wake l t least later =>
    refine ⟨inv.starts, ?_, inv.flight⟩
    intro idle late
    -- a loop that waits for a beat is woken no later than on it
    have due : l.due ∈ l.alarms s := by
      apply List.mem_append_right
      rw [show l.inFlight = none from idle]
      exact List.mem_singleton_self _
    have same : l.due = t := le_antisymm late (least.2 due)
    exact .inl (same ▸ timely.dvd)

/-- After any turns there is a reason for every start of a pass. -/
lemma Steps.placed (slow : slack < s.interval) (steps : Steps s .start l) : Placed s l := by
  induction steps with
  | refl => exact placed_start
  | tail steps step ih => exact step.placed slow (Steps.inv steps).1 ih

/-- A pass starts on a beat, or when an earlier one that overran a beat ends. -/
lemma Yields.starts (slow : slack < s.interval) (yields : Yields s d) :
    ∀ q ∈ d.passes, s.interval ∣ q.start ∨ ∃ p ∈ d.passes, p.Overruns s.interval q.start := by
  obtain ⟨l, steps, exits⟩ := yields
  rw [exits.elapsed_eq.2]
  intro q mem
  obtain beat | ⟨p, old, overruns⟩ := (Steps.placed slow steps).starts q mem
  · exact .inl beat
  · exact .inr ⟨p, List.mem_append_left _ old, overruns⟩

/-- A pass that is over took the time it was to take. -/
lemma Driven.Sound.stop_eq {p : Pass} {e : Nat} (sound : d.Sound s) (mem : p ∈ d.passes)
    (ends : p.stop = some e) :
    e ≤ d.elapsed ∧ ∃ i n, s.length i p.start = some n ∧ e = p.start + n := by
  obtain ⟨i, found⟩ := List.getElem?_of_mem mem
  obtain ⟨same, e', ends', le⟩ | ⟨hangs, -⟩ := sound.timed i p found
  · obtain rfl : e = e' := Option.some.inj (ends.symm.trans ends')
    rw [same] at ends
    obtain ⟨n, length, rfl⟩ := Option.map_eq_some_iff.1 ends
    exact ⟨le, i, n, length, rfl⟩
  · rw [ends] at hangs
    cases hangs

/-- A pass that starts on a beat and takes no longer than the interval overruns no other beat. -/
lemma Pass.Overruns.lt {interval e n : Nat} {p : Pass} (overruns : p.Overruns interval e)
    (beat : interval ∣ p.start) (takes : e = p.start + n) : interval < n := by
  obtain ⟨m, other, after, before⟩ := overruns.beat
  have apart : interval ≤ m - p.start :=
    Nat.le_of_dvd (Nat.sub_pos_of_lt after) (Nat.dvd_sub other beat)
  omega

/-- Passes that take no longer than the interval all start on beats. -/
lemma Yields.onBeat_of_length_le (slow : slack < s.interval) (yields : Yields s d)
    (short : ∀ i t n, s.length i t = some n → n ≤ s.interval) : d.OnBeat s := by
  intro q mem
  generalize at_ : q.start = t
  -- the pass that overran began before the one that starts at its end
  induction t using Nat.strong_induction_on generalizing q with
  | _ t ih =>
    subst at_
    obtain beat | ⟨p, inside, overruns⟩ := yields.starts slow q mem
    · exact beat
    · obtain ⟨-, i, n, length, takes⟩ := yields.sound.stop_eq inside overruns.stop
      obtain ⟨m, -, after, before⟩ := overruns.beat
      have beat := ih p.start (after.trans before) p inside rfl
      exact absurd (short i p.start n length) (Nat.not_le_of_lt (overruns.lt beat takes))

/-- A pass starts on a beat, or right at the end of one that overran a beat. Of the passes of a loop
that does not return just when one of them ends, all start on beats exactly if the gate is down
whenever a pass has overrun; that is so if none takes longer than the interval. -/
theorem onBeat_iff (slow : slack < s.interval) (yields : Yields s d) :
    (∀ q ∈ d.passes, s.interval ∣ q.start ∨ ∃ p ∈ d.passes, p.Overruns s.interval q.start) ∧
    ((∀ p ∈ d.passes, p.stop ≠ some d.elapsed) →
      (d.OnBeat s ↔ ∀ p ∈ d.passes, ∀ e, p.Overruns s.interval e → s.gate.live e = false)) ∧
    ((∀ i t n, s.length i t = some n → n ≤ s.interval) → d.OnBeat s) := by
  have sound := yields.sound
  refine ⟨yields.starts slow, fun apart => ⟨?_, ?_⟩, yields.onBeat_of_length_le slow⟩
  · intro onBeat p mem e overruns
    -- with the gate up, a pass would start at the end of this one
    by_contra up
    have live : s.gate.live e = true := eq_true_of_ne_false up
    have early : e < d.elapsed := by
      apply lt_of_le_of_ne (sound.stop_eq mem overruns.stop).1
      rintro rfl
      exact apart p mem overruns.stop
    obtain ⟨m, beat, after, before⟩ := overruns.beat
    obtain ⟨q, starts, rfl⟩ := sound.retaken p mem e overruns.stop early m beat after before.le live
    exact overruns.between (onBeat q starts)
  · intro down q mem
    obtain beat | ⟨p, inside, overruns⟩ := yields.starts slow q mem
    · exact beat
    · have live := sound.live q mem
      rw [down p inside _ overruns] at live
      cases live

/-- A pass that overruns a beat but ends while the gate is down, and passes on beats after it. -/
theorem onBeat_iff_lull : let s : Sources :=
      { interval := 1000, gate := ⟨[(1200, false), (1900, true)]⟩, shutdown := some 3200
        length := fun i _ => [some 1500, some 400][i]?.getD (some 0)
        supervisor := none, interval_pos := by decide }
    slack < s.interval ∧ ∃ d, drive s = some d ∧ Yields s d ∧
      (∀ p ∈ d.passes, p.stop ≠ some d.elapsed) ∧
      d.passes = [⟨0, some 1500⟩, ⟨2000, some 2400⟩, ⟨3000, some 3000⟩] ∧
      (⟨0, some 1500⟩ : Pass).Overruns s.interval 1500 ∧ d.OnBeat s := by
  intro s
  have run : (drive s).map (fun d => (d.elapsed, d.passes)) =
      some (3200, [⟨0, some 1500⟩, ⟨2000, some 2400⟩, ⟨3000, some 3000⟩]) := by decide +kernel
  obtain ⟨d, drives, yields⟩ := drive_yields (s := s) (t := 3200) (List.mem_singleton_self _)
  rw [drives] at run
  obtain ⟨elapsed, passes⟩ := Prod.mk.inj (Option.some.inj run)
  have apart : ∀ p ∈ d.passes, p.stop ≠ some d.elapsed := by
    rw [elapsed, passes]
    decide
  have slow : slack < s.interval := by decide
  refine ⟨slow, d, drives, yields, apart, passes, ⟨rfl, by decide, 1000, by decide⟩, ?_⟩
  refine ((onBeat_iff slow yields).2.1 apart).2 fun p mem e overruns => ?_
  obtain ⟨stop, -, m, ⟨k, rfl⟩, after, before⟩ := overruns
  rw [passes] at mem
  simp only [List.mem_cons, List.not_mem_nil, or_false] at mem
  obtain rfl | rfl | rfl := mem
  · cases stop
    rfl
  · cases stop
    change 2000 < 1000 * k at after
    change 1000 * k < 2400 at before
    omega
  · cases stop
    change 3000 < 1000 * k at after
    change 1000 * k < 3000 at before
    omega

/-- A pass that overruns a beat while the gate is up is followed at once by one between beats. -/
theorem not_onBeat_overrun : let s : Sources :=
      { interval := 1000, gate := ⟨[]⟩, shutdown := some 1800
        length := fun i _ => [some 1500][i]?.getD (some 0)
        supervisor := none, interval_pos := by decide }
    ∃ d, drive s = some d ∧ Yields s d ∧ d.passes = [⟨0, some 1500⟩, ⟨1500, some 1500⟩] ∧
      ¬ d.OnBeat s := by
  intro s
  have run : (drive s).map (·.passes) = some [⟨0, some 1500⟩, ⟨1500, some 1500⟩] := by
    decide +kernel
  obtain ⟨d, drives, yields⟩ := drive_yields (s := s) (t := 1800) (List.mem_singleton_self _)
  rw [drives] at run
  have passes : d.passes = [⟨0, some 1500⟩, ⟨1500, some 1500⟩] := Option.some.inj run
  refine ⟨d, drives, yields, passes, fun onBeat => ?_⟩
  unfold Driven.OnBeat at onBeat
  rw [passes] at onBeat
  have beat : 1000 ∣ 1500 :=
    onBeat ⟨1500, some 1500⟩ (List.mem_cons_of_mem _ (List.mem_singleton_self _))
  exact absurd beat (by decide)

end Fleet.Watch
