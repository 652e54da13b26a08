import Fleet.Watch.Drive
import Mathlib.Data.List.MinMax
import Mathlib.Logic.Relation
import Mathlib.Order.Bounds.Basic
import Mathlib.Order.Nat

/-!
# Turns of the loop

A loop that waits for several things takes any branch that is ready; which one comes first when
several are is left open (`Step`, `Exits`). Every turn brings the loop closer to the instant at
which it is to return (`Step.remaining_lt`), so it returns, whatever order is taken, and `drive` is
one of the orders (`drive_yields`).

`Step` has a rule for a pass that ends, for a beat that starts a pass, for a beat on which the gate
is down, and for the clock, which goes to the next alarm if that is ahead; it is whenever no other
branch is ready (`lt_of_mem_alarms`). `Yields s d` says that some turns lead from the start to a
loop that returns `d`. The function that runs the loop looks at the branches in one fixed order, so
each of its turns is a step (`finish?_step`, `beat?_step`, `wake?_step`), and results about all
orders are results about the function.
-/

namespace Fleet.Watch

/-- One turn of the loop. -/
inductive Step (s : Sources) : Loop → Loop → Prop where
  | finish {now due start stop finished} :
    stop ≤ now →
    Step s ⟨now, due, some ⟨start, some stop⟩, finished⟩
      ⟨now, due, none, finished ++ [⟨start, some now⟩]⟩
  | launch {now due finished} :
    due ≤ now →
    s.gate.live now = true →
    Step s ⟨now, due, none, finished⟩
      ⟨now, nextBeat s.interval due now, some (s.pass finished.length now), finished⟩
  | skip {now due finished} :
    due ≤ now →
    s.gate.live now = false →
    Step s ⟨now, due, none, finished⟩ ⟨now, nextBeat s.interval due now, none, finished⟩
  | wake {l t} :
    IsLeast {a | a ∈ l.alarms s} t →
    l.now < t →
    Step s l { l with now := t }

/-- Turns in any number. -/
abbrev Steps (s : Sources) : Loop → Loop → Prop := Relation.ReflTransGen (Step s)

/-- A loop that may return, and with what. -/
inductive Exits (s : Sources) (l : Loop) : Driven → Prop where
  | interrupted {t} :
    s.shutdown = some t →
    t ≤ l.now →
    Exits s l (l.driven s .interrupted)
  | supervisor {t joined} :
    s.supervisor = some (t, joined) →
    t ≤ l.now →
    Exits s l (l.driven s (.supervisor (joined.outcome "")))

/-- What the loop may return after any turns. -/
def Yields (s : Sources) (d : Driven) : Prop := ∃ l, Steps s .start l ∧ Exits s l d

variable {s : Sources} {l l' : Loop} {t interval due now : Nat}

/-! ### Beats -/

/-- The next beat is later than the one that was taken. -/
lemma lt_nextBeat (pos : 0 < interval) (le : due ≤ now) : due < nextBeat interval due now := by
  unfold nextBeat
  have rest := Nat.mod_lt (now - due) pos
  split <;> omega

/-- The next beat is a number of intervals after the last, and no more than one after the clock. -/
lemma nextBeat_eq (interval : Nat) (le : due ≤ now) : ∃ k,
    nextBeat interval due now = due + interval * (k + 1) ∧ due + interval * k ≤ now := by
  unfold nextBeat
  split
  · have parts := Nat.div_add_mod (now - due) interval
    refine ⟨(now - due) / interval, ?_, ?_⟩
    · rw [Nat.mul_succ]
      omega
    · omega
  · exact ⟨0, by rw [Nat.zero_add, Nat.mul_one], le⟩

/-- The next beat is a multiple of the interval. -/
lemma dvd_nextBeat (dvd : interval ∣ due) (le : due ≤ now) :
    interval ∣ nextBeat interval due now := by
  obtain ⟨k, eq, -⟩ := nextBeat_eq interval le
  rw [eq]
  exact Nat.dvd_add dvd (Nat.dvd_mul_right _ _)

/-- The next beat is no later than any multiple of the interval still ahead. -/
lemma nextBeat_le {m : Nat} (dvd : interval ∣ due) (le : due ≤ now) (beat : interval ∣ m)
    (ahead : now < m) : nextBeat interval due now ≤ m := by
  obtain ⟨k, eq, taken⟩ := nextBeat_eq interval le
  obtain ⟨c, rfl⟩ := dvd
  obtain ⟨d, rfl⟩ := beat
  rw [← Nat.mul_add] at eq taken
  have fewer : c + k < d := Nat.lt_of_mul_lt_mul_left (taken.trans_lt ahead)
  rw [eq]
  exact Nat.mul_le_mul_left _ fewer

/-! ### One order of turns -/

/-- The end of a pass is a turn. -/
lemma finish?_step (eq : l.finish? = some l') : Step s l l' := by
  obtain ⟨now, due, inFlight, finished⟩ := l
  unfold Loop.finish? at eq
  split at eq
  · rename_i start stop flies
    cases flies
    split at eq
    · rename_i finished
      cases eq
      exact .finish finished
    · cases eq
  · cases eq

/-- Taking a beat is a turn. -/
lemma beat?_step (eq : l.beat? s = some l') : Step s l l' := by
  obtain ⟨now, due, inFlight, finished⟩ := l
  unfold Loop.beat? at eq
  cases inFlight with
  | some p => cases eq
  | none =>
    dsimp only at eq
    split at eq
    · rename_i ready
      cases eq
      cases live : s.gate.live now with
      | true => exact .launch ready live
      | false => exact .skip ready live
    · cases eq

/-- A loop that is to return may do so. -/
lemma exit?_exits {exit : Exit} (eq : l.exit? s = some exit) : Exits s l (l.driven s exit) := by
  unfold Loop.exit? at eq
  split at eq
  · rename_i fired
    cases eq
    obtain ⟨t, shutdown, le⟩ := (Option.any_eq_true ..).1 fired
    exact .interrupted shutdown (of_decide_eq_true le)
  · split at eq
    · rename_i t joined ends
      split at eq
      · rename_i le
        cases eq
        exact .supervisor ends le
      · cases eq
    · cases eq

/-- While nothing is ready, all alarms are ahead. -/
lemma lt_of_mem_alarms (flying : l.finish? = none) (staying : l.exit? s = none)
    (idle : l.beat? s = none) (mem : t ∈ l.alarms s) : l.now < t := by
  by_contra late
  have late := Nat.le_of_not_lt late
  obtain ends | mem := List.mem_append.1 mem
  · unfold Loop.exit? at staying
    split at staying
    · cases staying
    · rename_i not_yet
      obtain shutdown | supervisor := List.mem_append.1 ends
      · have fired : s.shutdown.any (· ≤ l.now) = true :=
          (Option.any_eq_true ..).2 ⟨t, Option.mem_toList.1 shutdown, decide_eq_true late⟩
        exact not_yet fired
      · obtain ⟨⟨_, joined⟩, task, rfl⟩ := List.mem_map.1 supervisor
        rw [Option.mem_toList.1 task] at staying
        dsimp only at staying late
        rw [if_pos late] at staying
        cases staying
  · obtain ⟨now, due, inFlight, finished⟩ := l
    cases inFlight with
    | none =>
      obtain rfl := List.mem_singleton.1 mem
      unfold Loop.beat? at idle
      dsimp only at idle late
      rw [if_pos late] at idle
      cases idle
    | some p =>
      obtain ⟨start, stop⟩ := p
      obtain rfl : stop = some t := Option.mem_toList.1 mem
      unfold Loop.finish? at flying
      dsimp only at flying late
      rw [if_pos late] at flying
      cases flying

/-- Waking at the next alarm is a turn where nothing else is ready. -/
lemma wake?_step (flying : l.finish? = none) (staying : l.exit? s = none) (idle : l.beat? s = none)
    (eq : l.wake? s = some l') : Step s l l' := by
  obtain ⟨t, least, rfl⟩ := Option.map_eq_some_iff.1 eq
  obtain ⟨mem, le⟩ := List.min?_eq_some_iff.1 least
  exact .wake ⟨mem, le⟩ (lt_of_mem_alarms flying staying idle mem)

/-! ### Every order returns -/

/-- Turns left until an instant: beats, wakings and the end of a pass. -/
def Loop.remaining (t : Nat) (l : Loop) : Nat :=
  2 * (t + 1 - l.due) + (t - l.now) + l.inFlight.toList.length

/-- A turn brings the loop closer to an instant at which it is to return, and not past it. -/
lemma Step.remaining_lt (step : Step s l l') (ends : t ∈ s.ends) (le : l.now ≤ t) :
    l'.now ≤ t ∧ l'.remaining t < l.remaining t := by
  unfold Loop.remaining
  cases step with
  | finish _ => exact ⟨le, Nat.lt_succ_self _⟩
  | @launch now due _ ready _ =>
    have later := lt_nextBeat s.interval_pos ready
    refine ⟨le, ?_⟩
    dsimp only [Option.toList, List.length_singleton, List.length_nil] at le ⊢
    omega
  | @skip now due _ ready _ =>
    have later := lt_nextBeat s.interval_pos ready
    refine ⟨le, ?_⟩
    dsimp only [Option.toList, List.length_nil] at le ⊢
    omega
  | wake least later =>
    have le' := least.2 (List.mem_append_left _ ends)
    refine ⟨le', ?_⟩
    dsimp only
    omega

/-- No turns go on for ever. -/
lemma acc_step (ends : t ∈ s.ends) (le : l.now ≤ t) : Acc (fun b a => Step s a b) l := by
  generalize size : l.remaining t = n
  -- the turns left bound every order of turns
  induction n using Nat.strong_induction_on generalizing l with
  | _ n ih =>
    refine .intro l fun l' step => ?_
    obtain ⟨le', less⟩ := step.remaining_lt ends le
    exact ih _ (size ▸ less) le' rfl

/-- With turns enough, the loop returns what it may return. -/
lemma run?_exits {n : Nat} (ends : t ∈ s.ends) (le : l.now ≤ t) (enough : l.remaining t < n) :
    ∃ d l', l.run? s n = some d ∧ Steps s l l' ∧ Exits s l' d := by
  induction n generalizing l with
  | zero => cases enough
  | succ n ih =>
    -- whatever the next turn is, the rest of them are enough
    have goes_on : ∀ {l'}, Step s l l' → ∃ d l'', l'.run? s n = some d ∧ Steps s l l'' ∧
        Exits s l'' d := by
      intro l' step
      obtain ⟨le', less⟩ := step.remaining_lt ends le
      obtain ⟨d, l'', runs, steps, exits⟩ := ih le' (less.trans_le (Nat.le_of_lt_succ enough))
      exact ⟨d, l'', runs, .head step steps, exits⟩
    unfold Loop.run?
    cases flying : l.finish? with
    | some l' => exact goes_on (finish?_step flying)
    | none =>
      cases staying : l.exit? s with
      | some exit => exact ⟨_, l, rfl, .refl, exit?_exits staying⟩
      | none =>
        cases idle : l.beat? s with
        | some l' => exact goes_on (beat?_step idle)
        | none =>
          cases wakes : l.wake? s with
          | some l' => exact goes_on (wake?_step flying staying idle wakes)
          | none =>
            have empty := List.min?_eq_none_iff.1 (Option.map_eq_none_iff.1 wakes)
            have alarm : t ∈ l.alarms s := List.mem_append_left _ ends
            rw [empty] at alarm
            cases alarm

/-- Some turns lead to the end. -/
lemma exists_exits (ends : t ∈ s.ends) (le : l.now ≤ t) : ∃ d l', Steps s l l' ∧ Exits s l' d := by
  obtain ⟨d, l', -, exits⟩ := run?_exits ends le (Nat.lt_succ_self _)
  exact ⟨d, l', exits⟩

/-- The loop returns if it ever is to, in one of the orders. -/
lemma drive_yields (ends : t ∈ s.ends) : ∃ d, drive s = some d ∧ Yields s d := by
  cases first : s.ends.min? with
  | none =>
    rw [List.min?_eq_none_iff.1 first] at ends
    cases ends
  | some t =>
    have enough : Loop.start.remaining t < turnLimit t := by
      unfold turnLimit
      show 2 * (t + 1 - 0) + (t - 0) + 0 < _
      omega
    obtain ⟨d, l, runs, steps, exits⟩ :=
      run?_exits (List.min?_eq_some_iff.1 first).1 (Nat.zero_le t) enough
    refine ⟨d, ?_, l, steps, exits⟩
    unfold drive
    rw [first]
    exact runs

end Fleet.Watch
