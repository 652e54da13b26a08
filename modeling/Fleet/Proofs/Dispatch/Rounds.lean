import Fleet.Proofs.Dispatch.Batch

/-!
# Rounds of tasks

Tasks that are cut off by one time limit are over in rounds of as many as there are slots: a greedy
schedule leaves no task of a round waiting for the one after it (`Greedy.stop_le`), so a batch takes
as many time limits as it has rounds (`Yields.elapsed_le`).

The induction is on the schedule. When the rounds before that of the last task are over, what is
unfinished before it is the rest of its own round (`unfinished_le_of_take`), which leaves a slot;
and a greedy schedule begins a task no later than at any instant with a free slot.
-/

namespace Fleet.Dispatch

variable {α : Type} {slots limit : Nat} {ls : List (Option Nat)} {ss : List Span}

/-- A task that has ended is not unfinished. -/
lemma Span.not_unfinishedAt {s : Span} {c t : Nat} (stop : s.stop = some c) (le : c ≤ t) :
    ¬ s.unfinishedAt t := by
  unfold unfinishedAt
  rw [stop]
  exact fun later => Nat.not_lt_of_le le (of_decide_eq_true later)

/-- Once the first tasks have ended, no more are unfinished than come after them. -/
lemma unfinished_le_of_take {k t : Nat} (gone : ∀ s ∈ ss.take k, ∃ c, s.stop = some c ∧ c ≤ t) :
    unfinished ss t ≤ ss.length - k := by
  have first : unfinished (ss.take k) t = 0 := by
    refine List.countP_eq_zero.2 fun s mem => ?_
    obtain ⟨c, stop, le⟩ := gone s mem
    exact Span.not_unfinishedAt stop le
  calc unfinished ss t = unfinished (ss.take k ++ ss.drop k) t := by rw [List.take_append_drop]
    _ = unfinished (ss.take k) t + unfinished (ss.drop k) t := List.countP_append
    _ ≤ (ss.drop k).length := by
      rw [first, Nat.zero_add]
      exact List.countP_le_length
    _ = ss.length - k := List.length_drop

/-- A task ends within one time limit for its round and one for each round before. -/
lemma Greedy.stop_le (g : Greedy slots ls ss) (pos : 0 < slots)
    (short : ∀ l ∈ ls, ∃ n, l = some n ∧ n ≤ limit) {i : Nat} {x : Span} (at_i : ss[i]? = some x) :
    ∃ c, x.stop = some c ∧ c ≤ (i / slots + 1) * limit := by
  induction g generalizing i x with
  | nil => cases at_i
  | @snoc ls ss l s g least ih =>
    have before {j : Nat} {y : Span} := @ih (fun l mem => short l (List.mem_append_left _ mem)) j y
    by_cases inside : i < ss.length
    · rw [List.getElem?_append_left inside] at at_i
      exact before at_i
    · obtain rfl : i = ss.length := by
        have within := (List.getElem?_eq_some_iff.1 at_i).1
        rw [List.length_append, List.length_singleton] at within
        omega
      rw [List.getElem?_concat_length] at at_i
      cases at_i
      -- all rounds before the last task's are over, and its own has a slot left
      have gone : ∀ y ∈ ss.take (slots * (ss.length / slots)),
          ∃ c, y.stop = some c ∧ c ≤ ss.length / slots * limit := by
        intro y mem
        obtain ⟨j, at_j⟩ := List.getElem?_of_mem mem
        obtain ⟨within, -⟩ := List.getElem?_eq_some_iff.1 at_j
        rw [List.length_take] at within
        have early : j < slots * (ss.length / slots) := by omega
        rw [List.getElem?_take_of_lt early] at at_j
        obtain ⟨c, stop, le⟩ := before at_j
        exact ⟨c, stop, le.trans (Nat.mul_le_mul_right limit (Nat.div_lt_of_lt_mul early))⟩
      have free : unfinished ss (ss.length / slots * limit) < slots := by
        have few := unfinished_le_of_take gone
        have split := Nat.div_add_mod ss.length slots
        have less := Nat.mod_lt ss.length pos
        omega
      have start : s ≤ ss.length / slots * limit := least.2 free
      obtain ⟨n, rfl, le⟩ := short l (List.mem_append_right _ (List.mem_singleton_self l))
      refine ⟨s + n, rfl, ?_⟩
      rw [Nat.succ_mul]
      omega

/-- No task comes in a later round than the tasks fill. -/
lemma Limits.round_lt (limits : Limits) {i size : Nat} (inside : i < size) :
    i / limits.permits size < (size + limits.maxParallel - 1) / limits.maxParallel := by
  have pos := limits.maxParallel_pos
  unfold Limits.permits
  obtain many | few := Nat.le_total limits.maxParallel (max size 1)
  · rw [Nat.min_eq_left many]
    calc i / limits.maxParallel < i / limits.maxParallel + 1 := Nat.lt_succ_self _
      _ = (i + limits.maxParallel) / limits.maxParallel := (Nat.add_div_right i pos).symm
      _ ≤ (size + limits.maxParallel - 1) / limits.maxParallel := Nat.div_le_div_right (by omega)
  · rw [Nat.min_eq_right few, Nat.div_eq_of_lt (by omega)]
    exact Nat.div_pos (by omega) pos

/-- A batch with a time limit takes at most one time limit for every round of its tasks. -/
lemma Yields.elapsed_le {limits : Limits} {tasks : List (Task α)} {b : Batch α}
    (yields : Yields limits tasks b) (limited : limits.timeout = some limit) :
    ∃ e, b.elapsed = some e ∧
      e ≤ (tasks.length + limits.maxParallel - 1) / limits.maxParallel * limit := by
  obtain ⟨p, inv, nobody, empty, rfl⟩ := yields.final (.inl (by rw [limited]; rfl))
  refine ⟨p.now, rfl, ?_⟩
  obtain ⟨-, ⟨-, start⟩ | ⟨x, mem, stop⟩⟩ := inv.returns nobody empty
  · rw [start]
    exact Nat.zero_le _
  · have short : ∀ l ∈ p.log.map (·.length limits.timeout), ∃ n, l = some n ∧ n ≤ limit := by
      intro l mem
      obtain ⟨h, -, rfl⟩ := List.mem_map.1 mem
      unfold Job.length holdTime
      rw [limited]
      cases h.task.delay with
      | none => exact ⟨limit, rfl, Nat.le_refl _⟩
      | some d => exact ⟨min limit d, rfl, Nat.min_le_left _ _⟩
    obtain ⟨i, at_i⟩ := List.getElem?_of_mem mem
    obtain ⟨c, stop', le⟩ := inv.greedy.stop_le (limits.permits_pos _) short at_i
    obtain rfl : c = p.now := Option.some.inj (stop'.symm.trans stop)
    have inside : i < tasks.length := by
      have within := (List.getElem?_eq_some_iff.1 at_i).1
      rwa [spansOf, List.length_map, inv.length_log empty] at within
    exact le.trans (Nat.mul_le_mul_right limit (limits.round_lt inside))

end Fleet.Dispatch
