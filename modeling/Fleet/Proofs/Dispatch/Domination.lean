import Fleet.Proofs.Dispatch.Batch

/-!
# More slots and shorter tasks

A greedy schedule with more slots, or of tasks that are no longer, begins and ends every task no
later (`Greedy.mono`): the tasks before it are all over no later, so fewer of them are unfinished at
any instant. A batch is such a schedule (`Yields.greedy`), so neither more slots nor a shorter task
delays anything (`noLater_of_yields`).

Schedules are compared span by span (`Span.NoLater`) and lengths task by task (`AtMost`). The
induction of `Greedy.mono` is on the schedule, from the back: the last task begins when few enough
of the others are unfinished, and by the induction hypothesis no more of them are unfinished in the
schedule that is to be no later (`unfinished_le_of_noLater`). Tasks that never end are kept out by
asking that all end: one that is cut off by the time limit has an end too.
-/

namespace Fleet.Dispatch

variable {α : Type} {slots slots' : Nat} {ls ls' : List (Option Nat)} {xs ys : List Span}
  {limits limits' : Limits} {tasks tasks' : List (Task α)} {b b' : Batch α}

/-- Both are finite, and the first is at most the second. -/
def AtMost (x y : Option Nat) : Prop := ∃ m n, x = some m ∧ y = some n ∧ m ≤ n

/-- Both tasks begin and end, the first no later than the second. -/
structure Span.NoLater (x y : Span) : Prop where
  start : AtMost x.start y.start
  stop : AtMost x.stop y.stop

/-- Every task of the first batch begins and ends no later than that of the second at its place, and
the first batch is over no later. -/
structure Batch.NoLater (b b' : Batch α) : Prop where
  spans : List.Forall₂ Span.NoLater b.spans b'.spans
  elapsed : AtMost b.elapsed b'.elapsed

/-! ### Greedy schedules -/

/-- What ends no later is unfinished no longer. -/
lemma Span.NoLater.unfinishedAt {x y : Span} {t : Nat} (le : x.NoLater y)
    (pending : x.unfinishedAt t) : y.unfinishedAt t := by
  obtain ⟨m, n, stop, stop', within⟩ := le.stop
  unfold Span.unfinishedAt at pending ⊢
  rw [stop] at pending
  rw [stop']
  exact decide_eq_true ((of_decide_eq_true pending).trans_le within)

/-- Of tasks that end no later, no more are unfinished. -/
lemma unfinished_le_of_noLater (le : List.Forall₂ Span.NoLater xs ys) (t : Nat) :
    unfinished xs t ≤ unfinished ys t := by
  unfold unfinished
  induction le with
  | nil => exact Nat.le_refl 0
  | @cons x y xs ys le _ ih =>
    rw [List.countP_cons, List.countP_cons]
    refine Nat.add_le_add ih ?_
    by_cases pending : x.unfinishedAt t
    · rw [if_pos pending, if_pos (le.unfinishedAt pending)]
    · rw [if_neg pending]
      exact Nat.zero_le _

/-- The last pair of two lists that correspond. -/
lemma exists_concat_of_forall₂ {β γ : Type} {R : β → γ → Prop} {as : List β} {bs : List γ} {b : γ}
    (rel : List.Forall₂ R as (bs ++ [b])) :
    ∃ as' a, as = as' ++ [a] ∧ List.Forall₂ R as' bs ∧ R a b := by
  have first := List.forall₂_take_append as bs [b] rel
  have last := List.forall₂_drop_append as bs [b] rel
  obtain ⟨a, rest, related, none, drop⟩ := List.forall₂_cons_right_iff.1 last
  rw [List.forall₂_nil_right_iff.1 none] at drop
  refine ⟨as.take bs.length, a, ?_, first, related⟩
  rw [← drop, List.take_append_drop]

namespace Greedy

/-- The last task of a schedule begins as early as those before it allow. -/
lemma exists_concat {l : Option Nat} (g : Greedy slots (ls ++ [l]) xs) :
    ∃ ys s, xs = ys ++ [⟨some s, l.map (s + ·)⟩] ∧ Greedy slots ls ys ∧
      IsLeast {t | unfinished ys t < slots} s := by
  generalize whole : ls ++ [l] = ks at g
  cases g with
  | nil => exact absurd whole (List.append_ne_nil_of_right_ne_nil _ (List.cons_ne_nil _ _))
  | @snoc ls' ys l' s g least =>
    obtain ⟨rfl, last⟩ := List.append_inj' whole rfl
    cases last
    exact ⟨ys, s, rfl, g, least⟩

/-- With no fewer slots and tasks that are no longer, every task begins and ends no later. -/
lemma mono (g : Greedy slots ls xs) (g' : Greedy slots' ls' ys) (more : slots ≤ slots')
    (shorter : List.Forall₂ AtMost ls' ls) : List.Forall₂ Span.NoLater ys xs := by
  induction g generalizing ls' ys with
  | nil =>
    rw [List.forall₂_nil_right_iff] at shorter
    subst shorter
    rw [List.eq_nil_of_length_eq_zero g'.length_eq]
    exact .nil
  | @snoc ls xs l s g least ih =>
    obtain ⟨ls', l', rfl, before, m, n, rfl, rfl, le⟩ := exists_concat_of_forall₂ shorter
    obtain ⟨ys, s', rfl, g', least'⟩ := g'.exists_concat
    have earlier := ih g' before
    -- a slot that is free on the few slots is free on the many
    have start : s' ≤ s := by
      refine least'.2 ?_
      calc unfinished ys s ≤ unfinished xs s := unfinished_le_of_noLater earlier s
        _ < slots := least.1
        _ ≤ slots' := more
    refine List.rel_append earlier (.cons ⟨⟨s', s, rfl, rfl, start⟩, ?_⟩ .nil)
    exact ⟨s' + m, s + n, rfl, rfl, Nat.add_le_add start le⟩

end Greedy

/-! ### Batches -/

/-- A batch whose tasks all end is a greedy schedule of how long they hold their slots. -/
lemma Yields.greedy (yields : Yields limits tasks b) (ends : AllEnd limits.timeout tasks) :
    Greedy (limits.permits tasks.length) (tasks.map fun t => holdTime limits.timeout t.delay)
      b.spans := by
  obtain ⟨p, inv, -, empty, rfl⟩ := yields.final ends
  have lengths : p.log.map (·.length limits.timeout) =
      tasks.map fun t => holdTime limits.timeout t.delay := by
    calc p.log.map (·.length limits.timeout)
        = (p.log.map (·.toJob)).map (·.length limits.timeout) := by rw [List.map_map]; rfl
      _ = (tasks.mapIdx Job.mk).map (·.length limits.timeout) := by rw [inv.toJob_log empty]
      _ = tasks.map fun t => holdTime limits.timeout t.delay := by
        refine List.ext_getElem? fun i => ?_
        rw [List.getElem?_map, List.getElem?_map, List.getElem?_mapIdx, Option.map_map]
        rfl
  rw [← lengths]
  exact inv.greedy

/-- Tasks that end hold their slots no longer than they do. -/
lemma AllEnd.atMost_self {timeout : Option Nat} (ends : AllEnd timeout tasks) :
    List.Forall₂ (fun t' t => AtMost (holdTime timeout t'.delay) (holdTime timeout t.delay))
      tasks tasks := by
  refine List.forall₂_same.2 fun t mem => ?_
  obtain ⟨n, length⟩ := Option.isSome_iff_exists.1 (ends.isSome_length (i := 0) mem)
  exact ⟨n, n, length, length, Nat.le_refl n⟩

/-- A batch with no fewer slots and tasks that are no longer is no later in anything. -/
lemma noLater_of_yields (yields : Yields limits tasks b) (yields' : Yields limits' tasks' b')
    (ends : AllEnd limits.timeout tasks) (ends' : AllEnd limits'.timeout tasks')
    (more : limits.maxParallel ≤ limits'.maxParallel)
    (shorter : List.Forall₂
      (fun t' t => AtMost (holdTime limits'.timeout t'.delay) (holdTime limits.timeout t.delay))
      tasks' tasks) : b'.NoLater b := by
  have slots : limits.permits tasks.length ≤ limits'.permits tasks'.length := by
    rw [shorter.length_eq]
    unfold Limits.permits
    omega
  have spans := (yields.greedy ends).mono (yields'.greedy ends') slots
    (List.forall₂_map_left_iff.2 (List.forall₂_map_right_iff.2 shorter))
  refine ⟨spans, ?_⟩
  obtain ⟨e, elapsed, bounds, -⟩ := (yields.greedyFifo ends).returns
  obtain ⟨e', elapsed', -, last⟩ := (yields'.greedyFifo ends').returns
  refine ⟨e', e, elapsed', elapsed, ?_⟩
  obtain ⟨-, rfl⟩ | ⟨x, mem, stop⟩ := last
  · exact Nat.zero_le e
  · -- the last task to end was to end at this place of the other batch, too
    obtain ⟨i, inside, rfl⟩ := List.getElem_of_mem mem
    have inside' : i < b.spans.length := spans.length_eq ▸ inside
    obtain ⟨c', c, ended', ended, le⟩ := (spans.get inside inside').stop
    obtain ⟨d, ended'', within⟩ := bounds _ (List.getElem_mem inside')
    simp only [List.get_eq_getElem] at ended ended'
    rw [stop] at ended'
    rw [ended''] at ended
    cases ended'
    cases ended
    exact le.trans within

/-! ### One shorter task -/

variable {timeout : Option Nat} {i d : Nat} {t : Task α}

/-- A shorter delay is a shorter hold, whatever the time limit is. -/
lemma atMost_holdTime {delay : Option Nat} (short : ∀ n, delay = some n → d ≤ n)
    (ends : (holdTime timeout delay).isSome) :
    AtMost (holdTime timeout (some d)) (holdTime timeout delay) := by
  obtain _ | limit := timeout
  · obtain ⟨n, rfl⟩ := Option.isSome_iff_exists.1 ends
    exact ⟨d, n, rfl, rfl, short n rfl⟩
  · obtain _ | n := delay
    · exact ⟨min limit d, limit, rfl, rfl, Nat.min_le_left limit d⟩
    · have le := short n rfl
      exact ⟨min limit d, min limit n, rfl, rfl, by omega⟩

/-- Tasks that all end still do when one of them gets a length. -/
lemma AllEnd.set (ends : AllEnd timeout tasks) :
    AllEnd timeout (tasks.set i { t with delay := some d }) := by
  refine ends.imp id fun delays t' mem => ?_
  obtain old | rfl := List.mem_or_eq_of_mem_set mem
  · exact delays t' old
  · rfl

/-- Tasks of which one is shorter hold their slots no longer. -/
lemma AllEnd.atMost_set (ends : AllEnd timeout tasks) (at_i : tasks[i]? = some t)
    (short : ∀ n, t.delay = some n → d ≤ n) :
    List.Forall₂ (fun t' t => AtMost (holdTime timeout t'.delay) (holdTime timeout t.delay))
      (tasks.set i { t with delay := some d }) tasks := by
  refine List.forall₂_of_length_eq_of_get List.length_set fun j inside inside' => ?_
  have length := ends.isSome_length (i := 0) (List.getElem_mem inside')
  rw [List.get_eq_getElem, List.get_eq_getElem, List.getElem_set]
  split
  · rename_i same
    subst same
    obtain ⟨_, here⟩ := List.getElem?_eq_some_iff.1 at_i
    rw [here] at length ⊢
    exact atMost_holdTime short length
  · obtain ⟨n, finite⟩ := Option.isSome_iff_exists.1 length
    exact ⟨n, n, finite, finite, Nat.le_refl n⟩

/-- More slots never hurt, and neither does a shorter task: every task of a batch has its span,
begins and ends no later, and the batch is over no later. -/
theorem more_never_later (timeout : Option Nat) (tasks : List (Task α))
    (ends : AllEnd timeout tasks) :
    (∀ m, Yields (.new m timeout) tasks (run (.new m timeout) tasks)) ∧
    (∀ m₁ m₂, 1 ≤ m₁ → m₁ ≤ m₂ → ∀ b₁ b₂ : Batch α, Yields (.new m₁ timeout) tasks b₁ →
      Yields (.new m₂ timeout) tasks b₂ →
      b₁.spans.length = tasks.length ∧ b₂.spans.length = tasks.length ∧ b₂.NoLater b₁) ∧
    ∀ m i t d, tasks[i]? = some t → (∀ n, t.delay = some n → d ≤ n) → ∀ b b' : Batch α,
      Yields (.new m timeout) tasks b →
      Yields (.new m timeout) (tasks.set i { t with delay := some d }) b' →
      b.spans.length = tasks.length ∧ b'.spans.length = tasks.length ∧ b'.NoLater b := by
  refine ⟨fun m => run_yields _ _, ?_, ?_⟩
  · intro m₁ m₂ pos more b₁ b₂ yields₁ yields₂
    have bound : (Limits.new m₁ timeout).maxParallel ≤ (Limits.new m₂ timeout).maxParallel := by
      unfold Limits.new
      dsimp only
      rw [if_neg (by omega), if_neg (by omega)]
      exact more
    exact ⟨(yields₁.greedyFifo ends).size, (yields₂.greedyFifo ends).size,
      noLater_of_yields yields₁ yields₂ ends ends bound ends.atMost_self⟩
  · intro m i t d at_i short b b' yields yields'
    have size := (yields'.greedyFifo ends.set).size
    rw [List.length_set] at size
    exact ⟨(yields.greedyFifo ends).size, size,
      noLater_of_yields yields yields' ends ends.set (Nat.le_refl _) (ends.atMost_set at_i short)⟩

/-- A batch on one slot and on two, and with its endless task cut to five milliseconds. -/
theorem more_never_later_mixed :
    AllEnd (some 50) mixed ∧
    (run (.new 1 (some 50)) mixed).spans.length = 4 ∧
    (run (.new 2 (some 50)) mixed).NoLater (run (.new 1 (some 50)) mixed) ∧
    (run (.new 2 (some 50)) (⟨"a", some 5, .value 1⟩ :: mixed.tail)).NoLater
      (run (.new 2 (some 50)) mixed) := by
  obtain ⟨-, slots, shorter⟩ := more_never_later (some 50) mixed (.inl rfl)
  obtain ⟨size, -, more⟩ := slots 1 2 (by decide) (by decide) _ _ (run_yields _ _) (run_yields _ _)
  obtain ⟨-, -, cut⟩ := shorter 2 0 ⟨"a", none, .value 1⟩ 5 rfl nofun _ _ (run_yields _ _)
    (run_yields _ _)
  exact ⟨.inl rfl, size, more, cut⟩

end Fleet.Dispatch
