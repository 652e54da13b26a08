import Fleet.Dispatch.Schedule
import Mathlib.Order.Bounds.Basic

/-!
# Greedy schedules

A schedule is greedy if every task begins at the earliest instant at which fewer tasks before it are
unfinished than there are slots. Such a schedule never holds more slots than there are
(`Greedy.running_le`), begins its tasks in order (`Greedy.pairwise_start`), and leaves no slot idle
while a task waits (`Greedy.le_running`).

Nothing here speaks of pools or permits. A task that has not begun yet counts as unfinished, so the
count of unfinished tasks only falls with time (`unfinished_anti`), and the earliest instant at
which it is below a bound exists as soon as there is one. The order of the starts follows from the
earliest instants, since more tasks before a task leave no fewer of them unfinished.
-/

namespace Fleet.Dispatch

/-- The task has not given its slot back at `t`, and may not have begun. -/
def Span.unfinishedAt (s : Span) (t : Nat) : Bool :=
  match s.stop with
  | none => true
  | some b => decide (t < b)

/-- Number of tasks that have not given their slot back at `t`. -/
def unfinished (ss : List Span) (t : Nat) : Nat := ss.countP (·.unfinishedAt t)

/-- Number of tasks that hold a slot at `t`. -/
def running (ss : List Span) (t : Nat) : Nat := ss.countP (·.holdsAt t)

/-- Schedules of tasks with the given lengths, each begun as early as the tasks before it allow. -/
inductive Greedy (slots : Nat) : List (Option Nat) → List Span → Prop where
  | nil : Greedy slots [] []
  | snoc {ls ss l s} :
    Greedy slots ls ss →
    IsLeast {t | unfinished ss t < slots} s →
    Greedy slots (ls ++ [l]) (ss ++ [⟨some s, l.map (s + ·)⟩])

/-- A task that is unfinished stays so backwards in time. -/
lemma Span.unfinishedAt_of_le {s : Span} {t u : Nat} (le : t ≤ u) (later : s.unfinishedAt u) :
    s.unfinishedAt t := by
  obtain ⟨a, _ | b⟩ := s
  · rfl
  · simp only [unfinishedAt, decide_eq_true_eq] at later ⊢
    omega

/-- A task that holds its slot is unfinished. -/
lemma Span.unfinishedAt_of_holdsAt {s : Span} {t : Nat} (holds : s.holdsAt t) :
    s.unfinishedAt t := by
  obtain ⟨_ | a, _ | b⟩ := s
  · rfl
  · cases holds
  · rfl
  · simp only [holdsAt, decide_eq_true_eq] at holds
    simp only [unfinishedAt, decide_eq_true_eq]
    exact holds.2

/-- A task that has begun and is unfinished holds a slot. -/
lemma Span.holdsAt_of_unfinishedAt {s : Span} {a t : Nat} (start : s.start = some a) (le : a ≤ t)
    (pending : s.unfinishedAt t) : s.holdsAt t := by
  obtain ⟨_ | a', _ | b⟩ := s
  · cases start
  · cases start
  · cases start
    exact decide_eq_true le
  · cases start
    simp only [unfinishedAt, decide_eq_true_eq] at pending
    exact decide_eq_true ⟨le, pending⟩

/-- A task does not hold a slot before it begins. -/
lemma Span.start_le_of_holdsAt {s : Span} {a t : Nat} (start : s.start = some a)
    (holds : s.holdsAt t) : a ≤ t := by
  obtain ⟨_ | a', _ | b⟩ := s
  · cases start
  · cases start
  · cases start
    exact of_decide_eq_true holds
  · cases start
    exact (of_decide_eq_true holds).1

/-- Tasks only finish as time goes by. -/
lemma unfinished_anti {ss : List Span} {t u : Nat} (le : t ≤ u) :
    unfinished ss u ≤ unfinished ss t :=
  List.countP_mono_left fun _ _ later => Span.unfinishedAt_of_le le later

/-- Tasks that run are unfinished. -/
lemma running_le_unfinished {ss : List Span} {t : Nat} : running ss t ≤ unfinished ss t :=
  List.countP_mono_left fun _ _ holds => Span.unfinishedAt_of_holdsAt holds

/-- More tasks leave no fewer unfinished. -/
lemma unfinished_le_append {ss rs : List Span} {t : Nat} :
    unfinished ss t ≤ unfinished (ss ++ rs) t := by
  unfold unfinished
  rw [List.countP_append]
  exact Nat.le_add_right _ _

/-- Of more tasks no fewer run. -/
lemma running_le_append {ss rs : List Span} {t : Nat} : running ss t ≤ running (ss ++ rs) t := by
  unfold running
  rw [List.countP_append]
  exact Nat.le_add_right _ _

namespace Greedy

variable {slots : Nat} {ls : List (Option Nat)} {ss : List Span}

/-- A greedy schedule has a span for every task. -/
lemma length_eq (g : Greedy slots ls ss) : ss.length = ls.length := by
  induction g with
  | nil => rfl
  | snoc _ _ ih => rw [List.length_append, List.length_append, ih]; rfl

/-- Every task begins at the earliest instant that the tasks before it allow, and ends its length
later. -/
lemma getElem? (g : Greedy slots ls ss) {i : Nat} {l : Option Nat} (at_i : ls[i]? = some l) :
    ∃ s, ss[i]? = some ⟨some s, l.map (s + ·)⟩ ∧
      IsLeast {t | unfinished (ss.take i) t < slots} s := by
  induction g with
  | nil => cases at_i
  | @snoc ls ss l' s g least ih =>
    have same := g.length_eq
    by_cases before : i < ls.length
    · rw [List.getElem?_append_left before] at at_i
      obtain ⟨s', at_ss, least'⟩ := ih at_i
      refine ⟨s', ?_, ?_⟩
      · rw [List.getElem?_append_left (by omega)]
        exact at_ss
      · rw [List.take_append_of_le_length (by omega)]
        exact least'
    · rw [List.getElem?_append_right (by omega)] at at_i
      obtain ⟨last, -⟩ := List.getElem?_eq_some_iff.1 at_i
      obtain rfl : i = ss.length := by
        rw [List.length_singleton] at last
        omega
      rw [show ss.length - ls.length = 0 by omega] at at_i
      cases at_i
      refine ⟨s, List.getElem?_concat_length, ?_⟩
      rw [List.take_left]
      exact least

/-- Where a slot is free for one more task, all tasks have begun. -/
lemma start_le (g : Greedy slots ls ss) {t : Nat} (free : unfinished ss t < slots) :
    ∀ x ∈ ss, ∃ a, x.start = some a ∧ a ≤ t := by
  induction g with
  | nil => exact nofun
  | @snoc ls ss l s g least ih =>
    have freeBefore : unfinished ss t < slots := Nat.lt_of_le_of_lt unfinished_le_append free
    intro x mem
    obtain mem | mem := List.mem_append.1 mem
    · exact ih freeBefore x mem
    · obtain rfl := List.mem_singleton.1 mem
      exact ⟨s, rfl, least.2 freeBefore⟩

/-- Tasks begin in order. -/
lemma pairwise_start (g : Greedy slots ls ss) :
    ss.Pairwise fun x y => ∃ a b, x.start = some a ∧ y.start = some b ∧ a ≤ b := by
  induction g with
  | nil => exact .nil
  | @snoc ls ss l s g least ih =>
    refine List.pairwise_append.2 ⟨ih, List.pairwise_singleton _ _, ?_⟩
    intro x mem y last
    obtain rfl := List.mem_singleton.1 last
    obtain ⟨a, start, le⟩ := g.start_le least.1 x mem
    exact ⟨a, s, start, rfl, le⟩

/-- No more slots are held than there are. -/
lemma running_le (g : Greedy slots ls ss) (t : Nat) : running ss t ≤ slots := by
  induction g with
  | nil => exact Nat.zero_le _
  | @snoc ls ss l s g least ih =>
    have count : running (ss ++ [⟨some s, l.map (s + ·)⟩]) t =
        running ss t + running [⟨some s, l.map (s + ·)⟩] t := List.countP_append
    by_cases holds : (⟨some s, l.map (s + ·)⟩ : Span).holdsAt t
    · have le : s ≤ t := Span.start_le_of_holdsAt rfl holds
      have one : running [⟨some s, l.map (s + ·)⟩] t = 1 :=
        List.countP_singleton.trans (if_pos holds)
      have before : running ss t < slots :=
        calc running ss t ≤ unfinished ss t := running_le_unfinished
          _ ≤ unfinished ss s := unfinished_anti le
          _ < slots := least.1
      omega
    · have none : running [⟨some s, l.map (s + ·)⟩] t = 0 :=
        List.countP_singleton.trans (if_neg holds)
      omega

/-- While a task waits, every slot is held. -/
lemma le_running (g : Greedy slots ls ss) {t a : Nat} {x : Span} (mem : x ∈ ss)
    (start : x.start = some a) (waits : t < a) : slots ≤ running ss t := by
  induction g generalizing x a with
  | nil => cases mem
  | @snoc ls ss l s g least ih =>
    by_cases late : ∃ y ∈ ss, ∃ b, y.start = some b ∧ t < b
    · obtain ⟨y, member, b, begun, waiting⟩ := late
      exact (ih member begun waiting).trans running_le_append
    · -- all tasks before the last one have begun, so it is the last one that waits
      have begun : ∀ y ∈ ss, y.unfinishedAt t → y.holdsAt t := by
        intro y member pending
        obtain ⟨b, begins, -⟩ := g.start_le least.1 y member
        refine Span.holdsAt_of_unfinishedAt begins ?_ pending
        by_contra later
        exact late ⟨y, member, b, begins, Nat.lt_of_not_le later⟩
      have last : t < s := by
        obtain mem | mem := List.mem_append.1 mem
        · exact absurd ⟨x, mem, a, start, waits⟩ late
        · obtain rfl := List.mem_singleton.1 mem
          cases start
          exact waits
      have full : slots ≤ unfinished ss t := by
        by_contra free
        have early : s ≤ t := least.2 (Nat.lt_of_not_le free)
        omega
      calc slots ≤ unfinished ss t := full
        _ ≤ running ss t := List.countP_mono_left begun
        _ ≤ running (ss ++ [_]) t := running_le_append

end Greedy

end Fleet.Dispatch
