import Fleet.Dispatch.Run
import Mathlib.Logic.Relation
import Mathlib.Order.Bounds.Basic

/-!
# Steps of a pool

The steps that a pool may make, whichever of several things at one instant comes first. A pool that
runs makes such steps until none is left (`Pool.drain_steps`, `Pool.drain_stuck`), and no order of
them goes on for ever (`Step.remaining_lt`).

`Step` has three rules: the first in line is admitted while a permit is free, any holder that is
over is settled, and the clock of an idle pool goes to its next timer. The pool of the dispatcher
takes the rules in one order (`step?_step`), and where it takes none there is none to take
(`not_step_of_step?_eq_none`); so what is proved of any steps holds of it too.

The measure `remaining` weighs a job in line more than a holder, and takes one off once the end of
some holder has come, since the clock need not go on for it any more. Each step lowers it, so steps
are well-founded (`step_wellFounded`), and the fuel with which the dispatcher runs its pool is
enough.
-/

namespace Fleet.Dispatch

variable {α : Type}

/-- Nothing is left to do at the instant of the clock. -/
structure Pool.Idle (timeout : Option Nat) (p : Pool α) : Prop where
  line : p.permits = 0 ∨ p.line = []
  holders : ∀ h ∈ p.holders, h.poll? timeout p.now = none

/-- One step: the first in line is admitted, any job that is over is settled, or the clock of an
idle pool goes to its next timer. -/
inductive Step (timeout : Option Nat) : Pool α → Pool α → Prop where
  | enter {now n j line holders ended log} :
    Step timeout ⟨now, n + 1, j :: line, holders, ended, log⟩
      ⟨now, n, line, holders ++ [⟨j, now⟩], ended, log ++ [⟨j, now⟩]⟩
  | settle {now n line l h r ended log joined} :
    h.poll? timeout now = some joined →
    Step timeout ⟨now, n, line, l ++ h :: r, ended, log⟩
      ⟨now, n + 1, line, l ++ r, ended ++ [⟨h, now, joined⟩], log⟩
  | wake {p t} :
    p.Idle timeout →
    IsLeast {u | ∃ h ∈ p.holders, u ∈ h.timers timeout} t →
    Step timeout p { p with now := t }

/-- Any number of steps. -/
abbrev Steps (timeout : Option Nat) : Pool α → Pool α → Prop := Relation.ReflTransGen (Step timeout)

/-- Something is over when its length has passed, if it has one. -/
lemma isOver_iff {since now : Nat} {length : Option Nat} :
    isOver since length now ↔ ∃ l, length = some l ∧ since + l ≤ now := by
  cases length with
  | none => simp [isOver]
  | some l => simp [isOver]

/-- A job is over once its delay or its time limit is. -/
lemma Holder.poll?_isSome_iff {timeout : Option Nat} {now : Nat} {h : Holder α} :
    (h.poll? timeout now).isSome ↔
      isOver h.since h.task.delay now ∨ isOver h.since timeout now := by
  unfold Holder.poll?
  split
  · rename_i gone
    exact ⟨fun _ => .inl gone, fun _ => rfl⟩
  · rename_i pending
    split
    · rename_i gone
      exact ⟨fun _ => .inr gone, fun _ => rfl⟩
    · rename_i unlimited
      exact ⟨nofun, fun e => (e.elim pending unlimited).elim⟩

/-- A job is over once one of its timers went off. -/
lemma Holder.poll?_isSome_iff_timers {timeout : Option Nat} {now : Nat} {h : Holder α} :
    (h.poll? timeout now).isSome ↔ ∃ t ∈ h.timers timeout, t ≤ now := by
  rw [Holder.poll?_isSome_iff, isOver_iff, isOver_iff]
  constructor
  · rintro (⟨d, e, le⟩ | ⟨d, e, le⟩)
    · exact ⟨h.since + d, by simp [Holder.timers, e], le⟩
    · exact ⟨h.since + d, by simp [Holder.timers, e], le⟩
  · rintro ⟨t, mem, le⟩
    simp only [Holder.timers, List.mem_map, List.mem_append, Option.mem_toList] at mem
    obtain ⟨d, e | e, rfl⟩ := mem
    · exact .inl ⟨d, e, le⟩
    · exact .inr ⟨d, e, le⟩

/-- What is taken over stood among the holders and is over. -/
lemma takeOver?_eq_some {timeout : Option Nat} {now : Nat} {hs rest : List (Holder α)} {e : Ended α}
    (taken : takeOver? timeout now hs = some (e, rest)) :
    ∃ l h r j, hs = l ++ h :: r ∧ rest = l ++ r ∧ h.poll? timeout now = some j ∧
      e = ⟨h, now, j⟩ := by
  induction hs generalizing rest with
  | nil => cases taken
  | cons h hs ih =>
    unfold takeOver? at taken
    cases polled : h.poll? timeout now with
    | some j =>
      rw [polled] at taken
      cases taken
      exact ⟨[], h, hs, j, rfl, rfl, polled, rfl⟩
    | none =>
      rw [polled] at taken
      obtain ⟨⟨e', rest'⟩, inner, same⟩ := Option.map_eq_some_iff.1 taken
      cases same
      obtain ⟨l, h', r, j, rfl, rfl, polled', rfl⟩ := ih inner
      exact ⟨h :: l, h', r, j, rfl, rfl, polled', rfl⟩

/-- When nothing is taken over, no holder is over. -/
lemma takeOver?_eq_none {timeout : Option Nat} {now : Nat} {hs : List (Holder α)}
    (none : takeOver? timeout now hs = none) : ∀ h ∈ hs, h.poll? timeout now = .none := by
  induction hs with
  | nil => exact nofun
  | cons h hs ih =>
    unfold takeOver? at none
    cases polled : h.poll? timeout now with
    | some j => rw [polled] at none; cases none
    | none =>
      rw [polled] at none
      intro h' mem
      cases mem with
      | head => exact polled
      | tail _ mem => exact ih (Option.map_eq_none_iff.1 none) h' mem

namespace Pool

/-- When nobody is admitted, there is no permit or no line. -/
lemma enter?_eq_none {p : Pool α} (none : p.enter? = none) : p.permits = 0 ∨ p.line = [] := by
  obtain ⟨now, _ | n, _ | ⟨j, line⟩, holders, ended, log⟩ := p
  · exact .inl rfl
  · exact .inl rfl
  · exact .inr rfl
  · cases none

/-- Admitting the first in line is a step. -/
lemma enter?_step {timeout : Option Nat} {p q : Pool α} (e : p.enter? = some q) :
    Step timeout p q := by
  obtain ⟨now, _ | n, _ | ⟨j, line⟩, holders, ended, log⟩ := p
  · cases e
  · cases e
  · cases e
  · cases e
    exact .enter

/-- Settling a job that is over is a step. -/
lemma settle?_step {timeout : Option Nat} {p q : Pool α} (e : p.settle? timeout = some q) :
    Step timeout p q := by
  obtain ⟨now, n, line, holders, ended, log⟩ := p
  obtain ⟨⟨e', rest⟩, taken, rfl⟩ := Option.map_eq_some_iff.1 e
  obtain ⟨l, h, r, j, rfl, rfl, polled, rfl⟩ := takeOver?_eq_some taken
  exact .settle polled

/-- What a running pool does next is a step. -/
lemma step?_step {timeout : Option Nat} {p q : Pool α} (e : p.step? timeout = some q) :
    Step timeout p q := by
  unfold step? at e
  cases admitted : p.enter? with
  | some q' =>
    rw [admitted] at e
    cases e
    exact enter?_step admitted
  | none =>
    rw [admitted] at e
    cases settled : p.settle? timeout with
    | some q' =>
      rw [settled] at e
      cases e
      exact settle?_step settled
    | none =>
      rw [settled] at e
      obtain ⟨t, least, rfl⟩ := Option.map_eq_some_iff.1 e
      refine .wake ⟨enter?_eq_none admitted, takeOver?_eq_none (Option.map_eq_none_iff.1 settled)⟩
        ?_
      obtain ⟨mem, le⟩ := List.min?_eq_some_iff.1 least
      exact ⟨List.mem_flatMap.1 mem, fun u ⟨h, held, timer⟩ =>
        le u (List.mem_flatMap.2 ⟨h, held, timer⟩)⟩

/-- A pool that does nothing has no timer left. -/
lemma timers_of_step?_eq_none {timeout : Option Nat} {p : Pool α} (e : p.step? timeout = none) :
    p.Idle timeout ∧ ∀ h ∈ p.holders, h.timers timeout = [] := by
  obtain ⟨notAdmitted, rest⟩ := (Option.orElse_eq_none ..).1 e
  obtain ⟨notSettled, notWoken⟩ := (Option.orElse_eq_none ..).1 rest
  refine ⟨⟨enter?_eq_none notAdmitted, takeOver?_eq_none (Option.map_eq_none_iff.1 notSettled)⟩, ?_⟩
  have empty := List.min?_eq_none_iff.1 (Option.map_eq_none_iff.1 notWoken)
  exact List.flatMap_eq_nil_iff.1 empty

/-- A pool that does nothing has no step left. -/
lemma not_step_of_step?_eq_none {timeout : Option Nat} {p q : Pool α} (e : p.step? timeout = none) :
    ¬ Step timeout p q := by
  obtain ⟨idle, silent⟩ := timers_of_step?_eq_none e
  intro step
  cases step with
  | enter => exact idle.line.elim nofun nofun
  | @settle now n line l h r ended log joined polled =>
    have pending := idle.holders h (List.mem_append_right l (List.mem_cons_self ..))
    rw [polled] at pending
    cases pending
  | wake _ least =>
    obtain ⟨h, mem, timer⟩ := least.1
    rw [silent h mem] at timer
    cases timer

/-- Steps that are left at most: one less when a job is over already. -/
def remaining (timeout : Option Nat) (p : Pool α) : Nat :=
  p.stepLimit - if ∃ h ∈ p.holders, (h.poll? timeout p.now).isSome then 1 else 0

end Pool

/-- Every step leaves fewer steps. -/
lemma Step.remaining_lt {timeout : Option Nat} {p q : Pool α} (step : Step timeout p q) :
    q.remaining timeout < p.remaining timeout := by
  unfold Pool.remaining Pool.stepLimit
  cases step with
  | @enter now n j line holders ended log =>
    simp only [List.length_cons, List.length_append, List.length_nil]
    by_cases due : ∃ h ∈ holders, (h.poll? timeout now).isSome
    · obtain ⟨h, mem, gone⟩ := due
      have dueLater : ∃ h ∈ holders ++ [⟨j, now⟩], (h.poll? timeout now).isSome :=
        ⟨h, List.mem_append_left _ mem, gone⟩
      rw [if_pos dueLater, if_pos ⟨h, mem, gone⟩]
      have held := List.length_pos_of_mem mem
      omega
    · rw [if_neg due]
      omega
  | @settle now n line l h r ended log joined polled =>
    have due : ∃ g ∈ l ++ h :: r, (g.poll? timeout now).isSome :=
      ⟨h, List.mem_append_right l (List.mem_cons_self ..), by rw [polled]; rfl⟩
    rw [if_pos due]
    simp only [List.length_cons, List.length_append]
    omega
  | @wake p t idle least =>
    obtain ⟨⟨h, mem, timer⟩, -⟩ := least
    have notDue : ¬ ∃ h ∈ p.holders, (h.poll? timeout p.now).isSome := by
      rintro ⟨g, mem, gone⟩
      rw [idle.holders g mem] at gone
      cases gone
    have due : ∃ h ∈ p.holders, (h.poll? timeout t).isSome :=
      ⟨h, mem, Holder.poll?_isSome_iff_timers.2 ⟨t, timer, Nat.le_refl t⟩⟩
    rw [if_pos due, if_neg notDue]
    have held := List.length_pos_of_mem mem
    show 3 * p.line.length + 2 * p.holders.length - 1 < 3 * p.line.length + 2 * p.holders.length - 0
    omega

/-- No order of steps goes on for ever. -/
lemma step_wellFounded (timeout : Option Nat) : WellFounded fun q p : Pool α => Step timeout p q :=
  Subrelation.wf (fun step => step.remaining_lt) (measure (Pool.remaining timeout)).wf

namespace Pool

/-- Running makes steps. -/
lemma after_steps {timeout : Option Nat} (n : Nat) (p : Pool α) :
    Steps timeout p (p.after timeout n) := by
  induction n generalizing p with
  | zero => exact .refl
  | succ n ih =>
    unfold after
    cases next : p.step? timeout with
    | none => exact .refl
    | some q => exact (ih q).head (step?_step next)

/-- As many steps as are left at most are enough. -/
lemma after_stuck {timeout : Option Nat} {n : Nat} {p : Pool α} (enough : p.remaining timeout ≤ n) :
    (p.after timeout n).step? timeout = none := by
  induction n generalizing p with
  | zero =>
    cases next : p.step? timeout with
    | none => exact next
    | some q =>
      have fewer := (step?_step next).remaining_lt
      omega
  | succ n ih =>
    unfold after
    cases next : p.step? timeout with
    | none => exact next
    | some q =>
      have fewer := (step?_step next).remaining_lt
      exact ih (by omega)

/-- A pool runs by steps. -/
lemma drain_steps (timeout : Option Nat) (p : Pool α) : Steps timeout p (p.drain timeout) :=
  after_steps _ p

/-- A pool runs until nothing happens any more. -/
lemma drain_stuck (timeout : Option Nat) (p : Pool α) : (p.drain timeout).step? timeout = none :=
  after_stuck (Nat.sub_le _ _)

end Pool

end Fleet.Dispatch
