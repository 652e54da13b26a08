import Fleet.Proofs.Dispatch.Greedy
import Fleet.Proofs.Dispatch.Steps

/-!
# What the steps of a pool keep

A pool keeps a log of its admissions: the jobs that have or had a permit, in the order in which they
got it. The log and the line are together the jobs in input order, and the log is a greedy schedule
(`Inv.greedy`): while there is a line no permit was ever free (`Inv.busy`), so the first in line is
admitted at the earliest instant that the log allows (`Inv.isLeast_enter`).

The invariant `Inv` holds of a pool between its steps. It is kept by each of the three steps
(`inv_enter`, `inv_settle`, `inv_wake`) and so by any number of them in any order (`Steps.inv`).
What it says of a job that is over comes from `Holder.stop_span` and `Holder.outcome_poll?`: a job
that is settled as soon as it is over ends at the end of its length, with the outcome that its task
has alone.
-/

namespace Fleet.Dispatch

variable {α : Type} {timeout : Option Nat} {slots now : Nat} {jobs : List (Job α)} {p q : Pool α}

/-- How long a job holds its permit. -/
def Job.length (timeout : Option Nat) (j : Job α) : Option Nat := holdTime timeout j.task.delay

/-- When a job that got its permit has it. -/
def Holder.span (timeout : Option Nat) (h : Holder α) : Span :=
  ⟨some h.since, (h.length timeout).map (h.since + ·)⟩

/-- Spans of a log of admissions. -/
def spansOf (timeout : Option Nat) (log : List (Holder α)) : List Span := log.map (·.span timeout)

/-- Spans of a log are those of its parts. -/
lemma spansOf_append {log log' : List (Holder α)} :
    spansOf timeout (log ++ log') = spansOf timeout log ++ spansOf timeout log' := List.map_append

/-- What holds of a pool between its steps. -/
structure Inv (timeout : Option Nat) (slots : Nat) (jobs : List (Job α)) (p : Pool α) : Prop where
  /-- No permit is lost or doubled. -/
  permits : p.permits + p.holders.length = slots
  /-- Jobs are admitted in input order. -/
  order : p.log.map (·.toJob) ++ p.line = jobs
  /-- A job that was admitted holds its permit or gave it back, once. -/
  members : (p.holders ++ p.ended.map (·.toHolder)).Perm p.log
  /-- The log is a schedule that begins every job as early as it can. -/
  greedy : Greedy slots (p.log.map (·.length timeout)) (spansOf timeout p.log)
  /-- While there is a line, no permit was ever free. -/
  busy : p.line ≠ [] → ∀ t < p.now, slots ≤ unfinished (spansOf timeout p.log) t
  /-- No job is over for longer than an instant without giving its permit back. -/
  prompt : ∀ h ∈ p.holders, ∀ t < p.now, h.poll? timeout t = none
  /-- A job gives its permit back when its length is over, with the outcome of its task. -/
  settled : ∀ e ∈ p.ended, (e.span timeout).stop = some e.stop ∧ e.stop ≤ p.now ∧
    e.joined.outcome e.task.context = e.task.outcome timeout
  /-- The clock only moves for a job that is over. -/
  clock : p.now = 0 ∨ (∃ e ∈ p.ended, e.stop = p.now) ∨
    ∃ h ∈ p.holders, (h.poll? timeout p.now).isSome

/-- A length is over once the delay or the time limit is. -/
lemma isOver_holdTime {since : Nat} {delay : Option Nat} :
    isOver since (holdTime timeout delay) now ↔ isOver since delay now ∨
      isOver since timeout now := by
  obtain _ | t := timeout
  · simp [holdTime, isOver]
  · obtain _ | d := delay
    · simp [holdTime, isOver]
    · simp only [holdTime, isOver, decide_eq_true_eq]
      omega

/-- A job is unfinished as long as it is not over. -/
lemma Holder.unfinishedAt_span {h : Holder α} :
    (h.span timeout).unfinishedAt now ↔ h.poll? timeout now = none := by
  rw [← Option.not_isSome_iff_eq_none, Holder.poll?_isSome_iff, ← isOver_holdTime]
  unfold Holder.span Job.length Span.unfinishedAt isOver
  cases holdTime timeout h.task.delay with
  | none => simp
  | some l => simp

/-- A task is cut off by a time limit that is shorter than its delay. -/
lemma isCutOff_iff {delay : Option Nat} :
    isCutOff timeout delay ↔ ∃ t, timeout = some t ∧ ∀ d, delay = some d → t < d := by
  obtain _ | t := timeout
  · simp [isCutOff]
  · obtain _ | d := delay
    · simp [isCutOff]
    · simp [isCutOff]

/-- A task that ends by itself or is cut off, and is not cut off, ends within its time limit. -/
lemma delay_of_not_isCutOff {delay : Option Nat} (inTime : ¬ isCutOff timeout delay)
    (ends : timeout.isSome ∨ delay.isSome) :
    ∃ d, delay = some d ∧ ∀ t, timeout = some t → d ≤ t := by
  rw [isCutOff_iff] at inTime
  cases delay with
  | none =>
    obtain ⟨t, limit⟩ := Option.isSome_iff_exists.1 (ends.resolve_right nofun)
    exact absurd ⟨t, limit, nofun⟩ inTime
  | some d =>
    refine ⟨d, rfl, fun t limit => ?_⟩
    by_contra late
    refine inTime ⟨t, limit, ?_⟩
    rintro _ ⟨⟩
    exact Nat.lt_of_not_le late

/-- A job that is over at an instant, and at none before, ends then. -/
lemma Holder.stop_span {h : Holder α} (gone : (h.poll? timeout now).isSome)
    (prompt : ∀ t < now, h.poll? timeout t = none) : (h.span timeout).stop = some now := by
  obtain ⟨l, length, le⟩ := isOver_iff.1 (isOver_holdTime.2 (Holder.poll?_isSome_iff.1 gone))
  have ge : now ≤ h.since + l := by
    by_contra lt
    have pending := prompt (h.since + l) (Nat.lt_of_not_le lt)
    have gone : (h.poll? timeout (h.since + l)).isSome :=
      Holder.poll?_isSome_iff.2 (isOver_holdTime.1 (isOver_iff.2 ⟨l, length, Nat.le_refl _⟩))
    rw [pending] at gone
    cases gone
  show (holdTime timeout h.task.delay).map (h.since + ·) = some now
  rw [length, Option.map_some, Nat.le_antisymm le ge]

/-- A job that is over at an instant, and at none before, hands out the outcome of its task. -/
lemma Holder.outcome_poll? {h : Holder α} {j : Joined α} (gone : h.poll? timeout now = some j)
    (prompt : ∀ t < now, h.poll? timeout t = none) :
    j.outcome h.task.context = h.task.outcome timeout := by
  unfold Task.outcome
  unfold Holder.poll? at gone
  split at gone
  · -- the task ended by itself, so its time limit was not over any earlier
    rename_i ended
    cases gone
    obtain ⟨d, delay, le⟩ := isOver_iff.1 ended
    rw [if_neg]
    intro cut
    obtain ⟨t, limit, shorter⟩ := isCutOff_iff.1 cut
    have lt := shorter d delay
    have early : (h.poll? timeout (h.since + t)).isSome :=
      Holder.poll?_isSome_iff.2 (.inr (isOver_iff.2 ⟨t, limit, Nat.le_refl _⟩))
    rw [prompt _ (by omega)] at early
    cases early
  · rename_i pending
    split at gone
    · rename_i expired
      cases gone
      obtain ⟨t, limit, le⟩ := isOver_iff.1 expired
      rw [if_pos]
      · rfl
      · refine isCutOff_iff.2 ⟨t, limit, fun d delay => ?_⟩
        by_contra longer
        exact pending (isOver_iff.2 ⟨d, delay, by omega⟩)
    · cases gone

/-- A job is not over before the first timer. -/
lemma poll?_eq_none_of_lt {hs : List (Holder α)} {t u : Nat}
    (least : IsLeast {u | ∃ h ∈ hs, u ∈ h.timers timeout} t) (lt : u < t) {h : Holder α}
    (mem : h ∈ hs) : h.poll? timeout u = none := by
  rw [← Option.not_isSome_iff_eq_none, Holder.poll?_isSome_iff_timers]
  rintro ⟨v, timer, le⟩
  have first := least.2 ⟨h, mem, timer⟩
  omega

/-- The timers of an idle pool are ahead of its clock. -/
lemma Pool.Idle.le_timer {t : Nat} (idle : p.Idle timeout)
    (least : IsLeast {u | ∃ h ∈ p.holders, u ∈ h.timers timeout} t) : p.now ≤ t := by
  by_contra past
  obtain ⟨h, mem, timer⟩ := least.1
  have gone : (h.poll? timeout p.now).isSome :=
    Holder.poll?_isSome_iff_timers.2 ⟨t, timer, Nat.le_of_not_le past⟩
  rw [idle.holders h mem] at gone
  cases gone

/-- Every job that holds its permit is unfinished. -/
lemma unfinished_holders {hs : List (Holder α)} (pending : ∀ h ∈ hs, h.poll? timeout now = none) :
    unfinished (spansOf timeout hs) now = hs.length := by
  unfold unfinished spansOf
  rw [List.countP_map]
  refine List.countP_eq_length.2 fun h mem => ?_
  exact Holder.unfinishedAt_span.2 (pending h mem)

/-- Unfinished jobs of a log are those that are among the holders or among those that are over. -/
lemma unfinished_log {log hs : List (Holder α)} {es : List (Ended α)}
    (members : (hs ++ es.map (·.toHolder)).Perm log) :
    unfinished (spansOf timeout log) now =
      unfinished (spansOf timeout hs) now +
        unfinished (spansOf timeout (es.map (·.toHolder))) now := by
  unfold unfinished spansOf
  rw [← (members.map _).countP_eq, List.map_append, List.countP_append]

namespace Inv

/-- No job that gave its permit back is unfinished. -/
lemma unfinished_ended (inv : Inv timeout slots jobs p) :
    unfinished (spansOf timeout (p.ended.map (·.toHolder))) p.now = 0 := by
  unfold unfinished spansOf
  rw [List.map_map, List.countP_map]
  refine List.countP_eq_zero.2 fun e mem pending => ?_
  obtain ⟨stop, le, -⟩ := inv.settled e mem
  change (e.span timeout).unfinishedAt p.now at pending
  unfold Span.unfinishedAt at pending
  rw [stop] at pending
  have later : p.now < e.stop := of_decide_eq_true pending
  omega

/-- The first in line is admitted at the earliest instant that the log allows. -/
lemma isLeast_enter (inv : Inv timeout slots jobs p) (free : 0 < p.permits) (wait : p.line ≠ []) :
    IsLeast {t | unfinished (spansOf timeout p.log) t < slots} p.now := by
  constructor
  · have held : unfinished (spansOf timeout p.holders) p.now ≤ p.holders.length :=
      List.countP_le_length.trans (by rw [spansOf, List.length_map])
    have permits := inv.permits
    show unfinished (spansOf timeout p.log) p.now < slots
    rw [unfinished_log inv.members, inv.unfinished_ended]
    omega
  · intro t some_free
    by_contra early
    have full := inv.busy wait t (Nat.lt_of_not_le early)
    have free : unfinished (spansOf timeout p.log) t < slots := some_free
    omega

end Inv

section steps

variable {n : Nat} {line : List (Job α)} {ended : List (Ended α)} {log : List (Holder α)}

/-- A job that is admitted is logged at the earliest instant that the log allows. -/
lemma inv_enter {j : Job α} {holders : List (Holder α)}
    (inv : Inv timeout slots jobs ⟨now, n + 1, j :: line, holders, ended, log⟩) :
    Inv timeout slots jobs
      ⟨now, n, line, holders ++ [⟨j, now⟩], ended, log ++ [⟨j, now⟩]⟩ := by
  have least := inv.isLeast_enter (Nat.succ_pos n) (List.cons_ne_nil j line)
  have permits := inv.permits
  refine ⟨?_, ?_, ?_, ?_, ?_, ?_, inv.settled, ?_⟩
  · simp only [List.length_append, List.length_singleton] at permits ⊢
    omega
  · show (log ++ [_]).map Holder.toJob ++ line = jobs
    rw [← inv.order, List.map_append, List.append_assoc]
    rfl
  · show ((holders ++ [_]) ++ ended.map Ended.toHolder).Perm (log ++ [_])
    rw [List.append_assoc]
    refine (List.Perm.append_left holders List.perm_append_comm).trans ?_
    rw [← List.append_assoc]
    exact inv.members.append_right _
  · show Greedy slots ((log ++ [_]).map _) (spansOf timeout (log ++ [_]))
    rw [spansOf_append, List.map_append]
    exact inv.greedy.snoc least
  · intro _ t lt
    refine (inv.busy (List.cons_ne_nil j line) t lt).trans ?_
    show unfinished (spansOf timeout log) t ≤ unfinished (spansOf timeout (log ++ [_])) t
    rw [spansOf_append]
    exact unfinished_le_append
  · intro h mem t lt
    obtain mem | mem := List.mem_append.1 mem
    · exact inv.prompt h mem t lt
    · obtain rfl := List.mem_singleton.1 mem
      rw [← Option.not_isSome_iff_eq_none, Holder.poll?_isSome_iff_timers]
      rintro ⟨u, timer, le⟩
      obtain ⟨d, -, rfl⟩ := List.mem_map.1 timer
      change now + d ≤ t at le
      change t < now at lt
      omega
  · obtain start | gone | ⟨h, mem, gone⟩ := inv.clock
    · exact .inl start
    · exact .inr (.inl gone)
    · exact .inr (.inr ⟨h, List.mem_append_left _ mem, gone⟩)

/-- A job that is over gives its permit back with the outcome of its task. -/
lemma inv_settle {l r : List (Holder α)} {h : Holder α} {joined : Joined α}
    (inv : Inv timeout slots jobs ⟨now, n, line, l ++ h :: r, ended, log⟩)
    (polled : h.poll? timeout now = some joined) :
    Inv timeout slots jobs ⟨now, n + 1, line, l ++ r, ended ++ [⟨h, now, joined⟩], log⟩ := by
  have mem : h ∈ l ++ h :: r := List.mem_append_right l (List.mem_cons_self ..)
  have stop : (h.span timeout).stop = some now :=
    Holder.stop_span (by rw [polled]; rfl) (inv.prompt h mem)
  have permits := inv.permits
  refine ⟨?_, inv.order, ?_, inv.greedy, inv.busy, ?_, ?_, ?_⟩
  · simp only [List.length_append, List.length_cons] at permits ⊢
    omega
  · refine List.Perm.trans ?_ inv.members
    show ((l ++ r) ++ (ended ++ [_]).map Ended.toHolder).Perm
      ((l ++ h :: r) ++ ended.map Ended.toHolder)
    rw [List.map_append, ← List.append_assoc]
    refine List.perm_append_comm.trans ?_
    exact (List.perm_middle.append_right _).symm
  · intro g held
    exact inv.prompt g ((List.Sublist.append_left (List.sublist_cons_self h r) l).subset held)
  · intro e gone
    obtain gone | gone := List.mem_append.1 gone
    · exact inv.settled e gone
    · obtain rfl := List.mem_singleton.1 gone
      exact ⟨stop, Nat.le_refl now, Holder.outcome_poll? polled (inv.prompt h mem)⟩
  · exact .inr (.inl ⟨⟨h, now, joined⟩, List.mem_append_right _ (List.mem_singleton_self _), rfl⟩)

/-- While the clock of an idle pool goes on to its next timer, no permit is free for the line. -/
lemma inv_wake {t : Nat} (inv : Inv timeout slots jobs p) (idle : p.Idle timeout)
    (least : IsLeast {u | ∃ h ∈ p.holders, u ∈ h.timers timeout} t) :
    Inv timeout slots jobs { p with now := t } := by
  refine ⟨inv.permits, inv.order, inv.members, inv.greedy, ?_, ?_, ?_, ?_⟩
  · intro wait u lt
    by_cases past : u < p.now
    · exact inv.busy wait u past
    · have taken : p.permits = 0 := idle.line.resolve_right wait
      have permits := inv.permits
      have held : unfinished (spansOf timeout p.holders) u = p.holders.length :=
        unfinished_holders fun h mem => poll?_eq_none_of_lt least lt mem
      rw [unfinished_log inv.members]
      omega
  · intro h mem u lt
    exact poll?_eq_none_of_lt least lt mem
  · intro e mem
    obtain ⟨stop, le, outcome⟩ := inv.settled e mem
    exact ⟨stop, le.trans (idle.le_timer least), outcome⟩
  · obtain ⟨h, mem, timer⟩ := least.1
    exact .inr (.inr ⟨h, mem, Holder.poll?_isSome_iff_timers.2 ⟨t, timer, Nat.le_refl t⟩⟩)

end steps

/-- Every step keeps the invariant. -/
lemma Step.inv (step : Step timeout p q) (inv : Inv timeout slots jobs p) :
    Inv timeout slots jobs q := by
  cases step with
  | enter => exact inv_enter inv
  | settle polled => exact inv_settle inv polled
  | wake idle least => exact inv_wake inv idle least

/-- Any number of steps keeps the invariant. -/
lemma Steps.inv (steps : Steps timeout p q) (inv : Inv timeout slots jobs p) :
    Inv timeout slots jobs q := by
  induction steps with
  | refl => exact inv
  | tail _ step ih => exact step.inv ih

end Fleet.Dispatch
