import Fleet.Proofs.Dispatch.Invariant
import Mathlib.Data.List.Forall2

/-!
# Batches

What a batch of tasks yields, whatever the order of the things that happen at one instant. Its slots
are those that its tasks have alone (`slots_alone`), and its spans are the greedy schedule of its
tasks, first come, first served (`schedule_firstCome`).

`Yields limits tasks b` says that some steps of the pool, none of which can be followed by another
one, lead to the batch. The batch that the dispatcher itself computes is one of these
(`run_yields`). Everything else is read off the invariant at a pool where no step is left: nobody
waits in line and nobody holds a permit but those that never end (`inv_of_stuck`), so each job is
over with the outcome that it has alone (`exists_ended`), and the log holds all jobs in input order
(`toJob_log`).

The two results put the same facts in the terms of the batch. `GreedyFifo` lists what a schedule of
first come, first served is, with the number of slots given by the bound that was asked for, and
`PermitsKept` what is true of the permits at any instant between.
-/

namespace Fleet.Dispatch

variable {α : Type} {timeout : Option Nat} {slots : Nat} {jobs : List (Job α)} {p : Pool α}
  {limits : Limits} {tasks : List (Task α)} {b : Batch α}

/-- Batches that some order of steps leads to once no step is left. -/
def Yields (limits : Limits) (tasks : List (Task α)) (b : Batch α) : Prop :=
  ∃ p, Steps limits.timeout (start limits tasks) p ∧ (∀ q, ¬ Step limits.timeout p q) ∧
    b = p.batch tasks

/-- Every task ends by itself or is cut off. -/
def AllEnd (timeout : Option Nat) (tasks : List (Task α)) : Prop :=
  timeout.isSome ∨ ∀ t ∈ tasks, t.delay.isSome

/-- A batch that runs is one that its steps lead to. -/
lemma run_yields (limits : Limits) (tasks : List (Task α)) :
    Yields limits tasks (run limits tasks) :=
  ⟨_, Pool.drain_steps _ _, fun _ => Pool.not_step_of_step?_eq_none (Pool.drain_stuck _ _), rfl⟩

/-- There is always a permit. -/
lemma Limits.permits_pos (limits : Limits) (size : Nat) : 0 < limits.permits size := by
  have pos := limits.maxParallel_pos
  unfold Limits.permits
  omega

/-- A task that ends or is cut off has a length. -/
lemma AllEnd.isSome_length (ends : AllEnd timeout tasks) {i : Nat} {t : Task α} (mem : t ∈ tasks) :
    ((⟨i, t⟩ : Job α).length timeout).isSome := by
  unfold Job.length holdTime
  obtain limit | delays := ends
  · obtain ⟨limit, rfl⟩ := Option.isSome_iff_exists.1 limit
    cases t.delay with
    | none => rfl
    | some d => rfl
  · obtain ⟨d, delay⟩ := Option.isSome_iff_exists.1 (delays t mem)
    simp only [delay]
    cases timeout with
    | none => rfl
    | some limit => rfl

/-- Nothing has happened at the start. -/
lemma start_inv (limits : Limits) (tasks : List (Task α)) :
    Inv limits.timeout (limits.permits tasks.length) (tasks.mapIdx Job.mk)
      (start limits tasks) where
  permits := Nat.add_zero _
  order := List.nil_append _
  members := List.Perm.refl []
  greedy := .nil
  busy _ _ lt := absurd lt (Nat.not_lt_zero _)
  prompt _ mem := absurd mem List.not_mem_nil
  settled _ mem := absurd mem List.not_mem_nil
  clock := .inl (Eq.refl 0)

/-- Answers of a fallible function to a list, all of them there. -/
lemma mapM_eq_some {β γ : Type} {f : β → Option γ} {P : β → γ → Prop} {l : List β}
    (answers : ∀ x ∈ l, ∃ y, f x = some y ∧ P x y) :
    ∃ ys, l.mapM f = some ys ∧ List.Forall₂ P l ys := by
  induction l with
  | nil => exact ⟨[], rfl, .nil⟩
  | cons x l ih =>
    obtain ⟨y, answer, holds⟩ := answers x (List.mem_cons_self ..)
    obtain ⟨ys, rest, all⟩ := ih fun x' mem => answers x' (List.mem_cons_of_mem x mem)
    refine ⟨y :: ys, ?_, .cons holds all⟩
    rw [List.mapM_cons, answer, rest]
    rfl

namespace Inv

/-- A job that was admitted is one of the jobs. -/
lemma toJob_mem (inv : Inv timeout slots jobs p) {h : Holder α} (mem : h ∈ p.log) :
    h.toJob ∈ jobs := by
  rw [← inv.order]
  exact List.mem_append_left _ (List.mem_map_of_mem mem)

/-- A pool whose jobs have lengths only stops when they are over. -/
lemma over_of_stuck (inv : Inv timeout slots jobs p) (pos : 0 < slots)
    (ends : ∀ j ∈ jobs, (j.length timeout).isSome) (stuck : p.step? timeout = none) :
    p.holders = [] ∧ p.line = [] := by
  obtain ⟨idle, silent⟩ := Pool.timers_of_step?_eq_none stuck
  have nobody : p.holders = [] := by
    refine List.eq_nil_iff_forall_not_mem.2 fun h mem => ?_
    have admitted : h ∈ p.log := inv.members.subset (List.mem_append_left _ mem)
    have length := ends _ (inv.toJob_mem admitted)
    have none := silent h mem
    simp only [Holder.timers, List.map_eq_nil_iff, List.append_eq_nil_iff, Option.toList_eq_nil_iff]
      at none
    simp [Job.length, holdTime, none.1, none.2] at length
  have permits := inv.permits
  rw [nobody] at permits
  have free : p.permits ≠ 0 := by
    rw [List.length_nil] at permits
    omega
  exact ⟨nobody, idle.line.resolve_left free⟩

/-- The admissions are numbered by the handles of their jobs. -/
lemma job_getElem? (inv : Inv timeout slots (tasks.mapIdx Job.mk) p) {i : Nat} {h : Holder α}
    (at_i : p.log[i]? = some h) : ∃ t, tasks[i]? = some t ∧ h.toJob = ⟨i, t⟩ := by
  have inside : i < (p.log.map (·.toJob)).length := by
    rw [List.length_map]
    exact (List.getElem?_eq_some_iff.1 at_i).1
  have job : (tasks.mapIdx Job.mk)[i]? = some h.toJob := by
    rw [← inv.order, List.getElem?_append_left inside, List.getElem?_map, at_i]
    rfl
  rw [List.getElem?_mapIdx] at job
  obtain ⟨t, at_t, same⟩ := Option.map_eq_some_iff.1 job
  exact ⟨t, at_t, same.symm⟩

/-- Once no job has a permit, every handle leads to the job that was admitted under it. -/
lemma find?_ended (inv : Inv timeout slots (tasks.mapIdx Job.mk) p) (nobody : p.holders = [])
    {i : Nat} {h : Holder α} (at_i : p.log[i]? = some h) :
    ∃ e ∈ p.ended, p.ended.find? (·.handle = i) = some e ∧ e.toHolder = h := by
  have members := inv.members
  rw [nobody, List.nil_append] at members
  have handle {k : Nat} {g : Holder α} (at_k : p.log[k]? = some g) : g.handle = k := by
    obtain ⟨t, -, same⟩ := inv.job_getElem? at_k
    rw [same]
  obtain ⟨e, gone, rfl⟩ := List.mem_map.1 (members.symm.subset (List.mem_of_getElem? at_i))
  have found : (p.ended.find? (·.handle = i)).isSome :=
    List.find?_isSome.2 ⟨e, gone, decide_eq_true (handle at_i)⟩
  obtain ⟨e', first⟩ := Option.isSome_iff_exists.1 found
  have gone' := List.mem_of_find?_eq_some first
  have handle' : e'.handle = i := by simpa using List.find?_some first
  obtain ⟨k, at_k⟩ := List.getElem?_of_mem (members.subset (List.mem_map_of_mem gone'))
  obtain rfl : k = i := (handle at_k).symm.trans handle'
  exact ⟨e', gone', first, Option.some.inj (at_k.symm.trans at_i)⟩

/-- Once all jobs are over, the log has one admission for every task. -/
lemma length_log (inv : Inv timeout slots (tasks.mapIdx Job.mk) p) (empty : p.line = []) :
    p.log.length = tasks.length := by
  have order := congrArg List.length inv.order
  rw [empty, List.append_nil, List.length_map, List.length_mapIdx] at order
  exact order

/-- Once all jobs are over, their spans are those of the log. -/
lemma map_span (inv : Inv timeout slots (tasks.mapIdx Job.mk) p) (nobody : p.holders = [])
    (empty : p.line = []) : (List.range tasks.length).map p.span = spansOf timeout p.log := by
  rw [← inv.length_log empty]
  refine List.ext_getElem? fun i => ?_
  rw [spansOf, List.getElem?_map, List.getElem?_map]
  cases at_i : p.log[i]? with
  | none => rw [List.getElem?_eq_none (by simpa using at_i)]; rfl
  | some h =>
    obtain ⟨inside, -⟩ := List.getElem?_eq_some_iff.1 at_i
    obtain ⟨e, gone, found, rfl⟩ := inv.find?_ended nobody at_i
    obtain ⟨stop, -, -⟩ := inv.settled e gone
    rw [List.getElem?_range inside]
    show some (p.span i) = some (e.span timeout)
    unfold Pool.span
    rw [found]
    show some ⟨some e.since, some e.stop⟩ = some (⟨some e.since, (e.span timeout).stop⟩ : Span)
    rw [stop]

/-- Once all jobs are over, every handle yields something, with the outcome of its task. -/
lemma join?_eq_some (inv : Inv timeout slots (tasks.mapIdx Job.mk) p) (nobody : p.holders = [])
    (empty : p.line = []) : ∀ i ∈ List.range tasks.length, ∃ j, p.join? i = some j ∧
      ∀ t, tasks[i]? = some t → j.outcome t.context = t.outcome timeout := by
  intro i mem
  have inside : i < p.log.length := by
    rw [inv.length_log empty]
    exact List.mem_range.1 mem
  have at_i := List.getElem?_eq_getElem inside
  obtain ⟨e, gone, found, same⟩ := inv.find?_ended nobody at_i
  obtain ⟨-, -, outcome⟩ := inv.settled e gone
  refine ⟨e.joined, by rw [Pool.join?, found]; rfl, fun t at_t => ?_⟩
  obtain ⟨t', at_t', job⟩ := inv.job_getElem? at_i
  obtain rfl : t' = t := Option.some.inj (at_t'.symm.trans at_t)
  rw [← same] at job
  rw [job] at outcome
  exact outcome

/-- Once the line is empty, all jobs were admitted, in input order. -/
lemma toJob_log (inv : Inv timeout slots jobs p) (empty : p.line = []) :
    p.log.map (·.toJob) = jobs := by
  have order := inv.order
  rwa [empty, List.append_nil] at order

/-- Once all jobs are over, the batch has the outcome of every task, the spans of the log, the clock
as its length, and all jobs as admitted ones. -/
lemma batch_eq (inv : Inv timeout slots (tasks.mapIdx Job.mk) p) (nobody : p.holders = [])
    (empty : p.line = []) : p.batch tasks =
      ⟨tasks.map fun t => ⟨t.context, t.outcome timeout⟩, spansOf timeout p.log, some p.now,
        tasks.mapIdx Job.mk⟩ := by
  obtain ⟨joined, answers, outcomes⟩ := mapM_eq_some (inv.join?_eq_some nobody empty)
  unfold Pool.batch
  simp only [answers, inv.map_span nobody empty, inv.toJob_log empty, Batch.mk.injEq, and_true]
  obtain ⟨same, outcomes⟩ := List.forall₂_iff_get.1 outcomes
  rw [List.length_range] at same
  refine List.ext_getElem (by simp [same]) fun i inside _ => ?_
  have within : i < tasks.length := by simp at inside; omega
  have outcome := outcomes i (by simpa using within) (by omega) tasks[i]
    (by simp [List.getElem?_eq_getElem within])
  simp only [List.get_eq_getElem] at outcome
  simp [outcome]

/-- Once no job has a permit, every job of the log is over by the instant of the clock. -/
lemma exists_ended (inv : Inv timeout slots jobs p) (nobody : p.holders = []) {h : Holder α}
    (mem : h ∈ p.log) : ∃ e ∈ p.ended,
      e.toHolder = h ∧ (h.span timeout).stop = some e.stop ∧ e.stop ≤ p.now := by
  have members := inv.members
  rw [nobody, List.nil_append] at members
  obtain ⟨e, gone, rfl⟩ := List.mem_map.1 (members.symm.subset mem)
  obtain ⟨stop, le, -⟩ := inv.settled e gone
  exact ⟨e, gone, rfl, stop, le⟩

/-- Once no job has a permit, the clock shows the end of the last job, if there is one. -/
lemma exists_last (inv : Inv timeout slots jobs p) (nobody : p.holders = []) :
    p.log = [] ∧ p.now = 0 ∨ ∃ h ∈ p.log, (h.span timeout).stop = some p.now := by
  obtain start | ⟨e, gone, stop⟩ | ⟨h, mem, -⟩ := inv.clock
  · cases admitted : p.log with
    | nil => exact .inl ⟨rfl, start⟩
    | cons h log =>
      have mem : h ∈ p.log := by
        rw [admitted]
        exact List.mem_cons_self ..
      obtain ⟨e, -, -, stop, le⟩ := inv.exists_ended nobody mem
      refine .inr ⟨h, List.mem_cons_self .., ?_⟩
      rw [stop, show e.stop = p.now by omega]
  · obtain ⟨stop', -, -⟩ := inv.settled e gone
    have admitted : e.toHolder ∈ p.log :=
      inv.members.subset (List.mem_append_right _ (List.mem_map_of_mem gone))
    exact .inr ⟨e.toHolder, admitted, by rw [stop', stop]⟩
  · rw [nobody] at mem
    cases mem

end Inv

/-- Once no step is left in a batch whose tasks all end, nobody waits or has a permit. -/
lemma inv_of_stuck (ends : AllEnd limits.timeout tasks)
    (steps : Steps limits.timeout (start limits tasks) p) (stuck : ∀ q, ¬ Step limits.timeout p q) :
    Inv limits.timeout (limits.permits tasks.length) (tasks.mapIdx Job.mk) p ∧
      p.holders = [] ∧ p.line = [] := by
  have inv := steps.inv (start_inv limits tasks)
  have lengths : ∀ j ∈ tasks.mapIdx Job.mk, (j.length limits.timeout).isSome := by
    intro j mem
    obtain ⟨i, inside, rfl⟩ := List.mem_mapIdx.1 mem
    exact ends.isSome_length (List.getElem_mem inside)
  have silent : p.step? limits.timeout = none :=
    Option.eq_none_iff_forall_ne_some.2 fun q next => stuck q (Pool.step?_step next)
  obtain ⟨nobody, empty⟩ := inv.over_of_stuck (limits.permits_pos _) lengths silent
  exact ⟨inv, nobody, empty⟩

/-- What a batch yields whose tasks all end. -/
lemma Yields.final (yields : Yields limits tasks b) (ends : AllEnd limits.timeout tasks) :
    ∃ p, Inv limits.timeout (limits.permits tasks.length) (tasks.mapIdx Job.mk) p ∧
      p.holders = [] ∧ p.line = [] ∧
      b = ⟨tasks.map fun t => ⟨t.context, t.outcome limits.timeout⟩, spansOf limits.timeout p.log,
        some p.now, tasks.mapIdx Job.mk⟩ := by
  obtain ⟨p, steps, stuck, rfl⟩ := yields
  obtain ⟨inv, nobody, empty⟩ := inv_of_stuck ends steps stuck
  exact ⟨p, inv, nobody, empty, inv.batch_eq nobody empty⟩

/-- A task whose handle yields something has a length. -/
lemma Inv.isSome_length (inv : Inv timeout slots (tasks.mapIdx Job.mk) p)
    {i : Nat} {t : Task α} (at_i : tasks[i]? = some t) (joined : (p.join? i).isSome) :
    (holdTime timeout t.delay).isSome := by
  unfold Pool.join? at joined
  rw [Option.isSome_map] at joined
  obtain ⟨e, found⟩ := Option.isSome_iff_exists.1 joined
  have gone := List.mem_of_find?_eq_some found
  have handle : e.handle = i := by simpa using List.find?_some found
  obtain ⟨k, at_k⟩ :=
    List.getElem?_of_mem (inv.members.subset (List.mem_append_right _ (List.mem_map_of_mem gone)))
  obtain ⟨t', at_t', job⟩ := inv.job_getElem? at_k
  obtain rfl : k = i := by
    rw [← handle, job]
  obtain rfl : t' = t := Option.some.inj (at_t'.symm.trans at_i)
  obtain ⟨stop, -, -⟩ := inv.settled e gone
  unfold Holder.span Job.length at stop
  rw [job] at stop
  obtain ⟨l, length, -⟩ := Option.map_eq_some_iff.1 stop
  rw [length]
  rfl

/-- A fallible function that answers a whole list answers each of its members. -/
lemma isSome_of_mapM {β γ : Type} {f : β → Option γ} {l : List β} {ys : List γ}
    (answers : l.mapM f = some ys) : ∀ x ∈ l, (f x).isSome := by
  induction l generalizing ys with
  | nil => exact fun x mem => absurd mem List.not_mem_nil
  | cons x l ih =>
    rw [List.mapM_cons] at answers
    obtain ⟨y, answer, rest⟩ := Option.bind_eq_some_iff.1 answers
    obtain ⟨ys', rest, -⟩ := Option.bind_eq_some_iff.1 rest
    intro x' mem
    obtain rfl | later := List.mem_cons.1 mem
    · rw [answer]
      rfl
    · exact ih rest x' later

/-- A batch that comes to an end is one of tasks that end. -/
lemma Yields.allEnd (yields : Yields limits tasks b) (ended : b.elapsed.isSome) :
    AllEnd limits.timeout tasks := by
  obtain ⟨p, steps, -, rfl⟩ := yields
  have inv := steps.inv (start_inv limits tasks)
  cases answers : (List.range tasks.length).mapM p.join? with
  | none =>
    unfold Pool.batch at ended
    dsimp only at ended
    rw [answers] at ended
    cases ended
  | some joined =>
    -- every task was joined, so every task ended
    cases limit : limits.timeout with
    | some t => exact .inl rfl
    | none =>
      refine .inr fun t mem => ?_
      obtain ⟨i, at_i⟩ := List.getElem?_of_mem mem
      have inside := (List.getElem?_eq_some_iff.1 at_i).1
      have length := inv.isSome_length at_i (isSome_of_mapM answers i (List.mem_range.2 inside))
      rw [limit] at length
      exact length

/-- A batch whose tasks all end admits each of them once, in input order. -/
lemma Yields.admitted_eq (yields : Yields limits tasks b) (ends : AllEnd limits.timeout tasks) :
    b.admitted = tasks.mapIdx Job.mk := by
  obtain ⟨p, -, -, -, rfl⟩ := yields.final ends
  rfl

/-- The slots of a batch that comes to an end are those that its tasks have alone. -/
lemma Yields.slots_of_isSome (yields : Yields limits tasks b) (ended : b.elapsed.isSome) :
    b.slots = tasks.map fun t => ⟨t.context, t.outcome limits.timeout⟩ := by
  obtain ⟨p, -, -, -, rfl⟩ := yields.final (yields.allEnd ended)
  rfl

/-- The slots of a batch are those that its tasks have alone; there are none if the batch is never
over. -/
lemma Yields.slots_eq (yields : Yields limits tasks b) :
    b.slots = [] ∨ b.slots = tasks.map fun t => ⟨t.context, t.outcome limits.timeout⟩ := by
  cases ended : b.elapsed with
  | some e => exact .inr (yields.slots_of_isSome (by rw [ended]; rfl))
  | none =>
    obtain ⟨p, -, -, rfl⟩ := yields
    left
    unfold Pool.batch at ended ⊢
    cases answers : (List.range tasks.length).mapM p.join? with
    | none => simp only [answers]
    | some joined => simp only [answers, reduceCtorEq] at ended

/-- The first-come schedule of a batch on a number of slots. -/
structure GreedyFifo (slots : Nat) (timeout : Option Nat) (tasks : List (Task α)) (b : Batch α) :
    Prop where
  size : b.spans.length = tasks.length
  /-- Every task begins at the earliest instant at which fewer tasks before it are unfinished than
  there are slots, and gives its slot back when its delay or its time limit is over. -/
  begins : ∀ i t, tasks[i]? = some t → ∃ s l, holdTime timeout t.delay = some l ∧
    b.spans[i]? = some ⟨some s, some (s + l)⟩ ∧
    IsLeast {u | unfinished (b.spans.take i) u < slots} s
  bounded : ∀ u, running b.spans u ≤ slots
  inOrder : b.spans.Pairwise fun x y => ∃ s u, x.start = some s ∧ y.start = some u ∧ s ≤ u
  /-- While a task waits, no slot is idle. -/
  busy : ∀ x ∈ b.spans, ∀ s u, x.start = some s → u < s → running b.spans u = slots
  /-- The batch is over at the instant at which its last task ends. -/
  returns : ∃ e, b.elapsed = some e ∧ (∀ x ∈ b.spans, ∃ c, x.stop = some c ∧ c ≤ e) ∧
    (tasks = [] ∧ e = 0 ∨ ∃ x ∈ b.spans, x.stop = some e)

/-- The permits of a batch on its way, one for each of its slots. -/
structure PermitsKept (slots : Nat) (timeout : Option Nat) (tasks : List (Task α)) (p : Pool α) :
    Prop where
  bounded : p.holders.length ≤ slots
  balance : p.permits + p.holders.length = slots
  /-- The line is what is left of the tasks in input order. -/
  line : p.line <:+ tasks.mapIdx Job.mk
  /-- Once no step is left, every task had its turn and every permit is back. -/
  returned : (∀ q, ¬ Step timeout p q) → p.line = [] ∧ p.permits = slots

namespace Inv

/-- Once no job has a permit, every task begins as early as the tasks before it allow. -/
lemma begins (inv : Inv timeout slots (tasks.mapIdx Job.mk) p) (empty : p.line = [])
    (ends : AllEnd timeout tasks) {i : Nat} {t : Task α} (at_i : tasks[i]? = some t) :
    ∃ s l, holdTime timeout t.delay = some l ∧
      (spansOf timeout p.log)[i]? = some ⟨some s, some (s + l)⟩ ∧
      IsLeast {u | unfinished ((spansOf timeout p.log).take i) u < slots} s := by
  obtain ⟨l, length⟩ :=
    Option.isSome_iff_exists.1 (ends.isSome_length (i := i) (List.mem_of_getElem? at_i))
  have inside : i < p.log.length := by
    rw [inv.length_log empty]
    exact (List.getElem?_eq_some_iff.1 at_i).1
  obtain ⟨t', at_t', job⟩ := inv.job_getElem? (List.getElem?_eq_getElem inside)
  obtain rfl : t' = t := Option.some.inj (at_t'.symm.trans at_i)
  have at_log : (p.log.map (·.length timeout))[i]? = some (some l) := by
    rw [List.getElem?_map, List.getElem?_eq_getElem inside, Option.map_some, job, length]
  obtain ⟨s, span, least⟩ := inv.greedy.getElem? at_log
  exact ⟨s, l, length, span, least⟩

/-- Once no job has a permit, the clock shows when the last task ended. -/
lemma returns (inv : Inv timeout slots (tasks.mapIdx Job.mk) p) (nobody : p.holders = [])
    (empty : p.line = []) : (∀ x ∈ spansOf timeout p.log, ∃ c, x.stop = some c ∧ c ≤ p.now) ∧
      (tasks = [] ∧ p.now = 0 ∨ ∃ x ∈ spansOf timeout p.log, x.stop = some p.now) := by
  constructor
  · intro x mem
    obtain ⟨h, admitted, rfl⟩ := List.mem_map.1 mem
    obtain ⟨e, -, -, stop, le⟩ := inv.exists_ended nobody admitted
    exact ⟨e.stop, stop, le⟩
  · obtain ⟨none, start⟩ | ⟨h, mem, stop⟩ := inv.exists_last nobody
    · have size := inv.length_log empty
      rw [none] at size
      exact .inl ⟨List.eq_nil_of_length_eq_zero size.symm, start⟩
    · exact .inr ⟨h.span timeout, List.mem_map_of_mem mem, stop⟩

end Inv

/-- A batch that all its steps lead to is scheduled first come, first served. -/
lemma Yields.greedyFifo (yields : Yields limits tasks b) (ends : AllEnd limits.timeout tasks) :
    GreedyFifo (limits.permits tasks.length) limits.timeout tasks b := by
  obtain ⟨p, inv, nobody, empty, rfl⟩ := yields.final ends
  refine ⟨?_, ?_, inv.greedy.running_le, inv.greedy.pairwise_start, ?_, ?_⟩
  · rw [spansOf, List.length_map, inv.length_log empty]
  · intro i t at_i
    exact inv.begins empty ends at_i
  · intro x mem s u start waits
    exact Nat.le_antisymm (inv.greedy.running_le u) (inv.greedy.le_running mem start waits)
  · obtain ⟨gone, last⟩ := inv.returns nobody empty
    exact ⟨p.now, rfl, gone, last⟩

/-- No step loses or doubles a permit, or lets a later task pass an earlier one. -/
lemma permitsKept_of_steps (ends : AllEnd limits.timeout tasks)
    (steps : Steps limits.timeout (start limits tasks) p) :
    PermitsKept (limits.permits tasks.length) limits.timeout tasks p := by
  have inv := steps.inv (start_inv limits tasks)
  have balance := inv.permits
  refine ⟨by omega, balance, ⟨_, inv.order⟩, fun stuck => ?_⟩
  obtain ⟨-, nobody, empty⟩ := inv_of_stuck ends steps stuck
  rw [nobody] at balance
  exact ⟨empty, balance⟩

/-- A task that never ends, one that crashes, one that needs exactly fifty milliseconds, and one
that fails. -/
def mixed : List (Task Nat) :=
  [⟨"a", none, .value 1⟩, ⟨"b", some 3, .crash⟩, ⟨"a", some 50, .value 7⟩,
    ⟨"c", some 5, .failure (.call "c" "refused")⟩]

/-- However many tasks run at once and in whatever order they end, a batch comes to an end with one
slot for every task, in input order, and the slot is the one that the task has alone. -/
theorem slots_alone (maxParallel : Nat) (timeout : Option Nat) (tasks : List (Task α))
    (ends : AllEnd timeout tasks) :
    (WellFounded fun q p : Pool α => Step timeout p q) ∧
    Yields (.new maxParallel timeout) tasks (run (.new maxParallel timeout) tasks) ∧
    ∀ b : Batch α, Yields (.new maxParallel timeout) tasks b →
      b.elapsed.isSome ∧ b.slots.length = tasks.length ∧
      ∀ (i : Nat) (t : Task α), tasks[i]? = some t →
        b.slots[i]? = some ⟨t.context, t.outcome timeout⟩ ∧
        ∀ m, (run (.new m timeout) [t]).slots = [⟨t.context, t.outcome timeout⟩] := by
  refine ⟨step_wellFounded timeout, run_yields _ _, ?_⟩
  intro b yields
  obtain ⟨p, -, -, -, rfl⟩ := yields.final ends
  refine ⟨rfl, List.length_map _, ?_⟩
  intro i t at_i
  refine ⟨by rw [List.getElem?_map, at_i]; rfl, fun m => ?_⟩
  have alone : AllEnd timeout [t] := by
    refine ends.imp id fun delays t' mem => ?_
    rw [List.mem_singleton.1 mem]
    exact delays t (List.mem_of_getElem? at_i)
  obtain ⟨p, -, -, -, same⟩ := (run_yields (.new m timeout) [t]).final alone
  rw [same]
  rfl

/-- The slots of a batch that ends in every way: cut off, crashed, with a value and with an
error. -/
theorem slots_alone_mixed :
    AllEnd (some 50) mixed ∧
    (run (.new 1 (some 50)) mixed).slots =
      [⟨"a", .error (.timeout "a" (Duration.ofMillis 50))⟩,
        ⟨"b", .error (.aborted "b" "task panicked")⟩,
        ⟨"a", .ok 7⟩, ⟨"c", .error (.call "c" "refused")⟩] := by
  obtain ⟨-, yields, slots⟩ := slots_alone 1 (some 50) mixed (.inl rfl)
  obtain ⟨-, size, slot⟩ := slots _ yields
  refine ⟨.inl rfl, List.ext_getElem? fun i => ?_⟩
  match i with
  | 0 => exact (slot 0 _ rfl).1
  | 1 => exact (slot 1 _ rfl).1
  | 2 => exact (slot 2 _ rfl).1
  | 3 => exact (slot 3 _ rfl).1
  | i + 4 =>
    have beyond : mixed.length ≤ i + 4 := Nat.le_add_left 4 i
    rw [List.getElem?_eq_none (size ▸ beyond)]
    rfl

/-- A batch with a bound, zero standing for ten, has that many slots but no more than it has tasks.
It begins its tasks in input order, each as soon as a slot is free, never holds more slots than
there are, leaves none idle and loses none, and is over when its last task is. -/
theorem schedule_firstCome (m : Nat) (timeout : Option Nat) (tasks : List (Task α))
    (ends : AllEnd timeout tasks) :
    GreedyFifo (min (if m = 0 then 10 else m) (max tasks.length 1)) timeout tasks
      (run (.new m timeout) tasks) ∧
    (∀ b, Yields (.new m timeout) tasks b →
      GreedyFifo (min (if m = 0 then 10 else m) (max tasks.length 1)) timeout tasks b) ∧
    ∀ p, Steps timeout (start (.new m timeout) tasks) p →
      PermitsKept (min (if m = 0 then 10 else m) (max tasks.length 1)) timeout tasks p := by
  have law : ∀ b, Yields (.new m timeout) tasks b →
      GreedyFifo ((Limits.new m timeout).permits tasks.length) timeout tasks b :=
    fun _ yields => yields.greedyFifo ends
  have kept : ∀ p, Steps (Limits.new m timeout).timeout (start (.new m timeout) tasks) p →
      PermitsKept ((Limits.new m timeout).permits tasks.length) timeout tasks p :=
    fun _ steps => permitsKept_of_steps ends steps
  exact ⟨law _ (run_yields _ _), law, kept⟩

/-- A batch on one slot, and without a bound on a slot for each of its tasks. -/
theorem schedule_firstCome_mixed :
    AllEnd (some 50) mixed ∧
    GreedyFifo 1 (some 50) mixed (run (.new 1 (some 50)) mixed) ∧
    (run (.new 1 (some 50)) mixed).spans =
      [⟨some 0, some 50⟩, ⟨some 50, some 53⟩, ⟨some 53, some 103⟩, ⟨some 103, some 108⟩] ∧
    GreedyFifo 4 (some 50) mixed (run (.new 0 (some 50)) mixed) ∧
    (run (.new 0 (some 50)) mixed).spans =
      [⟨some 0, some 50⟩, ⟨some 0, some 3⟩, ⟨some 0, some 50⟩, ⟨some 0, some 5⟩] :=
  ⟨.inl rfl, (schedule_firstCome 1 (some 50) mixed (.inl rfl)).1, by decide,
    (schedule_firstCome 0 (some 50) mixed (.inl rfl)).1, by decide⟩

end Fleet.Dispatch
