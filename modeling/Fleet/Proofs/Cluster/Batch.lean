import Fleet.Cluster.Batch
import Fleet.Proofs.Cluster.Registry
import Fleet.Proofs.Dispatch.Batch

/-!
# Batches over clients

The slots of a batch of calls hold what the kept clients of its contexts answer
(`mem_slots_callAll`), and every slot is what the call of its context comes to on its own
(`slots_callAll`).

Both facts are about tasks, so they follow from what is known of batches of tasks. What is added
here is the way from a context to its task: a look-up yields a client or a failure, the call of the
client takes its time and has its ending, and a time limit may cut it off. `answer` states the
outcome of that in one expression, and `outcome_taskOf` shows that the task comes to it. Look-ups
one after another yield what each of them yields alone (`zip_getAll`), which is why the slots do not
depend on the company that a context is in.

`CallsEnd` is what is asked of the contexts: without a time limit every call comes to an end of its
own. It passes to the tasks (`CallsEnd.allEnd`).
-/

namespace Fleet.Dispatch

/-- A task that yields a value has that value at its end. -/
lemma Task.ending_of_outcome {α : Type} {timeout : Option Nat} {t : Task α} {a : α}
    (outcome : t.outcome timeout = .ok a) : t.ending = .value a := by
  unfold Task.outcome at outcome
  split at outcome
  · cases outcome
  · cases ending : t.ending with
    | value b =>
      rw [ending] at outcome
      exact congrArg Ending.value (Except.ok.inj outcome)
    | failure e =>
      rw [ending] at outcome
      cases outcome
    | crash =>
      rw [ending] at outcome
      cases outcome

end Fleet.Dispatch

namespace Fleet.Cluster

variable {α : Type} {limits : Dispatch.Limits} {factory : Factory} {registry : Registry}
  {contexts : List String} {call : Client → Call α}

/-- The slots of calls are those of a batch with a task for every context and what its look-up
yields. -/
lemma slots_callAll_eq : (callAll limits factory registry contexts call).1.slots =
    (Dispatch.run limits ((contexts.zip (registry.getAll factory contexts).1).map
      fun c => taskOf c.1 call c.2)).slots := rfl

/-- A task that yields a value is a call that yields it. -/
lemma ending_of_taskOf {context : String} {h : Handle} {a : α}
    (ending : (taskOf context call (.ok h)).ending = .value a) :
    (call h.client).ending = .ok a := by
  unfold taskOf at ending
  cases answer : (call h.client).ending with
  | ok b =>
    simp only [answer, Dispatch.Ending.value.injEq] at ending
    rw [ending]
  | error e =>
    simp only [answer, reduceCtorEq] at ending

/-- A call that succeeded was made through the kept client of its context, and is what that
answers. -/
lemma mem_slots_callAll {slot : Slot α} {a : α}
    (mem : slot ∈ (callAll limits factory registry contexts call).1.slots)
    (ok : slot.outcome = .ok a) :
    slot.context ∈ contexts ∧ ∃ h,
      (callAll limits factory registry contexts call).2.find? slot.context = some h ∧
      (call h.client).ending = .ok a := by
  rw [slots_callAll_eq] at mem
  obtain none | slots := (Dispatch.run_yields limits _).slots_eq
  · rw [none] at mem
    cases mem
  · rw [slots, List.map_map] at mem
    obtain ⟨⟨context, looked⟩, pair, rfl⟩ := List.mem_map.1 mem
    have ending := Dispatch.Task.ending_of_outcome ok
    cases looked with
    | error e => cases ending
    | ok h =>
      exact ⟨(List.of_mem_zip pair).1, h, Registry.find?_getAll pair, ending_of_taskOf ending⟩

/-- What the call of a context comes to: the failure to make its client, the end of its time, or its
own ending. -/
def answer (timeout : Option Nat) (call : Client → Call α) (context : String) :
    Except Failure Client → Except Failure α
  | .error e => .error e
  | .ok c =>
    if Dispatch.isCutOff timeout (call c).delay then
      .error (.timeout context (Duration.ofMillis (timeout.getD 0)))
    else (call c).ending

/-- What ends by itself or is cut off takes longer than its time limit, or ends within it. -/
lemma late_or_inTime {limit : Option Duration} {delay : Option Nat}
    (ends : limit.isSome ∨ delay.isSome) :
    (Dispatch.isCutOff (limit.map (·.millisUp)) delay ∧
      ∃ t, limit = some t ∧ ∀ d, delay = some d → t.millisUp < d) ∨
    (¬ Dispatch.isCutOff (limit.map (·.millisUp)) delay ∧
      ∃ d, delay = some d ∧ ∀ t, limit = some t → d ≤ t.millisUp) := by
  by_cases cut : Dispatch.isCutOff (limit.map (·.millisUp)) delay
  · obtain ⟨_, cutAt, longer⟩ := Dispatch.isCutOff_iff.1 cut
    obtain ⟨t, set, rfl⟩ := Option.map_eq_some_iff.1 cutAt
    exact .inl ⟨cut, t, set, longer⟩
  · have answers : (limit.map (·.millisUp)).isSome ∨ delay.isSome := by rwa [Option.isSome_map]
    obtain ⟨d, ended, within⟩ := Dispatch.delay_of_not_isCutOff cut answers
    exact .inr
      ⟨cut, d, ended, fun t set => within t.millisUp (Option.map_eq_some_iff.2 ⟨t, set, rfl⟩)⟩

/-- Every call ends by itself or is cut off. -/
def CallsEnd (timeout : Option Nat) (factory : Factory) (registry : Registry)
    (contexts : List String) (call : Client → Call α) : Prop :=
  timeout.isSome ∨
    ∀ c ∈ contexts, ∀ client, registry.clientOf factory c = .ok client → (call client).delay.isSome

/-- The task of a context is named for it. -/
lemma context_taskOf {context : String} {looked : Except Failure Handle} :
    (taskOf context call looked).context = context := by
  cases looked with
  | error e => rfl
  | ok h => rfl

/-- The outcome of a task is what its call comes to. -/
lemma outcome_taskOf {timeout : Option Nat} {context : String} {looked : Except Failure Handle} :
    (taskOf context call looked).outcome timeout =
      answer timeout call context (looked.map (·.client)) := by
  cases looked with
  | error e =>
    have inTime : Dispatch.isCutOff timeout (some 0) = false := by
      cases timeout with
      | none => rfl
      | some t => rfl
    show (if Dispatch.isCutOff timeout (some 0) then _ else _) = _
    rw [inTime]
    rfl
  | ok h =>
    show (if Dispatch.isCutOff timeout (call h.client).delay then _ else _) =
      if Dispatch.isCutOff timeout (call h.client).delay then _ else _
    congr 1
    unfold taskOf
    dsimp only
    cases (call h.client).ending with
    | ok a => rfl
    | error e => rfl

/-- The contexts of a batch, each with the client that its look-up yields. -/
lemma zip_getAll (factory : Factory) (registry : Registry) (contexts : List String) :
    (contexts.zip (registry.getAll factory contexts).1).map (fun p => (p.1, p.2.map (·.client))) =
      contexts.map fun c => (c, registry.clientOf factory c) := by
  rw [List.map_prod_left_eq_zip, ← Registry.map_client_getAll, List.zip_map_right]
  rfl

/-- The tasks of a batch of calls. -/
def tasksOf (factory : Factory) (registry : Registry) (contexts : List String)
    (call : Client → Call α) : List (Dispatch.Task α) :=
  (contexts.zip (registry.getAll factory contexts).1).map fun p => taskOf p.1 call p.2

/-- There is a task for every context. -/
lemma length_tasksOf : (tasksOf factory registry contexts call).length = contexts.length := by
  have same := congrArg List.length (zip_getAll factory registry contexts)
  rw [List.length_map, List.length_map] at same
  rw [tasksOf, List.length_map, same]

/-- A batch of calls that end is one of tasks that end. -/
lemma CallsEnd.allEnd {timeout : Option Nat}
    (ends : CallsEnd timeout factory registry contexts call) :
    Dispatch.AllEnd timeout (tasksOf factory registry contexts call) := by
  refine ends.imp id fun delays t mem => ?_
  obtain ⟨⟨c, looked⟩, pair, rfl⟩ := List.mem_map.1 mem
  cases looked with
  | error e => rfl
  | ok h =>
    have seen :
        (c, Except.ok h.client) ∈ contexts.map fun c => (c, registry.clientOf factory c) := by
      rw [← zip_getAll]
      exact List.mem_map_of_mem pair
    obtain ⟨c', named, same⟩ := List.mem_map.1 seen
    obtain ⟨rfl, client⟩ := Prod.mk.inj same
    exact delays c' named h.client client

/-- The slots of a batch of calls are what each call comes to on its own, in input order. -/
lemma slots_callAll (ends : CallsEnd limits.timeout factory registry contexts call) :
    (callAll limits factory registry contexts call).1.slots =
      contexts.map fun c => ⟨c, answer limits.timeout call c (registry.clientOf factory c)⟩ := by
  obtain ⟨p, -, -, -, same⟩ := (Dispatch.run_yields limits _).final ends.allEnd
  rw [slots_callAll_eq]
  show (Dispatch.run limits (tasksOf factory registry contexts call)).slots = _
  rw [same]
  show (tasksOf factory registry contexts call).map _ = _
  unfold tasksOf
  simp only [List.map_map, Function.comp_def, context_taskOf, outcome_taskOf]
  have pairs := congrArg (List.map fun p : String × Except Failure Client =>
    (⟨p.1, answer limits.timeout call p.1 p.2⟩ : Slot α))
      (zip_getAll factory registry contexts)
  rw [List.map_map, List.map_map] at pairs
  exact pairs

/-- A batch of calls that end comes to an end. -/
lemma isSome_elapsed_callAll (ends : CallsEnd limits.timeout factory registry contexts call) :
    (callAll limits factory registry contexts call).1.elapsed.isSome := by
  obtain ⟨p, -, -, -, same⟩ := (Dispatch.run_yields limits _).final ends.allEnd
  show (Dispatch.run limits (tasksOf factory registry contexts call)).elapsed.isSome
  rw [same]
  rfl

/-- Tagged objects come from the slots that succeeded. -/
lemma mem_tagged {o : ContextObject} {slots : List (Slot (List Json))} (mem : o ∈ tagged slots) :
    ∃ objects, ⟨o.context, .ok objects⟩ ∈ slots ∧ o.object ∈ objects := by
  obtain ⟨⟨context, outcome⟩, slot, mem⟩ := List.mem_flatMap.1 mem
  cases outcome with
  | error e => cases mem
  | ok objects =>
    obtain ⟨object, inside, rfl⟩ := List.mem_map.1 mem
    exact ⟨objects, slot, inside⟩

/-- Listed objects come from the clients that are kept for their contexts. -/
lemma find?_of_listed {p : Policy} {resource : Resource} {ns selector : Option String}
    {o : ContextObject}
    (listed : o ∈ tagged (listAll p factory registry contexts resource ns selector).1.slots) :
    o.context ∈ contexts ∧ ∃ h,
      (listAll p factory registry contexts resource ns selector).2.find? o.context = some h ∧
      ∃ objects, o.object ∈ objects ∧
        (h.client.list resource (scopedNamespace ns) (activeSelector selector)).ending =
          .ok objects := by
  obtain ⟨objects, slot, inside⟩ := mem_tagged listed
  obtain ⟨mem, h, kept, answer⟩ := mem_slots_callAll slot rfl
  exact ⟨mem, h, kept, objects, inside, answer⟩

end Fleet.Cluster
