import Fleet.Proofs.Cluster.Batch
import Fleet.Proofs.Command

/-!
# Commands in many contexts

A command in many contexts starts one process for each of them, in input order, with the arguments
that name the context, and reports each in its place, whatever the order in which the processes end
(`commandResults_inOrder`).

Nothing here is about one run of the pool. The batch is any that the tasks yield
(`Dispatch.Yields`), and two lemmas say what there is to know of it: the processes it started, in
the order of its admissions (`started_eq`), and its slots (`slots_commands`). What one result
reports of its process is the relation `Reports`, stated by cases on how the process ends: too late,
not started, or finished.
-/

namespace Fleet.Cluster

variable {p : Policy} {runner : Runner} {contexts args : List String} {context : String} {m : Nat}
  {timeout : Option Nat}

/-- Argument lists of a command, one for each context, in input order. -/
def commandLines (contexts args : List String) : List (List String) :=
  contexts.map fun c => Command.injectContext c args

/-- Results of a batch of commands. -/
def commandResults (b : Dispatch.Batch String) : List CommandResult :=
  b.slots.map CommandResult.ofSlot

/-- The time limit is set if a process never ends. -/
def ProcessesEnd (p : Policy) (runner : Runner) (contexts args : List String) : Prop :=
  p.commandTimeout.isSome ∨ ∀ c ∈ contexts, (runner (Command.injectContext c args)).delay.isSome

/-- What a result reports of a process that was waited for: that it took too long, or else what it
came to. -/
inductive Reports (timeout : Option Duration) (context : String) :
    Running → CommandResult → Prop where
  | late {r : Running} {t : Duration} :
    timeout = some t →
    (∀ d, r.delay = some d → t.millisUp < d) →
    Reports timeout context r
      ⟨context, (Failure.timeout context (.ofMillis t.millisUp)).message,
        some (.timeout context (.ofMillis t.millisUp))⟩
  | inTime {r : Running} {d : Nat} {result : CommandResult} :
    r.delay = some d →
    (∀ t, timeout = some t → d ≤ t.millisUp) →
    Command.Folds context r.result result →
    Reports timeout context r result

/-- A failure that is reported names the context, and its wording is the output. -/
lemma Reports.failure {r : Running} {result : CommandResult}
    (reports : Reports p.commandTimeout context r result) {e : Failure}
    (failed : result.failure = some e) : e.context? = some context ∧ result.output = e.message := by
  cases reports with
  | late => cases failed; exact ⟨rfl, rfl⟩
  | inTime _ _ folds => exact folds.failure failed

/-- A command in many contexts is one batch with a task for every context; its slots become the
results. -/
lemma commandAll_eq : commandAll p runner contexts args m =
    let b := Dispatch.run (commandLimits p m) (contexts.map (commandTask runner args))
    ⟨⟨b.slots, b.spans, b.elapsed⟩, started args b⟩ := rfl

/-- Where every process ends or is cut off, so does every task of the batch. -/
lemma ProcessesEnd.allEnd (ends : ProcessesEnd p runner contexts args) :
    Dispatch.AllEnd (commandLimits p m).timeout (contexts.map (commandTask runner args)) := by
  refine ends.imp (fun limit => ?_) fun delays t mem => ?_
  · show (p.commandTimeout.map (·.millisUp)).isSome
    rwa [Option.isSome_map]
  · obtain ⟨c, named, rfl⟩ := List.mem_map.1 mem
    exact delays c named

/-- The outcome of a task is that of its process, unless it is cut off. -/
lemma outcome_commandTask : (commandTask runner args context).outcome timeout =
    if Dispatch.isCutOff timeout (runner (Command.injectContext context args)).delay then
      .error (.timeout context (.ofMillis (timeout.getD 0)))
    else Command.fold context (runner (Command.injectContext context args)).result := by
  unfold Dispatch.Task.outcome
  show (if _ then _ else _) = _
  congr 1
  unfold commandTask
  dsimp only
  cases Command.fold context (runner (Command.injectContext context args)).result with
  | ok s => rfl
  | error e => rfl

/-- The slot of a context reports its process. -/
lemma reports_commandTask (ends : ProcessesEnd p runner contexts args) (mem : context ∈ contexts) :
    Reports p.commandTimeout context (runner (Command.injectContext context args))
      (.ofSlot
        ⟨context, (commandTask runner args context).outcome (commandLimits p m).timeout⟩) := by
  have answers : p.commandTimeout.isSome ∨
      (runner (Command.injectContext context args)).delay.isSome :=
    ends.imp id fun delays => delays context mem
  have limits : (commandLimits p m).timeout = p.commandTimeout.map (·.millisUp) := rfl
  rw [outcome_commandTask, limits]
  obtain ⟨cut, t, limit, longer⟩ | ⟨inTime, d, delay, within⟩ := late_or_inTime answers
  · rw [if_pos cut, limit, Option.map_some, Option.getD_some]
    have late : Reports p.commandTimeout context (runner (Command.injectContext context args)) _ :=
      .late limit longer
    rwa [limit] at late
  · rw [if_neg inTime]
    exact .inTime delay within (Command.folds_fold _ _)

/-- A batch of commands that has come to its end has started a process for every context, in input
order. -/
lemma started_eq {b : Dispatch.Batch String}
    (yields : Dispatch.Yields (commandLimits p m) (contexts.map (commandTask runner args)) b)
    (ends : ProcessesEnd p runner contexts args) : started args b = commandLines contexts args := by
  unfold started commandLines
  rw [yields.admitted_eq ends.allEnd]
  refine List.ext_getElem? fun i => ?_
  simp only [List.getElem?_map, List.getElem?_mapIdx, Option.map_map]
  rfl

/-- The slots of a batch of commands are those that its tasks have alone. -/
lemma slots_commands {b : Dispatch.Batch String}
    (yields : Dispatch.Yields (commandLimits p m) (contexts.map (commandTask runner args)) b)
    (ends : ProcessesEnd p runner contexts args) :
    b.elapsed.isSome ∧ b.slots = contexts.map fun c =>
      ⟨c, (commandTask runner args c).outcome (commandLimits p m).timeout⟩ := by
  obtain ⟨pool, -, -, -, rfl⟩ := yields.final ends.allEnd
  refine ⟨rfl, ?_⟩
  rw [List.map_map]
  rfl

/-- Replies that come in time, too late, with a complaint or not at all. -/
def desk : Replies :=
  Replies.empty
    |>.set "a" ⟨some 60, .ok ⟨true, some 0, "fine\n", "careful"⟩⟩
    |>.set "b" ⟨some 5, .ok ⟨false, some 1, "half", "  refused\n"⟩⟩
    |>.set "c" ⟨some 0, .error "not found"⟩
    |>.set "d" ⟨some 81, .ok ⟨true, some 0, "late", ""⟩⟩
    |>.set "e" ⟨some 80, .ok ⟨false, none, "", " \n"⟩⟩

/-- A policy that waits eighty milliseconds for a command. -/
def patient : Policy := { Policy.default with commandTimeout := some (Duration.ofMillis 80) }

/-- A command in many contexts starts one process for each position, in input order, with the
context flag right before the first `--` or behind all arguments. Its results stand in the same
order: each says that the process took too long or what it came to, and a failure names its context
and is what is shown. How many processes run at once changes nothing. -/
theorem commandResults_inOrder (p : Policy) (runner : Runner) (contexts args : List String)
    (m : Nat) (ends : ProcessesEnd p runner contexts args) :
    (∃ b, Dispatch.Yields (commandLimits p m) (contexts.map (commandTask runner args)) b) ∧
    ∀ b, Dispatch.Yields (commandLimits p m) (contexts.map (commandTask runner args)) b →
      started args b = commandLines contexts args ∧
      List.Forall₂ (fun c line => Command.Injected c args line) contexts (started args b) ∧
      b.elapsed.isSome ∧
      List.Forall₂
        (fun c r => Reports p.commandTimeout c (runner (Command.injectContext c args)) r ∧
          ∀ e, r.failure = some e → e.context? = some c ∧ r.output = e.message)
        contexts (commandResults b) ∧
      ∀ m', (commandAll p runner contexts args m').slots = b.slots ∧
        (commandAll p runner contexts args m').started = started args b := by
  refine ⟨⟨_, Dispatch.run_yields _ _⟩, fun b yields => ?_⟩
  have lines := started_eq yields ends
  obtain ⟨ended, slots⟩ := slots_commands yields ends
  refine ⟨lines, ?_, ended, ?_, fun m' => ?_⟩
  · rw [lines]
    refine List.forall₂_map_right_iff.2 (List.forall₂_same.2 fun c _ => ?_)
    exact Command.injected_injectContext c args
  · unfold commandResults
    rw [slots, List.map_map]
    refine List.forall₂_map_right_iff.2 (List.forall₂_same.2 fun c mem => ?_)
    have reports := reports_commandTask (m := m) ends mem
    exact ⟨reports, fun e failed => reports.failure failed⟩
  · have run := Dispatch.run_yields (commandLimits p m') (contexts.map (commandTask runner args))
    rw [commandAll_eq, slots, lines]
    exact ⟨(slots_commands run ends).2, started_eq run ends⟩

/-- A command with separators of its own, in contexts that meet every case. -/
theorem commandResults_inOrder_desk :
    ProcessesEnd patient desk.runner ["a", "d", "b", "c", "e", "a"] ["exec", "p", "--", "sh", "--",
      "x"] ∧
    ∃ b, Dispatch.Yields (commandLimits patient 2)
        (["a", "d", "b", "c", "e", "a"].map
          (commandTask desk.runner ["exec", "p", "--", "sh", "--", "x"])) b ∧
      (started ["exec", "p", "--", "sh", "--", "x"] b).take 2 =
        [["exec", "p", "--context", "a", "--", "sh", "--", "x"],
          ["exec", "p", "--context", "d", "--", "sh", "--", "x"]] ∧
      (commandResults b).map (fun r => (r.context, r.failure)) =
        [("a", none), ("d", some (.timeout "d" (Duration.ofMillis 80))),
          ("b", some (.process "b" "refused")), ("c", some (.process "c" "not found")),
          ("e", some (.process "e" "terminated by signal")), ("a", none)] := by
  have ends : ProcessesEnd patient desk.runner ["a", "d", "b", "c", "e", "a"]
      ["exec", "p", "--", "sh", "--", "x"] := .inl rfl
  obtain ⟨⟨b, yields⟩, law⟩ := commandResults_inOrder patient desk.runner _ _ 2 ends
  obtain ⟨lines, -, -, -, same⟩ := law b yields
  refine ⟨ends, b, yields, ?_, ?_⟩
  · rw [lines]
    decide
  · unfold commandResults
    rw [← (same 2).1]
    decide

end Fleet.Cluster
