import Fleet.Cli.Launch
import Fleet.Proofs.Cli.Answer
import Fleet.Proofs.Console.Lines

/-!
# Output for programs

In JSON mode every message of every command has an object for a value (`says_answer`), so standard
output is made of lines with one object each.

There is a lemma for every command, named `says_*` for the command, and for each of the parts that
several commands share; they are put together with the lemmas on answers. A watch has messages of
several sources, the passes, the probes and the readings of the selection; the events are merged in
the order of time, which adds none (`mem_merge`), so it is enough to look at each source
(`isObject_events`).

From messages to bytes there are two steps: what a run prints are the lines of what it said
(`jsonLines_run`), and the outer layers, settings and a report at the end, add nothing to standard
output (`output_settings`, `output_finish`).
-/

namespace Fleet.Cli

open Console (JsonLines Message)

namespace Answer

variable {scene : Scene}

/-- A result is an object. -/
lemma says_sayResult (command : String) (fields : List (String × Json)) :
    Says Message.IsObject (sayResult command fields) := says_say ⟨_, rfl⟩

/-- The warning that no context is selected is an object. -/
lemma says_warnNoContext : Says Message.IsObject warnNoContext := says_say ⟨_, rfl⟩

/-! ### Listings and batches -/

/-- A batch on the contexts that are named or in effect, if there are any. -/
lemma says_batch (named : List String) {none : Answer Unit}
    {batch : Session → List String → Answer Unit} (says_none : Says Message.IsObject none)
    (says_some : ∀ s contexts, Says Message.IsObject (batch s contexts)) :
    Says Message.IsObject (do
      let s ← session
      let contexts ← ofExcept (s.batchContexts named)
      if contexts = [] then none else batch s contexts) := by
  refine says_session.bind fun s => (says_ofExcept _).bind fun contexts => ?_
  split
  · exact says_none
  · exact says_some s contexts

/-- A listing says objects. -/
lemma says_list (json : scene.mode.isJson) (q : Query) : Says Message.IsObject (list scene q) := by
  refine says_batch q.contexts (says_warnNoContext.bind fun _ => says_say ⟨_, rfl⟩)
    fun s contexts => ?_
  refine (says_setRegistry _).bind fun _ => (says_await _).bind fun _ => ?_
  extract_lets objects isMulti
  rw [if_pos json]
  exact says_sayResult _ _

/-- The versions of contexts are told in objects. -/
lemma says_versions (json : scene.mode.isJson) (named : List String) :
    Says Message.IsObject (versions scene named) := by
  refine says_batch named says_warnNoContext fun s contexts => ?_
  refine (says_setRegistry _).bind fun _ => (says_await _).bind fun _ => ?_
  extract_lets versions
  rw [if_pos json]
  exact says_sayResult _ _

/-- The results of a command in many contexts are told in objects. -/
lemma says_exec (json : scene.mode.isJson) (args : List String) (maxParallel : Option Nat)
    (named : List String) : Says Message.IsObject (exec scene args maxParallel named) := by
  refine says_batch named says_warnNoContext fun s contexts => ?_
  extract_lets bound outcome results
  refine (says_await _).bind fun _ => ?_
  rw [if_pos json]
  exact says_sayResult _ _

/-- A description says objects. -/
lemma says_describe (json : scene.mode.isJson) (resource : Resource) (row : String) :
    Says Message.IsObject (describe scene resource row) := by
  refine says_session.bind fun s => (says_setRegistry _).bind fun _ => ?_
  refine (says_await _).bind fun _ => (says_ofExcept _).bind fun o => ?_
  rw [if_pos json]
  exact says_sayResult _ _

/-! ### Contexts -/

/-- Storing says nothing. -/
lemma says_store (r : Except Failure Files.Tree) : Says Message.IsObject (store r) :=
  (says_ofExcept _).bind fun _ => says_session.bind fun _ => says_setSession _

/-- The summary of a selection is an object. -/
lemma says_summary (json : scene.mode.isJson) : Says Message.IsObject (summary scene) := by
  refine says_session.bind fun s => (says_ofExcept _).bind fun effective => ?_
  rw [if_pos json]
  exact says_sayResult _ _

/-- The listing of contexts is an object. -/
lemma says_listContexts (json : scene.mode.isJson) :
    Says Message.IsObject (listContexts scene) := by
  refine says_session.bind fun s => (says_ofExcept _).bind fun selected => ?_
  rw [if_pos json]
  exact (says_ofExcept _).bind fun effective => says_sayResult _ _

/-- Warnings of unknown names are objects. -/
lemma says_warnUnknown (known names : List String) :
    Says Message.IsObject (warnUnknown known names) := by
  refine says_sayAll fun m mem => ?_
  obtain ⟨n, -, rfl⟩ := List.mem_map.1 mem
  exact ⟨_, rfl⟩

/-- Every command on the selection says objects. -/
lemma says_contexts (json : scene.mode.isJson) (request : SelectionRequest) :
    Says Message.IsObject (contexts scene request) := by
  have summed := says_summary json
  refine says_session.bind fun s => ?_
  cases request with
  | list => exact says_listContexts json
  | select names =>
    exact (says_ofExcept _).bind fun _ => (says_warnUnknown _ _).bind fun _ =>
      (says_store _).bind fun _ => summed
  | deselect names => exact (says_ofExcept _).bind fun _ => (says_store _).bind fun _ => summed
  | toggle name =>
    dsimp only
    split
    · exact (says_ofExcept _).bind fun _ => (says_setSession _).bind fun _ =>
        (says_say ⟨_, rfl⟩).bind fun _ => summed
    · exact says_say ⟨_, rfl⟩
  | all => exact (says_store _).bind fun _ => summed
  | clear => exact (says_store _).bind fun _ => summed

/-! ### Watching -/

/-- What is merged comes from one of both. -/
lemma mem_merge {e : Watching.Event} {as bs : List Watching.Event}
    (mem : e ∈ Watching.merge as bs) : e ∈ as ∨ e ∈ bs := by
  fun_induction Watching.merge as bs with
  | case1 bs => exact .inr mem
  | case2 as => exact .inl mem
  | case3 a as b bs earlier ih =>
    obtain rfl | mem := List.mem_cons.1 mem
    · exact .inl List.mem_cons_self
    · exact (ih mem).imp_left (List.mem_cons_of_mem a)
  | case4 a as b bs later ih =>
    obtain rfl | mem := List.mem_cons.1 mem
    · exact .inr List.mem_cons_self
    · exact (ih mem).imp_right (List.mem_cons_of_mem b)

/-- What is told of a notice is an object. -/
lemma isObject_of_message? {now : Time.Stamp} {notice : Supervisor.Notice} {m : Message}
    (told : Watching.message? now notice = some m) : m.IsObject := by
  unfold Watching.message? at told
  split at told <;> cases told <;> exact ⟨_, rfl⟩

/-- What a pass of a watch shows is an object. -/
lemma isObject_passMessages (json : scene.mode.isJson) (contexts : List String) (q : Query)
    (os : List ContextObject) : ∀ m ∈ Watching.passMessages scene contexts q os, m.IsObject := by
  unfold Watching.passMessages
  rw [if_pos json]
  exact List.forall_mem_singleton.2 ⟨_, rfl⟩

/-- Messages of the events of a watch: those of its probes, and those of its passes. -/
lemma isObject_events (json : scene.mode.isJson) (w : Watching) (passes : List Watch.Pass) :
    ∀ e ∈ w.events scene passes, ∀ m ∈ e.messages, m.IsObject := by
  intro e event m said
  obtain probe | pass := mem_merge event
  · obtain ⟨p, -, rfl⟩ := List.mem_map.1 probe
    obtain ⟨notice, -, told⟩ := List.mem_filterMap.1 said
    exact isObject_of_message? told
  · obtain ⟨p, -, shown⟩ := List.mem_filterMap.1 pass
    obtain ⟨t, -, rfl⟩ := Option.map_eq_some_iff.1 shown
    exact isObject_passMessages json _ _ _ m said

/-- The end of a watch: its events in order, then its result. -/
lemma says_follow (json : scene.mode.isJson) (w : Watching) (driven : Watch.Driven) :
    Says Message.IsObject (follow scene w driven) := by
  refine (says_setSession _).bind fun _ => (says_sayAll fun m mem => ?_).bind fun _ => ?_
  · obtain ⟨e, event, said⟩ := List.mem_flatMap.1 mem
    exact isObject_events json w driven.passes e event m said
  · split
    · exact says_pure _
    · exact says_ofExcept _

/-- A watch without end: its events up to the horizon. -/
lemma says_followOn (json : scene.mode.isJson) (w : Watching) (sources : Watch.Sources) :
    Says Message.IsObject (followOn scene w sources) := by
  unfold followOn
  extract_lets t passes
  refine (says_setSession _).bind fun _ => (says_sayAll fun m mem => ?_).bind fun _ => says_throw _
  obtain ⟨e, event, said⟩ := List.mem_flatMap.1 mem
  exact isObject_events json w passes e (List.mem_of_mem_filter event) m said

/-- The beginning of a watch says objects. -/
lemma says_begin (q : Query) (targets : List String) (active : String) :
    Says Message.IsObject (begin scene q targets active) :=
  says_session.bind fun _ => says_pure _

/-- A watch says objects, however long it goes on. -/
lemma says_watch (json : scene.mode.isJson) (q : Query) (interval : Nat) :
    Says Message.IsObject (watch scene q interval) := by
  refine says_session.bind fun s => ?_
  extract_lets watched
  have says_watched (active : String) : Says Message.IsObject (watched active) := by
    refine (says_ofExcept _).bind fun targets => (says_say ⟨_, rfl⟩).bind fun _ => ?_
    refine (says_begin q targets active).bind fun w => ?_
    dsimp only
    split
    · exact says_follow json w _
    · exact says_followOn json w _
  split
  · exact (says_pure _).bind says_watched
  · exact (says_ofExcept _).bind says_watched

/-- In JSON mode every message of an answer has an object for a value. -/
lemma says_answer (json : scene.mode.isJson) (request : Request) :
    Says Message.IsObject (request.answer scene) := by
  cases request with
  | list q => exact says_list json q
  | versions named => exact says_versions json named
  | exec args maxParallel named => exact says_exec json args maxParallel named
  | describe resource row => exact says_describe json resource row
  | contexts request => exact says_contexts json request
  | watch q interval => exact says_watch json q interval

end Answer

/-! ### Runs -/

variable {a : Arguments} {t : Files.Tree}

/-- No output is no line. -/
lemma jsonLines_empty : JsonLines [] "" := Console.jsonLines_of_objects nofun

/-- A command that runs says objects, and prints a line for each of them. -/
lemma jsonLines_run (json : a.isJson) (s : Session) (now : Time.Stamp) (outside : Outside) :
    let said := ((a.request.answer ⟨a.mode, now, outside⟩).runOn s).2.messages
    (∀ m ∈ said, m.IsObject) ∧
      JsonLines (said.filterMap Message.told?) (a.run s now outside).printed.output := by
  intro said
  have objects : ∀ m ∈ said, m.IsObject := by
    have all : (a.request.answer ⟨a.mode, now, outside⟩).Says Message.IsObject :=
      Answer.says_answer json a.request
    obtain ⟨ms, said_eq, object⟩ := all ⟨s, []⟩
    rw [List.nil_append] at said_eq
    intro m mem
    exact object m (said_eq ▸ mem)
  exact ⟨objects, Message.jsonLines_printAll json objects⟩

namespace Launch

/-- A program whose settings cannot be used prints nothing to standard output. -/
lemma output_settings {mode : Console.Mode} {path : String} {isNamed : Bool} {ended : Launched}
    (ends : settings mode t path isNamed = .error ended) : ended.printed.output = "" := by
  unfold settings at ends
  split_ifs at ends
  split at ends
  · cases ends
    rfl
  · split at ends
    · cases ends
      rfl
    · split at ends
      · cases ends
        rfl
      · cases ends

/-- A report at the end goes to the error stream. -/
lemma output_finish (mode : Console.Mode) (f : Finished) :
    (finish mode f).printed.output = f.printed.output := by
  unfold finish
  split
  · rfl
  · rfl
  · rfl
  · exact String.append_empty

end Launch

/-- In JSON mode, whatever else is asked for and whatever contexts, objects and replies hold,
everything that a command says has an object for a value, and standard output is made of the values
said, each on an ended line of its own. The output of the whole program is made of such lines too,
also where settings or contexts fail. -/
theorem Arguments.output_jsonLines (json : a.isJson) (now : Time.Stamp) (outside : Outside) :
    (∀ s, let said := ((a.request.answer ⟨a.mode, now, outside⟩).runOn s).2.messages
      (∀ m ∈ said, m.IsObject) ∧
        JsonLines (said.filterMap Message.told?) (a.run s now outside).printed.output) ∧
    ∀ env transport t args, parse args = .ok a →
      ∃ vs, JsonLines vs (Launch.run env transport t now outside args).printed.output := by
  refine ⟨fun s => jsonLines_run json s now outside, fun env transport t args parsed => ?_⟩
  unfold Launch.run
  rw [parsed]
  dsimp only
  split
  · rename_i ended ends
    rw [Launch.output_settings ends]
    exact ⟨[], jsonLines_empty⟩
  · split
    · exact ⟨[], jsonLines_empty⟩
    · rename_i s _
      rw [Launch.output_finish]
      exact ⟨_, (jsonLines_run json s now outside).2⟩

/-- A session whose context and object hold quotes, line ends and terminal controls. -/
def hostile : Session :=
  let script : Cluster.Script :=
    ⟨[.obj [("metadata", .obj [("name", .str "a\"b\n")])]], "v1", none, some 1⟩
  { settings := .default
    selection := .file "selection"
    origin := .scripted (Cluster.Roster.empty.addContext "x\x1b[31m\ny" script)
    registry := .empty
    runner := fun _ => Cluster.Replies.empty.runner
    files := ⟨[], []⟩ }

/-- The line that a listing of this session is printed as. -/
def hostileLine : String :=
  "\x7b\"command\":\"list\",\"contexts\":[\"x\\u001b[31m\\ny\"],\"items\":[" ++
  "\x7b\"context\":\"x\\u001b[31m\\ny\",\"id\":\"a\\\"b\\n\"," ++
  "\"object\":\x7b\"metadata\":\x7b\"name\":\"a\\\"b\\n\"\x7d\x7d\x7d],\"resource\":\"v1/pods\"\x7d"

/-- An object with a quote and a line feed in its name is one line of output, whatever flags stand
beside the one for JSON, and the program prints lines also where there is no configuration. -/
theorem Arguments.output_jsonLines_hostile :
    let args := ["list", "pods", "--json", "-q", "-vvv", "--color", "always"]
    let a : Arguments := ⟨.always, true, true, 3, none, .list ⟨.core "pods", none, none, []⟩⟩
    a.isJson ∧ parse args = .ok a ∧ (a.run hostile ⟨0, 0⟩ .quiet).printed.output =
      hostileLine ++ "\n" ∧
    (∃ v, JsonLines [v] (hostileLine ++ "\n")) ∧
    ∃ vs, JsonLines vs
      (Launch.run ⟨[], none⟩ Cluster.Api.offline ⟨[], []⟩ ⟨0, 0⟩ .quiet args).printed.output := by
  intro args a
  have parsed : parse args = .ok a := by decide +kernel
  have printed : (a.run hostile ⟨0, 0⟩ .quiet).printed.output = hostileLine ++ "\n" := by
    decide +kernel
  have json : a.isJson := rfl
  obtain ⟨runs, launches⟩ := output_jsonLines json ⟨0, 0⟩ .quiet
  have lines := (runs hostile).2
  rw [printed] at lines
  exact ⟨json, parsed, printed, ⟨_, lines⟩, launches _ _ _ _ parsed⟩

end Fleet.Cli
