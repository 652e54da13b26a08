import Fleet.Cluster.Registry
import Fleet.Cluster.Runner
import Fleet.Dispatch.Run
import Fleet.Row

/-!
# Batches over many contexts

Listings, versions and commands run once per context under a policy of bounds and time limits. A row
identifier leads back to the client of its context.

A batch looks up the client of every context, makes a task of each and runs them in a pool. What
fails does so in its own slot. Listings are joined in the order of the contexts (`tagged`), versions
are put into a map with a sentinel for what is not known (`keyed`), and results of commands stay in
their places.

Processes are started as their tasks are admitted to the pool, so the order in which they start is
that of admissions, whatever the order of their ends (`started`).
-/

namespace Fleet.Cluster

/-- Bounds and time limits of batches. -/
structure Policy where
  maxParallel : Nat
  commandMaxParallel : Nat
  versionTimeout : Duration
  listTimeout : Option Duration
  commandTimeout : Option Duration
  deriving Repr, DecidableEq

/-- Policy when nothing is configured. -/
def Policy.default : Policy := ⟨10, 10, Duration.ofMillis 5000, none, none⟩

/-- Task that makes one call through a looked-up client. -/
def taskOf {α : Type} (context : String) (call : Client → Call α) :
    Except Failure Handle → Dispatch.Task α
  | .error e => ⟨context, some 0, .failure e⟩
  | .ok h =>
    let c := call h.client
    ⟨context, c.delay, match c.ending with
      | .ok a => .value a
      | .error e => .failure e⟩

/-- A finished batch of calls: its slots, the times of the calls that were made, and its length. -/
structure Outcome (α : Type) where
  slots : List (Slot α)
  calls : List Dispatch.Span
  elapsed : Option Nat

/-- One call per context. -/
def callAll {α : Type} (limits : Dispatch.Limits) (factory : Factory) (registry : Registry)
    (contexts : List String) (call : Client → Call α) : Outcome α × Registry :=
  let (handles, registry) := registry.getAll factory contexts
  let tasks := (contexts.zip handles).map fun (c, h) => taskOf c call h
  let batch := Dispatch.run limits tasks
  let calls := (handles.zip batch.spans).filterMap fun (h, s) =>
    match h with
    | .ok _ => some s
    | .error _ => none
  (⟨batch.slots, calls, batch.elapsed⟩, registry)

/-- Objects of the slots that succeeded, each tagged with its context, in slot order. -/
def tagged (slots : List (Slot (List Json))) : List ContextObject :=
  slots.flatMap fun s =>
    match s.outcome with
    | .ok objects => objects.map (⟨s.context, ·⟩)
    | .error _ => []

/-- Value of each context, a sentinel for those that failed; the last of equal contexts counts. -/
def keyed (sentinel : String) (slots : List (Slot String)) : List (String × String) :=
  Json.sortFields (slots.map fun s =>
    (s.context, match s.outcome with
      | .ok v => v
      | .error _ => sentinel))

/-- Value shown for a context that did not answer. -/
def notAvailable : String := "N/A"

/-- A selector that selects; an empty one does not. -/
def activeSelector (selector : Option String) : Option String := selector.filter (· ≠ "")

/-- Objects of a resource in all contexts. -/
def listAll (p : Policy) (factory : Factory) (registry : Registry) (contexts : List String)
    (resource : Resource) (ns selector : Option String) : Outcome (List Json) × Registry :=
  callAll (Dispatch.Limits.new p.maxParallel (p.listTimeout.map (·.millisUp))) factory registry
    contexts (·.list resource (scopedNamespace ns) (activeSelector selector))

/-- Versions of all contexts. -/
def versionsAll (p : Policy) (factory : Factory) (registry : Registry) (contexts : List String) :
    Outcome String × Registry :=
  callAll (Dispatch.Limits.new p.maxParallel (some p.versionTimeout.millisUp)) factory registry
    contexts (·.version)

/-- Task that starts a process for a context and waits for it. -/
def commandTask (runner : Runner) (args : List String) (context : String) : Dispatch.Task String :=
  let r := runner (Command.injectContext context args)
  { context, delay := r.delay
    ending := match Command.fold context r.result with
      | .ok s => .value s
      | .error e => .failure e }

/-- Limits of a batch of commands. -/
def commandLimits (p : Policy) (maxParallel : Nat) : Dispatch.Limits :=
  .new maxParallel (p.commandTimeout.map (·.millisUp))

/-- Argument lists with which a batch started processes, in that order: a task starts its own as
soon as it is admitted. -/
def started (args : List String) (b : Dispatch.Batch String) : List (List String) :=
  b.admitted.map fun j => Command.injectContext j.task.context args

/-- A batch of commands, and the argument lists with which processes were started for it. -/
structure Commanded extends Outcome String where
  started : List (List String)

/-- A command in all contexts. -/
def commandAll (p : Policy) (runner : Runner) (contexts args : List String) (maxParallel : Nat) :
    Commanded :=
  let batch := Dispatch.run (commandLimits p maxParallel) (contexts.map (commandTask runner args))
  ⟨⟨batch.slots, batch.spans, batch.elapsed⟩, started args batch⟩

/-- Context and path that a row stands for; a row without context belongs to the active one. -/
def rowTarget (row : String) (active : Option String) : Except Failure (String × String) :=
  let (context, path) := Row.split row
  if context = "" then
    match active with
    | some a => .ok (a, path)
    | none => .error (.unresolved "" ("row " ++ row ++ " has no context and no context is active"))
  else .ok (context, path)

/-- Client and path that a row stands for. -/
def route (factory : Factory) (registry : Registry) (row : String) (active : Option String) :
    Except Failure (Handle × String) × Registry :=
  match rowTarget row active with
  | .error e => (.error e, registry)
  | .ok (context, path) =>
    let (h, registry) := registry.get factory context
    (h.map (·, path), registry)

/-- Namespace and name of a path. -/
def pathParts (path : String) : Option String × String :=
  match Text.cut? '/' path with
  | some (ns, name) => (some ns, name)
  | none => (none, path)

/-- The object of a row, with the call made for it if there was one. -/
def getByRow (factory : Factory) (registry : Registry) (resource : Resource) (row : String)
    (active : Option String) : Option Nat × Except Failure ContextObject × Bool × Registry :=
  match route factory registry row active with
  | (.error e, registry) => (some 0, .error e, false, registry)
  | (.ok (h, path), registry) =>
    let (ns, name) := pathParts path
    let c := h.client.get resource ns name
    (c.delay, c.ending.map (⟨h.client.context, ·⟩), true, registry)

/-- Whether a context answers a request for its version within a time limit, and the milliseconds
until that is known. -/
def versionProbe (client : Except Failure Client) (limit : Duration) : Bool × Nat :=
  match client with
  | .error _ => (false, 0)
  | .ok c =>
    let task : Dispatch.Task String := ⟨c.context, c.version.delay, match c.version.ending with
      | .ok v => .value v
      | .error e => .failure e⟩
    let limit := some limit.millisUp
    ((task.outcome limit).isOk, (Dispatch.holdTime limit task.delay).getD 0)

end Fleet.Cluster
