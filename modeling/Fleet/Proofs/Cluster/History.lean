import Fleet.Proofs.Cluster.Commands
import Fleet.Proofs.Cluster.Listing
import Mathlib.Data.List.Induction

/-!
# Histories of kept clients

What is asked of many contexts, one thing after another, and which clients are kept after that. The
look-ups of one batch are made one at a time, in any order. The clients kept are those that were
looked up since the last reset and could be made; each was made once, follows the script set at that
time, and is what every look-up yields (`cache_follows_history`).

`Performs` says what one operation may do, with the look-ups in the order in which they are made,
and `Runs` what several do one after another. An operation changes the registry only through its
look-ups, or resets it (`Performs.inv`); `LooksUp` collects what that means for one operation, and
`FollowsHistory` what holds after any number of them since the last reset. The latter is kept by
every operation (`FollowsHistory.concat`), so the run lemma is an induction that begins anew at
every reset (`Runs.keptSinceReset`).

The operations of the program itself are among those allowed (`performs_perform`, `exists_runs`),
with their look-ups in input order.
-/

namespace Fleet.Cluster

/-- What is asked of many contexts, and what happens to the clients and to the scripts meanwhile. -/
inductive Operation where
  | list (contexts : List String) (resource : Resource) (ns selector : Option String)
  | versions (contexts : List String)
  | command (contexts args : List String) (maxParallel : Nat)
  | route (row : String) (active : Option String)
  | getByRow (resource : Resource) (row : String) (active : Option String)
  | reset
  /-- Clients made from now on follow another script. -/
  | script (context : String) (s : Script)

/-- What an operation answers. -/
inductive Answer where
  | objects (os : List ContextObject)
  | versions (fields : List (String × String))
  | results (rs : List CommandResult)
  | routed (target : Except Failure (Handle × String))
  | object (o : Except Failure ContextObject)
  | none

/-- The scripts that are set, and the clients that are kept. -/
structure World where
  roster : Roster
  registry : Registry

/-- The context that a row leads to. -/
def rowContexts (row : String) (active : Option String) : List String :=
  match rowTarget row active with
  | .ok (context, _) => [context]
  | .error _ => []

/-- Contexts whose clients an operation looks up. -/
def Operation.contexts : Operation → List String
  | list contexts _ _ _ => contexts
  | versions contexts => contexts
  | route row active => rowContexts row active
  | getByRow _ row active => rowContexts row active
  | command _ _ _ | reset | script _ _ => []

/-- The call that a listing makes. -/
def listCall (resource : Resource) (ns selector : Option String) (client : Client) :
    Call (List Json) :=
  client.list resource (scopedNamespace ns) (activeSelector selector)

/-- Limits of a batch of listings. -/
def listLimits (p : Policy) : Dispatch.Limits := .new p.maxParallel (p.listTimeout.map (·.millisUp))

/-- Limits of a batch of requests for versions. -/
def versionLimits (p : Policy) : Dispatch.Limits :=
  .new p.maxParallel (some p.versionTimeout.millisUp)

/-- A batch that comes to its end. Its tasks look their clients up one at a time, in whatever order
they come to it, and each of them makes its call through what its own look-up yielded. -/
inductive Batched {α : Type} (limits : Dispatch.Limits) (factory : Factory) (call : Client → Call α)
    (contexts : List String) (r : Registry) :
    List (String × Except Failure Handle) → List (Slot α) → Registry → Prop where
  | intro {order : List String} {placed : List (String × Except Failure Handle)}
      {b : Dispatch.Batch α} :
    order.Perm contexts →
    placed.Perm (order.zip (r.getAll factory order).1) →
    placed.map (·.1) = contexts →
    Dispatch.Yields limits (placed.map fun x => taskOf x.1 call x.2) b →
    b.elapsed.isSome →
    Batched limits factory call contexts r (order.zip (r.getAll factory order).1) b.slots
      (r.getAll factory order).2

/-- An operation from one world to the next, with its look-ups in the order in which they were made
and what it answers. -/
inductive Performs (p : Policy) (runner : Runner) :
    World → Operation → List (String × Except Failure Handle) → Answer → World → Prop where
  | list {roster r contexts resource ns selector looked slots r'} :
    Batched (listLimits p) roster.factory (listCall resource ns selector) contexts r looked
      slots r' →
    Performs p runner ⟨roster, r⟩ (.list contexts resource ns selector) looked
      (.objects (tagged slots))
      ⟨roster, r'⟩
  | versions {roster r contexts looked slots r'} :
    Batched (versionLimits p) roster.factory (·.version) contexts r looked slots r' →
    Performs p runner ⟨roster, r⟩ (.versions contexts) looked (.versions (keyed notAvailable slots))
      ⟨roster, r'⟩
  | command {w contexts args m b} :
    Dispatch.Yields (commandLimits p m) (contexts.map (commandTask runner args)) b →
    b.elapsed.isSome →
    Performs p runner w (.command contexts args m) [] (.results (commandResults b)) w
  | route {roster r row active} :
    Performs p runner ⟨roster, r⟩ (.route row active)
      ((rowContexts row active).zip (r.getAll roster.factory (rowContexts row active)).1)
      (.routed (Cluster.route roster.factory r row active).1)
      ⟨roster, (Cluster.route roster.factory r row active).2⟩
  | getByRow {roster r resource row active} :
    (Cluster.getByRow roster.factory r resource row active).1.isSome →
    Performs p runner ⟨roster, r⟩ (.getByRow resource row active)
      ((rowContexts row active).zip (r.getAll roster.factory (rowContexts row active)).1)
      (.object (Cluster.getByRow roster.factory r resource row active).2.1)
      ⟨roster, (Cluster.getByRow roster.factory r resource row active).2.2.2⟩
  | reset {roster r} :
    Performs p runner ⟨roster, r⟩ .reset [] .none ⟨roster, r.reset⟩
  | script {roster r context s} :
    Performs p runner ⟨roster, r⟩ (.script context s) [] .none ⟨roster.setScript context s, r⟩

/-- Operations one after another, with all their look-ups in order. -/
inductive Runs (p : Policy) (runner : Runner) (w : World) :
    List Operation → List (String × Except Failure Handle) → World → Prop where
  | nil : Runs p runner w [] [] w
  | concat {ops log v op looked a v'} :
    Runs p runner w ops log v →
    Performs p runner v op looked a v' →
    Runs p runner w (ops ++ [op]) (log ++ looked) v'

variable {p : Policy} {runner : Runner} {factory : Factory} {r r' : Registry} {context : String}
  {h : Handle}
  {looked log : List (String × Except Failure Handle)} {x : Except Failure Handle}
    {contexts : List String}
  {op : Operation} {ops : List Operation} {a : Answer} {w v : World}

/-! ### Look-ups -/

/-- The contexts of look-ups one after another are those that are looked up. -/
lemma map_fst_lookups (factory : Factory) (r : Registry) (contexts : List String) :
    (contexts.zip (r.getAll factory contexts).1).map (·.1) = contexts := by
  have same := congrArg (List.map (·.1)) (zip_getAll factory r contexts)
  rw [List.map_map, List.map_map] at same
  exact same.trans (List.map_id contexts)

/-- What a look-up of a batch yields is what it would have yielded on its own. -/
lemma client_of_looked (mem : (context, x) ∈ contexts.zip (r.getAll factory contexts).1) :
    x.map (·.client) = r.clientOf factory context := by
  have seen : (context, x.map (·.client)) ∈ contexts.map fun c => (c, r.clientOf factory c) := by
    rw [← zip_getAll]
    exact List.mem_map.2 ⟨_, mem, rfl⟩
  obtain ⟨c, -, same⟩ := List.mem_map.1 seen
  obtain ⟨rfl, client⟩ := Prod.mk.inj same
  exact client.symm

/-- What a look-up of a batch yields is what another look-up yields afterwards. -/
lemma get_of_looked (mem : (context, x) ∈ contexts.zip (r.getAll factory contexts).1) :
    ((r.getAll factory contexts).2.get factory context).1 = x := by
  cases x with
  | ok h => rw [Registry.get_of_find? (Registry.find?_getAll mem)]
  | error e =>
    have failed : (Except.error e : Except Failure Handle).map (·.client) =
        (r.getAll factory contexts).2.clientOf factory context :=
      (client_of_looked mem).trans Registry.clientOf_getAll.symm
    unfold Registry.clientOf at failed
    cases again : ((r.getAll factory contexts).2.get factory context).1 with
    | ok h => rw [again] at failed; cases failed
    | error e' => rw [again] at failed; cases failed; rfl

/-- A look-up yields the same when it is made again. -/
lemma get_get (factory : Factory) (r : Registry) (context : String) :
    ((r.get factory context).2.get factory context).1 = (r.get factory context).1 :=
  have looked :
      (context, (r.get factory context).1) ∈ [context].zip (r.getAll factory [context]).1 :=
    List.mem_singleton_self _
  get_of_looked looked

/-- Look-ups that all fail change nothing. -/
lemma getAll_of_failed
    (failed : ∀ y ∈ contexts.zip (r.getAll factory contexts).1, ∃ e, y.2 = .error e) :
    (r.getAll factory contexts).2 = r := by
  induction contexts generalizing r with
  | nil => rfl
  | cons c cs ih =>
    obtain ⟨first, rest⟩ := List.forall_mem_cons.1
      (show ∀ y ∈ (c, (r.get factory c).1) :: cs.zip ((r.get factory c).2.getAll factory cs).1,
        _ from failed)
    have unchanged : (r.get factory c).2 = r := by
      obtain ⟨e, fails⟩ := first
      obtain ⟨h, -, got⟩ | ⟨e, -, -, got⟩ | ⟨client, -, -, got⟩ := r.get_cases factory c
      · rw [got]
      · rw [got]
      · rw [got] at fails
        cases fails
    rw [unchanged] at rest
    show ((r.get factory c).2.getAll factory cs).2 = r
    rw [unchanged]
    exact ih rest

/-- A context that is looked up is kept afterwards if its client can be made. -/
lemma isSome_find?_getAll (mem : context ∈ contexts) {client : Client}
    (made : factory context = .ok client) :
    ((r.getAll factory contexts).2.find? context).isSome := by
  rw [← map_fst_lookups factory r contexts] at mem
  obtain ⟨⟨c, x⟩, pair, rfl⟩ := List.mem_map.1 mem
  have yields := client_of_looked pair
  cases x with
  | ok h => rw [Registry.find?_getAll pair]; rfl
  | error e =>
    rw [Registry.clientOf_eq, made] at yields
    cases kept : r.find? c with
    | none => rw [kept] at yields; cases yields
    | some h => rw [kept] at yields; cases yields

/-! ### What an operation does -/

/-- The scripts that an operation leaves. -/
def Operation.scripts (roster : Roster) : Operation → Roster
  | script context s => roster.setScript context s
  | _ => roster

/-- An answer in which every call is made through the client that a look-up of its context
yields. -/
def Operation.answer (p : Policy) (runner : Runner) (look : String → Except Failure Handle) :
    Operation → Answer
  | list contexts resource ns selector =>
    .objects (tagged (contexts.map fun c =>
      ⟨c, Cluster.answer (listLimits p).timeout (listCall resource ns selector) c
        ((look c).map (·.client))⟩))
  | versions contexts =>
    .versions (keyed notAvailable (contexts.map fun c =>
      ⟨c, Cluster.answer (versionLimits p).timeout (·.version) c ((look c).map (·.client))⟩))
  | command contexts args m =>
    .results (contexts.map fun c =>
      .ofSlot ⟨c, (commandTask runner args c).outcome (commandLimits p m).timeout⟩)
  | route row active => .routed do
    let (context, path) ← rowTarget row active
    let h ← look context
    return (h, path)
  | getByRow resource row active => .object do
    let (context, path) ← rowTarget row active
    let h ← look context
    let o ← (h.client.get resource (pathParts path).1 (pathParts path).2).ending
    return ⟨h.client.context, o⟩
  | reset | script _ _ => .none

/-- All that an operation does to its world: a reset, or look-ups of its contexts in some order. -/
lemma Performs.inv (performs : Performs p runner w op looked a v) :
    v.roster = op.scripts w.roster ∧
    (op = .reset ∧ looked = [] ∧ v.registry = w.registry.reset ∨
      op ≠ .reset ∧ ∃ order : List String, order.Perm op.contexts ∧
        looked = order.zip (w.registry.getAll w.roster.factory order).1 ∧
        v.registry = (w.registry.getAll w.roster.factory order).2) := by
  cases performs with
  | list batched =>
    cases batched with
    | intro same _ _ _ _ => exact ⟨rfl, .inr ⟨nofun, _, same, rfl, rfl⟩⟩
  | versions batched =>
    cases batched with
    | intro same _ _ _ _ => exact ⟨rfl, .inr ⟨nofun, _, same, rfl, rfl⟩⟩
  | command _ _ => exact ⟨rfl, .inr ⟨nofun, [], .refl _, rfl, rfl⟩⟩
  | @route roster r row active =>
    refine ⟨rfl, .inr ⟨nofun, rowContexts row active, .refl _, rfl, ?_⟩⟩
    unfold Cluster.route rowContexts
    cases rowTarget row active with
    | error e => rfl
    | ok target => rfl
  | @getByRow roster r resource row active _ =>
    refine ⟨rfl, .inr ⟨nofun, rowContexts row active, .refl _, rfl, ?_⟩⟩
    unfold Cluster.getByRow Cluster.route rowContexts
    cases rowTarget row active with
    | error e => rfl
    | ok target =>
      show _ = (r.get roster.factory target.1).2
      dsimp only
      cases r.get roster.factory target.1 with
      | mk x r' =>
        cases x with
        | error e => rfl
        | ok h => rfl
  | reset => exact ⟨rfl, .inl ⟨rfl, rfl, rfl⟩⟩
  | script => exact ⟨rfl, .inr ⟨nofun, [], .refl _, rfl, rfl⟩⟩

/-- The slots of a batch are what the calls come to that are made through the clients kept after
it. -/
lemma Batched.slots_eq {α : Type} {limits : Dispatch.Limits} {call : Client → Call α}
    {slots : List (Slot α)} (batched : Batched limits factory call contexts r looked slots r') :
    slots = contexts.map fun c =>
      ⟨c, Cluster.answer limits.timeout call c ((r'.get factory c).1.map (·.client))⟩ := by
  cases batched with
  | intro _ placed same yields ended =>
    rw [yields.slots_of_isSome ended, ← same, List.map_map, List.map_map]
    refine List.map_congr_left fun y mem => ?_
    show (⟨_, (taskOf y.1 call y.2).outcome limits.timeout⟩ : Slot α) = _
    rw [context_taskOf, outcome_taskOf]
    show _ = (⟨y.1, Cluster.answer limits.timeout call y.1 _⟩ : Slot α)
    rw [get_of_looked (placed.subset mem)]

/-- An operation answers with what the clients say that are kept after it. -/
lemma Performs.answer_eq (performs : Performs p runner w op looked a v) :
    a = op.answer p runner fun c => (v.registry.get v.roster.factory c).1 := by
  cases performs with
  | list batched => rw [batched.slots_eq]; rfl
  | versions batched => rw [batched.slots_eq]; rfl
  | command yields ended =>
    unfold commandResults Operation.answer
    rw [yields.slots_of_isSome ended, List.map_map, List.map_map]
    rfl
  | @route roster r row active =>
    refine congrArg Answer.routed ?_
    dsimp only
    unfold Cluster.route
    cases rowTarget row active with
    | error e => rfl
    | ok target =>
      show (r.get roster.factory target.1).1.map (·, target.2) =
        ((r.get roster.factory target.1).2.get roster.factory target.1).1.map (·, target.2)
      rw [get_get]
  | @getByRow roster r resource row active _ =>
    refine congrArg Answer.object ?_
    dsimp only
    unfold Cluster.getByRow Cluster.route
    cases rowTarget row active with
    | error e => rfl
    | ok target =>
      have again := get_get roster.factory r target.1
      dsimp only [bind, Except.bind]
      cases got : r.get roster.factory target.1 with
      | mk x r' =>
        rw [got] at again
        cases x with
        | error e =>
          dsimp only [Except.map] at again ⊢
          rw [again]
        | ok h =>
          dsimp only [Except.map] at again ⊢
          rw [again]
          rfl
  | reset => rfl
  | script => rfl

/-! ### What is kept since the last reset -/

/-- The scripts after some operations. -/
def rosterAfter (start : Roster) (ops : List Operation) : Roster :=
  ops.foldl Operation.scripts start

/-- Some operation looked the context up when a client could be made for it. -/
def Obtained (start : Roster) (ops : List Operation) (context : String) : Prop :=
  ∃ done op rest client, ops = done ++ op :: rest ∧ context ∈ op.contexts ∧
    (rosterAfter start done).factory context = .ok client

/-- The script that was set when the context was looked up and a client could be made for the first
time. -/
def FirstScript (start : Roster) (ops : List Operation) (context : String) (s : Script) : Prop :=
  ∃ done op rest, ops = done ++ op :: rest ∧ context ∈ op.contexts ∧ ¬ Obtained start done context ∧
    (rosterAfter start done).script? context = some s ∧
    (rosterAfter start done).factory context = .ok (s.client context)

/-- The clients kept in a world are those that the operations since another one call for, which kept
none. -/
structure FollowsHistory (w₀ : World) (ops : List Operation)
    (log : List (String × Except Failure Handle)) (w : World) : Prop where
  roster : w.roster = rosterAfter w₀.roster ops
  kept : ∀ c, w.registry.contains c ↔ Obtained w₀.roster ops c
  once : w.registry.MadeOnce w₀.registry.made
  /-- Every look-up that yielded a client yielded the one that is kept. -/
  same : ∀ c h, (c, .ok h) ∈ log → w.registry.find? c = some h
  script : ∀ c h, w.registry.find? c = some h →
    ∃ s, FirstScript w₀.roster ops c s ∧ h.client = s.client c

variable {start : Roster} {w₀ : World}

/-- The last operation changes the roster last. -/
lemma rosterAfter_concat :
    rosterAfter start (ops ++ [op]) = op.scripts (rosterAfter start ops) := by
  unfold rosterAfter
  rw [List.foldl_append]
  rfl

/-- A client could be made after an operation if it could before, or if the operation looks it up
and it can be made by the roster of that time. -/
lemma obtained_concat : Obtained start (ops ++ [op]) context ↔
    Obtained start ops context ∨
      context ∈ op.contexts ∧ ∃ client, (rosterAfter start ops).factory context = .ok client := by
  constructor
  · rintro ⟨done, op', rest, client, split, mem, made⟩
    obtain rfl | ⟨rest, last, rfl⟩ := List.eq_nil_or_concat' rest
    · obtain ⟨rfl, same⟩ := List.append_inj' split rfl
      cases same
      exact .inr ⟨mem, client, made⟩
    · rw [← List.cons_append, ← List.append_assoc] at split
      obtain ⟨rfl, -⟩ := List.append_inj' split rfl
      exact .inl ⟨done, op', rest, client, rfl, mem, made⟩
  · rintro (⟨done, op', rest, client, rfl, mem, made⟩ | ⟨mem, client, made⟩)
    · exact ⟨done, op', rest ++ [op], client, List.append_assoc .., mem, made⟩
    · exact ⟨ops, op, [], client, rfl, mem, made⟩

/-- The script that a client follows is settled by the operation that makes it. -/
lemma FirstScript.concat {s : Script} (first : FirstScript start ops context s) :
    FirstScript start (ops ++ [op]) context s := by
  obtain ⟨done, op', rest, rfl, first⟩ := first
  exact ⟨done, op', rest ++ [op], List.append_assoc .., first⟩

/-- A world without clients follows the empty history. -/
lemma followsHistory_nil (empty : w.registry.entries = []) : FollowsHistory w [] [] w := by
  have nothing (c : String) : w.registry.find? c = none := by
    rw [Registry.find?_eq_none_iff, empty]
    exact List.not_mem_nil
  constructor
  · rfl
  · intro c
    unfold Registry.contains
    rw [nothing]
    constructor
    · nofun
    · rintro ⟨done, op, rest, _, split, -⟩
      cases done <;> cases split
  · constructor
    · rw [empty, List.map_nil, List.append_nil]
    · rw [empty]
      exact List.nodup_nil
  · nofun
  · intro c h kept
    rw [nothing] at kept
    cases kept

/-- An operation keeps the clients that the history with it calls for. -/
lemma FollowsHistory.concat (follows : FollowsHistory w₀ ops log w)
    (performs : Performs p runner w op looked a v) (keeps : op ≠ .reset) :
    FollowsHistory w₀ (ops ++ [op]) (log ++ looked) v := by
  obtain ⟨roster, ⟨resets, -⟩ | ⟨-, order, same, rfl, registry⟩⟩ := performs.inv
  · exact absurd resets keeps
  -- look-ups keep what was there before and add what they make
  rw [follows.roster] at roster registry
  constructor
  · rw [roster, rosterAfter_concat]
  · intro c
    rw [obtained_concat, ← follows.kept, registry]
    unfold Registry.contains
    constructor
    · intro kept
      obtain ⟨h, kept⟩ := Option.isSome_iff_exists.1 kept
      obtain before | ⟨mem, -, made⟩ := Registry.find?_of_find?_getAll kept
      · rw [before]
        exact .inl rfl
      · exact .inr ⟨same.subset mem, _, made⟩
    · rintro (before | ⟨mem, client, made⟩)
      · obtain ⟨h, kept⟩ := Option.isSome_iff_exists.1 before
        rw [Registry.find?_getAll_of_find? kept]
        rfl
      · exact isSome_find?_getAll (same.symm.subset mem) made
  · rw [registry]
    exact follows.once.getAll _ _
  · intro c h mem
    rw [registry]
    obtain before | new := List.mem_append.1 mem
    · exact Registry.find?_getAll_of_find? (follows.same c h before)
    · rw [follows.roster] at new
      exact Registry.find?_getAll new
  · intro c h kept
    rw [registry] at kept
    obtain before | ⟨mem, missing, made⟩ := Registry.find?_of_find?_getAll kept
    · obtain ⟨s, first, client⟩ := follows.script c h before
      exact ⟨s, first.concat, client⟩
    · obtain ⟨s, set, client⟩ := Roster.script?_of_factory made
      refine ⟨s, ⟨ops, op, [], rfl, same.subset mem, ?_, set, client ▸ made⟩, client⟩
      rw [← follows.kept]
      unfold Registry.contains
      rw [missing]
      nofun

/-- What an operation does with the clients that are kept. -/
structure LooksUp (p : Policy) (runner : Runner) (w : World) (op : Operation)
    (looked : List (String × Except Failure Handle)) (a : Answer) (v : World) : Prop where
  /-- One look-up is made for every context that the operation names, as often as it does. -/
  contexts : (looked.map (·.1)).Perm op.contexts
  kept : ∀ c x h, (c, x) ∈ looked → w.registry.find? c = some h → x = .ok h
  /-- A context without client is tried with the scripts that are set now, whatever became of it
  before. -/
  tried : ∀ c x, (c, x) ∈ looked → w.registry.find? c = none → x.map (·.client) = w.roster.factory c
  failed : op ≠ .reset → (∀ y ∈ looked, ∃ e, y.2 = .error e) → v.registry = w.registry
  command : ∀ contexts args m, op = .command contexts args m → v.registry = w.registry
  answer : a = op.answer p runner fun c => (v.registry.get v.roster.factory c).1

/-- Whatever an operation does to the clients kept comes of its look-ups, in the order in which they
are made. -/
lemma Performs.looksUp (performs : Performs p runner w op looked a v) :
    LooksUp p runner w op looked a v := by
  obtain ⟨-, ⟨rfl, rfl, registry⟩ | ⟨keeps, order, same, rfl, registry⟩⟩ := performs.inv
  · refine ⟨.nil, ?_, ?_, fun keeps => absurd rfl keeps, nofun, performs.answer_eq⟩
    · exact fun _ _ _ mem => absurd mem List.not_mem_nil
    · exact fun _ _ mem => absurd mem List.not_mem_nil
  · refine ⟨?_, ?_, ?_, ?_, ?_, performs.answer_eq⟩
    · rwa [map_fst_lookups]
    · intro c x h mem kept
      rw [← get_of_looked mem, Registry.get_of_find? (Registry.find?_getAll_of_find? kept)]
    · intro c x mem missing
      rw [client_of_looked mem, Registry.clientOf_eq, missing]
      rfl
    · intro _ failed
      rw [registry]
      exact getAll_of_failed failed
    · rintro contexts args m rfl
      rw [registry, same.eq_nil]
      rfl

/-- What a run keeps in the end follows from its operations since the last reset: each client kept
was made once since then. -/
def KeptSinceReset (p : Policy) (runner : Runner) (start : World) (ops : List Operation)
    (w : World) : Prop :=
  ∃ earlier recent w₀ log₀ log, ops = earlier ++ recent ∧
    (∀ op ∈ earlier.getLast?, op = .reset) ∧ .reset ∉ recent ∧
    Runs p runner start earlier log₀ w₀ ∧ Runs p runner w₀ recent log w ∧
    FollowsHistory w₀ recent log w ∧
    ∀ c, w.registry.madeFor c = w₀.registry.madeFor c + if w.registry.contains c then 1 else 0

/-- From a world without clients on, what is kept in the end follows from the operations since the
last reset. -/
lemma Runs.keptSinceReset (runs : Runs p runner w ops log v) (empty : w.registry.entries = []) :
    KeptSinceReset p runner w ops v := by
  suffices split : ∃ earlier recent w₀ log₀ log, ops = earlier ++ recent ∧
      (∀ op ∈ earlier.getLast?, op = .reset) ∧ .reset ∉ recent ∧
      Runs p runner w earlier log₀ w₀ ∧ Runs p runner w₀ recent log v ∧
        FollowsHistory w₀ recent log v by
    obtain ⟨earlier, recent, w₀, log₀, log, same, last, keeps, before, since, follows⟩ := split
    exact ⟨earlier, recent, w₀, log₀, log, same, last, keeps, before, since, follows,
      follows.once.madeFor⟩
  -- a reset begins a new history; any other operation prolongs the one since the last reset
  induction runs with
  | nil =>
    exact ⟨[], [], w, [], [], rfl, nofun, List.not_mem_nil, .nil, .nil, followsHistory_nil empty⟩
  | @concat ops log v op looked a v' runs performs ih =>
    obtain ⟨-, ⟨rfl, -, registry⟩ | ⟨keeps, -⟩⟩ := performs.inv
    · refine ⟨ops ++ [.reset], [], v', _, [], (List.append_nil _).symm, ?_, List.not_mem_nil,
        runs.concat performs, .nil, followsHistory_nil ?_⟩
      · intro op mem
        rw [List.getLast?_concat] at mem
        exact (Option.mem_some.1 mem).symm
      · rw [registry]
        rfl
    · obtain ⟨earlier, recent, w₀, log₀, log', rfl, last, keep, before, since, follows⟩ := ih
      refine ⟨earlier, recent ++ [op], w₀, log₀, log' ++ looked, List.append_assoc .., last, ?_,
        before, since.concat performs, follows.concat performs keeps⟩
      rw [List.mem_append, List.mem_singleton]
      rintro (mem | same)
      · exact keep mem
      · exact keeps same.symm

/-! ### The operations themselves -/

/-- An operation that is done with: its answer and the world that it leaves. -/
def World.perform (p : Policy) (runner : Runner) (w : World) : Operation → Answer × World
  | .list contexts resource ns selector =>
    let (o, r) := listAll p w.roster.factory w.registry contexts resource ns selector
    (.objects (tagged o.slots), ⟨w.roster, r⟩)
  | .versions contexts =>
    let (o, r) := versionsAll p w.roster.factory w.registry contexts
    (.versions (keyed notAvailable o.slots), ⟨w.roster, r⟩)
  | .command contexts args m =>
    (.results ((commandAll p runner contexts args m).slots.map CommandResult.ofSlot), w)
  | .route row active =>
    let (target, r) := Cluster.route w.roster.factory w.registry row active
    (.routed target, ⟨w.roster, r⟩)
  | .getByRow resource row active =>
    let (_, o, _, r) := Cluster.getByRow w.roster.factory w.registry resource row active
    (.object o, ⟨w.roster, r⟩)
  | .reset => (.none, ⟨w.roster, w.registry.reset⟩)
  | .script context s => (.none, ⟨w.roster.setScript context s, w.registry⟩)

/-- An operation comes to its end. -/
def Operation.Ends (p : Policy) (runner : Runner) (w : World) : Operation → Prop
  | list contexts resource ns selector =>
    CallsEnd (listLimits p).timeout w.roster.factory w.registry contexts
      (listCall resource ns selector)
  | command contexts args _ => ProcessesEnd p runner contexts args
  | getByRow resource row active =>
    (Cluster.getByRow w.roster.factory w.registry resource row active).1.isSome
  | versions _ | route _ _ | reset | script _ _ => True

/-- A batch of calls whose look-ups are made in input order. -/
lemma batched_callAll {α : Type} {limits : Dispatch.Limits} {call : Client → Call α}
    (ends : CallsEnd limits.timeout factory r contexts call) :
    Batched limits factory call contexts r (contexts.zip (r.getAll factory contexts).1)
      (callAll limits factory r contexts call).1.slots (callAll limits factory r contexts call).2 :=
  .intro (.refl _) (.refl _) (map_fst_lookups _ _ _) (Dispatch.run_yields limits _)
    (isSome_elapsed_callAll ends)

/-- The run of an operation is one of those that are allowed. -/
lemma performs_perform (ends : op.Ends p runner w) :
    ∃ looked, Performs p runner w op looked (w.perform p runner op).1
      (w.perform p runner op).2 := by
  cases op with
  | list contexts resource ns selector => exact ⟨_, .list (batched_callAll ends)⟩
  | versions contexts => exact ⟨_, .versions (batched_callAll (.inl rfl))⟩
  | command contexts args m =>
    have run := Dispatch.run_yields (commandLimits p m) (contexts.map (commandTask runner args))
    exact ⟨_, .command run (slots_commands run ends).1⟩
  | route row active => exact ⟨_, .route⟩
  | getByRow resource row active => exact ⟨_, .getByRow ends⟩
  | reset => exact ⟨_, .reset⟩
  | script context s => exact ⟨_, .script⟩

/-- The world that operations leave one after another. -/
def World.performAll (p : Policy) (runner : Runner) (w : World) (ops : List Operation) : World :=
  ops.foldl (fun w op => (w.perform p runner op).2) w

/-- The run of several operations is one of those that are allowed. -/
lemma exists_runs (ends : ∀ op ∈ ops, ∀ v, op.Ends p runner v) :
    ∃ log, Runs p runner w ops log (w.performAll p runner ops) := by
  induction ops using List.reverseRecOn with
  | nil => exact ⟨[], .nil⟩
  | append_singleton ops op ih =>
    obtain ⟨log, runs⟩ := ih fun op' mem => ends op' (List.mem_append_left _ mem)
    obtain ⟨looked, performs⟩ := performs_perform
      (ends op (List.mem_append_right _ (List.mem_singleton_self op)) (w.performAll p runner ops))
    refine ⟨log ++ looked, ?_⟩
    unfold World.performAll at runs performs ⊢
    rw [List.foldl_append]
    exact runs.concat performs

/-- Whatever is asked of many contexts, one thing after another: the clients kept afterwards are
those that were looked up since the last reset and could be made. Each of them was made once since
then, every look-up yielded it, and it follows the script that was set when it was made, so that
every answer comes from there. Failures keep nothing and are tried again; commands look nothing
up. -/
theorem cache_follows_history (p : Policy) (runner : Runner) (start : Roster) (ops : List Operation)
    (log : List (String × Except Failure Handle)) (w : World)
    (runs : Runs p runner ⟨start, .empty⟩ ops log w) :
    KeptSinceReset p runner ⟨start, .empty⟩ ops w ∧
    (∀ op looked a v, Performs p runner w op looked a v → LooksUp p runner w op looked a v) ∧
    (∀ (r : Registry) (factory : Factory) (c : String) (e : Failure),
      (r.get factory c).1 = .error e → (r.get factory c).2 = r) ∧
    ∀ op : Operation, op.Ends p runner w →
      ∃ looked, Performs p runner w op looked (w.perform p runner op).1
        (w.perform p runner op).2 := by
  refine ⟨runs.keptSinceReset rfl, fun _ _ _ _ performs => performs.looksUp, ?_,
    fun _ ends => performs_perform ends⟩
  intro r factory c e failed
  have alone : ∀ y ∈ [c].zip (r.getAll factory [c]).1, ∃ e, y.2 = .error e := by
    intro y mem
    rw [List.mem_singleton.1 mem]
    exact ⟨e, failed⟩
  exact getAll_of_failed alone

/-- Look-ups that hit, miss and fail, before and after a reset and changes of scripts. -/
def restless : List Operation :=
  [.versions ["a", "c"], .reset, .list ["g", "a", "f", "a"] (.core "pods") none none,
    .script "g" ⟨[pod "g1" "z"], "v9", none, some 3⟩, .script "a" ⟨[], "v8", none, some 0⟩,
    .command ["a", "c"] ["get", "pods"] 0, .route "g@@g1" none, .versions ["a", "g"]]

/-- A history in which scripts change, contexts fail, clients are reset and a command is run: what
is kept follows from what came after the reset. -/
theorem cache_follows_history_restless :
    let p := { hurried with commandTimeout := some (Duration.ofMillis 80) }
    let w := World.performAll p desk.runner ⟨assorted, .empty⟩ restless
    (∃ log, Runs p desk.runner ⟨assorted, .empty⟩ restless log w) ∧
    KeptSinceReset p desk.runner ⟨assorted, .empty⟩ restless w ∧
    w.registry.made = ["a", "c", "a", "g"] ∧ w.registry.entries.map (·.1) = ["a", "g"] := by
  intro p w
  have ends : ∀ op ∈ restless, ∀ v, op.Ends p desk.runner v := by
    unfold restless
    simp only [List.forall_mem_cons]
    exact ⟨fun _ => trivial, fun _ => trivial, fun _ => .inl rfl, fun _ => trivial,
      fun _ => trivial, fun _ => .inl rfl, fun _ => trivial, fun _ => trivial, nofun⟩
  obtain ⟨log, runs⟩ := exists_runs (w := ⟨assorted, .empty⟩) ends
  exact ⟨⟨log, runs⟩, (cache_follows_history _ _ _ _ log _ runs).1, by decide, by decide⟩

end Fleet.Cluster
