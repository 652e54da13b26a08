import Fleet.Cluster.Script
import Fleet.Proofs.Cluster.Batch

/-!
# Merged listings

A listing of several contexts is the listings of each of them on its own, one after another,
whatever fails among them and however many run at once (`listed_append`).

The listing is first brought into the form of a sum over its contexts, each of which adds what its
own call answers (`listed_eq_flatMap`). What a context adds is the relation `Adds`: the objects of
its script that match, tagged with the context, or nothing if it cannot be reached, fails or takes
too long. Clients may follow scripts that have been replaced since they were made, so the registry
is any that was reached with scripted contexts (`Registry.Scripted`), and each kept client follows
some script (`Registry.Scripted.script`).
-/

namespace Fleet.Cluster

/-- Registries of clients that follow scripts. The scripts may be others at every look-up, and a
client keeps the one that it was made with. -/
inductive Registry.Scripted : Registry → Prop where
  | empty : Scripted .empty
  | get {r : Registry} (roster : Roster) (context : String) (scripted : Scripted r) :
      Scripted (r.get roster.factory context).2
  | make {r : Registry} (roster : Roster) (context : String) (scripted : Scripted r) :
      Scripted (r.make roster.factory context).2
  | reset {r : Registry} (scripted : Scripted r) : Scripted r.reset

variable {p : Policy} {roster : Roster} {registry : Registry} {contexts : List String}
  {context : String}
  {resource : Resource} {ns selector : Option String} {timeout : Option Nat} {s : Script}

/-- The script that is set for a context. -/
def Roster.script? (r : Roster) (context : String) : Option Script :=
  (r.scripts.find? (·.1 = context)).map (·.2)

/-- A roster makes clients that follow the scripts that are set. -/
lemma Roster.script?_of_factory {client : Client} (made : roster.factory context = .ok client) :
    ∃ s, roster.script? context = some s ∧ client = s.client context := by
  unfold factory at made
  split at made
  · cases made
  · split at made
    · rename_i s found
      cases made
      exact ⟨s, by rw [script?, found]; rfl, rfl⟩
    · cases made

/-- A roster makes clients that follow scripts. -/
lemma Roster.script_of_factory {client : Client} (made : roster.factory context = .ok client) :
    ∃ s : Script, client = s.client context := by
  obtain ⟨s, -, same⟩ := script?_of_factory made
  exact ⟨s, same⟩

/-- A scripted registry is reached with factories of rosters only. -/
lemma Registry.Scripted.reachedBy (scripted : registry.Scripted) :
    registry.ReachedBy fun factory => ∃ roster : Roster, factory = roster.factory := by
  induction scripted with
  | empty => exact .empty
  | get roster context _ ih => exact .get ⟨roster, rfl⟩ ih
  | make roster context _ ih => exact .make ⟨roster, rfl⟩ ih
  | reset _ ih => exact .reset ih

/-- Every kept client follows a script. -/
lemma Registry.Scripted.script (scripted : registry.Scripted) :
    ∀ e ∈ registry.entries, ∃ s : Script, e.2.client = s.client e.1 := by
  have makes : ∀ factory : Factory, (∃ roster : Roster, factory = roster.factory) →
    ∀ context client,
      factory context = .ok client → ∃ s : Script, client = s.client context := by
    rintro _ ⟨roster, rfl⟩ context client made
    exact Roster.script_of_factory made
  exact scripted.reachedBy.client makes

/-- Every client that a look-up yields follows a script. -/
lemma Registry.Scripted.script_of_clientOf (scripted : registry.Scripted) {client : Client}
    (found : registry.clientOf roster.factory context = .ok client) :
    ∃ s : Script, client = s.client context := by
  rw [Registry.clientOf_eq] at found
  cases kept : registry.find? context with
  | none =>
    rw [kept] at found
    exact Roster.script_of_factory found
  | some h =>
    rw [kept] at found
    cases found
    exact scripted.script (context, h) (Registry.mem_of_find? kept)

/-- Objects of a listing, each with its context. -/
def listed (p : Policy) (roster : Roster) (registry : Registry) (contexts : List String)
    (resource : Resource) (ns selector : Option String) : List ContextObject :=
  tagged (listAll p roster.factory registry contexts resource ns selector).1.slots

/-- Objects of a script that a listing asks for, in their order. -/
def Script.matching (s : Script) (ns selector : Option String) : List Json :=
  s.objects.filter fun o => inNamespace (scopedNamespace ns) o &&
    matchesApp (activeSelector selector) o

/-- What a context adds to a listing. -/
inductive Adds (p : Policy) (roster : Roster) (registry : Registry) (ns selector : Option String)
    (context : String) : List ContextObject → Prop where
  | unmade {e : Failure} :
    registry.clientOf roster.factory context = .error e →
    Adds p roster registry ns selector context []
  | failing {s : Script} {reason : String} :
    registry.clientOf roster.factory context = .ok (s.client context) →
    s.failure = some reason →
    Adds p roster registry ns selector context []
  | late {s : Script} {t : Duration} :
    registry.clientOf roster.factory context = .ok (s.client context) →
    p.listTimeout = some t →
    (∀ d, s.delay = some d → t.millisUp < d) →
    Adds p roster registry ns selector context []
  | healthy {s : Script} {d : Nat} :
    registry.clientOf roster.factory context = .ok (s.client context) →
    s.failure = none →
    s.delay = some d →
    (∀ t, p.listTimeout = some t → d ≤ t.millisUp) →
    Adds p roster registry ns selector context ((s.matching ns selector).map (⟨context, ·⟩))

/-- The time limit is set if a script that the listing meets never answers. -/
def ScriptsEnd (p : Policy) (roster : Roster) (registry : Registry) (contexts : List String) :
    Prop :=
  p.listTimeout.isSome ∨ ∀ c ∈ contexts, ∀ s : Script,
    registry.clientOf roster.factory c = .ok (s.client c) → s.delay.isSome

/-- Fewer contexts end too. -/
lemma ScriptsEnd.subset {fewer : List String} (ends : ScriptsEnd p roster registry contexts)
    (sub : fewer ⊆ contexts) : ScriptsEnd p roster registry fewer :=
  ends.imp id fun delays c mem => delays c (sub mem)

/-- Each context ends on its own. -/
lemma ScriptsEnd.alone (ends : ScriptsEnd p roster registry contexts) (mem : context ∈ contexts) :
    ScriptsEnd p roster registry [context] :=
  ends.subset (List.cons_subset.2 ⟨mem, List.nil_subset contexts⟩)

/-- Where scripts end or are cut off, every call of a listing does. -/
lemma ScriptsEnd.callsEnd (ends : ScriptsEnd p roster registry contexts)
    (scripted : registry.Scripted) :
    CallsEnd (p.listTimeout.map (·.millisUp)) roster.factory registry contexts
      (·.list resource (scopedNamespace ns) (activeSelector selector)) := by
  refine ends.imp (fun limit => by rwa [Option.isSome_map]) fun delays c mem client found => ?_
  obtain ⟨s, rfl⟩ := scripted.script_of_clientOf found
  exact delays c mem s found

/-- Objects of slots are those of each slot. -/
lemma tagged_map {f : String → Slot (List Json)} :
    tagged (contexts.map f) = contexts.flatMap fun c => tagged [f c] := by
  unfold tagged
  rw [List.flatMap_map]
  simp only [List.flatMap_singleton]

/-- A listing has, for each context, what the call of that context comes to on its own. -/
lemma listed_eq_flatMap (ends : ScriptsEnd p roster registry contexts)
    (scripted : registry.Scripted) :
    listed p roster registry contexts resource ns selector = contexts.flatMap fun c =>
      tagged [⟨c, answer (p.listTimeout.map (·.millisUp))
        (·.list resource (scopedNamespace ns) (activeSelector selector)) c
        (registry.clientOf roster.factory c)⟩] := by
  unfold listed listAll
  rw [slots_callAll (ends.callsEnd scripted)]
  exact tagged_map

/-- What a listing of a context alone holds is what the context adds. -/
lemma adds_listed (ends : ScriptsEnd p roster registry [context]) (scripted : registry.Scripted) :
    Adds p roster registry ns selector context
      (listed p roster registry [context] resource ns selector) := by
  rw [listed_eq_flatMap ends scripted, List.flatMap_singleton]
  cases found : registry.clientOf roster.factory context with
  | error e => exact .unmade found
  | ok client =>
    obtain ⟨s, rfl⟩ := scripted.script_of_clientOf found
    have answers : p.listTimeout.isSome ∨ s.delay.isSome :=
      ends.imp id fun delays => delays context (List.mem_singleton_self _) s found
    unfold answer
    dsimp only [Script.client, Script.call]
    obtain ⟨cut, t, limit, longer⟩ | ⟨inTime, d, delay, within⟩ := late_or_inTime answers
    · rw [if_pos cut]
      exact .late found limit longer
    · rw [if_neg inTime]
      cases failure : s.failure with
      | some reason => exact .failing found failure
      | none =>
        have objects : Adds p roster registry ns selector context
            ((s.matching ns selector).map (⟨context, ·⟩)) := .healthy found failure delay within
        simpa [tagged, Script.matching] using objects

/-- A listing is the listings of its contexts alone, one after another. -/
lemma listed_eq_flatMap_alone (ends : ScriptsEnd p roster registry contexts)
    (scripted : registry.Scripted) (resource : Resource) (ns selector : Option String) :
    listed p roster registry contexts resource ns selector =
      contexts.flatMap fun c => listed p roster registry [c] resource ns selector := by
  rw [listed_eq_flatMap ends scripted]
  refine List.flatMap_congr fun c mem => ?_
  rw [listed_eq_flatMap (ends.alone mem) scripted, List.flatMap_singleton]

/-- A pod with a name, and a label of its own. -/
def pod (name app : String) : Json :=
  .object [("metadata", .object [("name", .str name), ("labels", .object [("app", .str app)])])]

/-- The same in a namespace. -/
def podIn (ns name app : String) : Json :=
  .object [("metadata", .object [("name", .str name), ("namespace", .str ns),
    ("labels", .object [("app", .str app)])])]

/-- A policy with few slots and a time limit. -/
def hurried : Policy :=
  { Policy.default with maxParallel := 2, listTimeout := some (Duration.ofMillis 50) }

/-- Contexts that answer, at the last moment or too late, fail or cannot be reached. -/
def assorted : Roster :=
  { names := ["a", "b", "c", "d", "e"]
    scripts :=
      [("a", ⟨[pod "new" "x"], "v2", none, some 0⟩),
      ("b", ⟨[pod "b1" "x"], "v1", some "refused", some 3⟩),
      ("c", ⟨[pod "c1" "y", podIn "n" "c2" "x", podIn "n" "c3" "y", podIn "m" "c3" "y"], "v1",
        none, some 50⟩),
      ("d", ⟨[pod "d1" "x"], "v1", none, some 51⟩), ("e", ⟨[], "v1", none, none⟩)]
    broken := ["f"]
    current := some "a" }

/-- A registry that keeps a client of the first context with an earlier script. -/
def earlier : Registry :=
  (Registry.empty.get (Roster.empty.addContext "a" ⟨[pod "old" "y"], "v1", none, some 7⟩).factory
    "a").2

/-- A listing of several contexts is the listings of each of them alone, one after another, so it
splits where its contexts do. A context adds its matching objects in their order, or nothing if its
client cannot be made, fails or is too slow. All ways to ask for every namespace give the same
listing. -/
theorem listed_append (p : Policy) (roster : Roster) (registry : Registry)
    (scripted : registry.Scripted) (xs ys : List String) (resource : Resource)
    (ns selector : Option String) (ends : ScriptsEnd p roster registry (xs ++ ys)) :
    (listAll p roster.factory registry (xs ++ ys) resource ns selector).1.elapsed.isSome ∧
    listed p roster registry (xs ++ ys) resource ns selector =
      listed p roster registry xs resource ns selector ++ listed p roster registry ys resource ns
        selector ∧
    listed p roster registry (xs ++ ys) resource ns selector =
      (xs ++ ys).flatMap (fun c => listed p roster registry [c] resource ns selector) ∧
    (∀ c ∈ xs ++ ys, Adds p roster registry ns selector c
      (listed p roster registry [c] resource ns selector)) ∧
    ∀ every ∈ [none, some "", some "-", some "all"],
      listAll p roster.factory registry (xs ++ ys) resource every selector =
        listAll p roster.factory registry (xs ++ ys) resource none selector := by
  have whole := listed_eq_flatMap_alone ends scripted resource ns selector
  refine ⟨isSome_elapsed_callAll (ends.callsEnd scripted), ?_, whole, ?_, ?_⟩
  · have left := ends.subset (List.subset_append_left xs ys)
    have right := ends.subset (List.subset_append_right xs ys)
    rw [whole, List.flatMap_append, listed_eq_flatMap_alone left scripted,
      listed_eq_flatMap_alone right scripted]
  · intro c mem
    exact adds_listed (ends.alone mem) scripted
  · intro every mem
    have scope : scopedNamespace every = scopedNamespace none := by
      simp only [List.mem_cons, List.not_mem_nil, or_false] at mem
      obtain rfl | rfl | rfl | rfl := mem
      all_goals rfl
    unfold listAll
    rw [scope]

/-- The listing of contexts that meet every case, some of them twice. -/
theorem listed_append_assorted :
    earlier.Scripted ∧
      ScriptsEnd hurried assorted earlier (["c", "b", "e", "a"] ++ ["f", "d", "g", "a"]) ∧
    listed hurried assorted earlier (["c", "b", "e", "a"] ++ ["f", "d", "g", "a"]) (.core "pods")
        none (some "app=y") =
      listed hurried assorted earlier ["c", "b", "e", "a"] (.core "pods") none (some "app=y") ++
      listed hurried assorted earlier ["f", "d", "g", "a"] (.core "pods") none (some "app=y") ∧
    listed hurried assorted earlier ["c", "b", "e", "a"] (.core "pods") none (some "app=y") =
      [⟨"c", pod "c1" "y"⟩, ⟨"c", podIn "n" "c3" "y"⟩, ⟨"c", podIn "m" "c3" "y"⟩,
        ⟨"a", pod "old" "y"⟩] ∧
    listed hurried assorted earlier ["f", "d", "g", "a"] (.core "pods") none (some "app=y") =
      [⟨"a", pod "old" "y"⟩] ∧
    listed hurried assorted earlier (["c", "b", "e", "a"] ++ ["f", "d", "g", "a"]) (.core "pods")
        (some "n") (some "app=y") = [⟨"c", podIn "n" "c3" "y"⟩] := by
  have scripted : earlier.Scripted := .get _ "a" .empty
  have law :=
    listed_append hurried assorted earlier scripted ["c", "b", "e", "a"] ["f", "d", "g", "a"]
    (.core "pods") none (some "app=y") (.inl rfl)
  have inside :=
    listed_append hurried assorted earlier scripted ["c", "b", "e", "a"] ["f", "d", "g", "a"]
    (.core "pods") (some "n") (some "app=y") (.inl rfl)
  exact ⟨scripted, .inl rfl, law.2.1, rfl, rfl, inside.2.1.trans rfl⟩

end Fleet.Cluster
