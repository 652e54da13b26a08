import Fleet.Cli.Listing
import Fleet.Proofs.Cluster.Batch
import Fleet.Proofs.Row

/-!
# Identifiers of listings

An identifier names its context if the listing is of more than one. The identifiers of a listing of
a single context are read in the active one, so they lead back unless that context was named and is
another one (`Listing.routesBack_iff`).

`RoutesBack` says what leading back means: the identifier is read as the path of the object and the
client kept for its context, and that client listed the object. What a row is read as depends on
whether it holds a separator, so the proof has two halves (`rowTarget_several`, `rowTarget_single`),
and the condition comes from the second one (`routesBack_single_iff`). Which contexts a listing is
of is settled by cases on how they were chosen (`batchContexts_cases`).
-/

namespace Fleet

/-- Neither the namespace nor the name of an object holds the character of the separator. -/
structure ContextObject.Bare (o : ContextObject) : Prop where
  ns : '@' ∉ (o.namespace?.getD "").toList
  name : '@' ∉ o.name.toList

/-- The path of a bare object has no separator. -/
lemma ContextObject.Bare.not_separated {o : ContextObject} (bare : o.Bare) :
    ¬ Row.Separated o.path.toList := by
  apply Row.not_separated_of_not_mem
  unfold ContextObject.path
  cases eq : o.namespace? with
  | none => exact bare.name
  | some ns =>
    have ns_bare := bare.ns
    rw [eq] at ns_bare
    dsimp only
    split
    · exact bare.name
    · rw [String.toList_append, String.toList_append, List.mem_append, List.mem_append]
      rintro ((inNs | slash) | inName)
      · exact ns_bare inNs
      · exact absurd slash (by decide)
      · exact bare.name inName

namespace Cluster

/-- A row leads to the client that is kept for the context it stands for. -/
lemma route_of_find? {factory : Factory} {registry : Registry} {row context path : String}
    {active : Option String} {h : Handle} (target : rowTarget row active = .ok (context, path))
    (kept : registry.find? context = some h) :
    route factory registry row active = (.ok (h, path), registry) := by
  unfold route
  rw [target]
  dsimp only
  rw [Registry.get_of_find? kept]
  rfl

/-- The client that a row leads to is kept for the context it stands for. -/
lemma find?_of_route {factory : Factory} {registry : Registry} {row context path path' : String}
    {active : Option String} {h : Handle} (target : rowTarget row active = .ok (context, path))
    (found : (route factory registry row active).1 = .ok (h, path')) :
    (registry.get factory context).2.find? context = some h := by
  unfold route at found
  rw [target] at found
  dsimp only at found
  apply Registry.find?_get
  cases looked : (registry.get factory context).1 with
  | error e =>
    rw [looked] at found
    cases found
  | ok h' =>
    rw [looked] at found
    obtain ⟨rfl, -⟩ := Prod.mk.inj (Except.ok.inj found)
    rfl

end Cluster

namespace Cli.Listing

variable {s : Session} {contexts : List String} {q : Query} {active : String} {o : ContextObject}

/-- The identifier of an object in a listing of several contexts stands for its context and path. -/
lemma rowTarget_several {active : Option String} (named : o.context ≠ "")
    (plain : Row.Plain o.context) :
    Cluster.rowTarget (rowId o true) active = .ok (o.context, o.path) := by
  unfold Cluster.rowTarget rowId
  rw [if_pos rfl, Row.split_join plain]
  exact if_neg named

/-- The identifier of an object in a listing of one context stands for its path in the active
one. -/
lemma rowTarget_single (bare : o.Bare) :
    Cluster.rowTarget (rowId o false) (some active) = .ok (active, o.path) := by
  unfold Cluster.rowTarget rowId
  rw [if_neg Bool.false_ne_true, Row.split_of_free bare.not_separated]
  rfl

/-- A client answered a query with an object. -/
def Lists (q : Query) (h : Cluster.Handle) (object : Json) : Prop :=
  ∃ objects, object ∈ objects ∧ (h.client.list q.resource (scopedNamespace q.ns)
    (Cluster.activeSelector q.selector)).ending = .ok objects

/-- The identifier of an object in a listing leads to its path and to the client that is kept for
its context, which is the one that listed it. -/
def RoutesBack (s : Session) (contexts : List String) (q : Query) (active : String)
    (o : ContextObject) : Prop :=
  ∃ h, (fetch s contexts q).2.find? o.context = some h ∧ Lists q h o.object ∧
    (Cluster.route s.factory (fetch s contexts q).2 (rowId o (isMulti contexts)) (some active)).1 =
      .ok (h, o.path)

/-- Listed objects come from the clients that are kept for their contexts. -/
lemma find?_of_mem (listed : o ∈ Cluster.tagged (fetch s contexts q).1.slots) :
    o.context ∈ contexts ∧ ∃ h, (fetch s contexts q).2.find? o.context = some h ∧
      Lists q h o.object :=
  Cluster.find?_of_listed listed

/-- Identifiers of a listing of several contexts lead back. -/
lemma routesBack_of_several (several : 1 < contexts.length) (named : o.context ≠ "")
    (plain : Row.Plain o.context) (listed : o ∈ Cluster.tagged (fetch s contexts q).1.slots) :
    RoutesBack s contexts q active o := by
  obtain ⟨-, h, kept, lists⟩ := find?_of_mem listed
  have multi : isMulti contexts = true := decide_eq_true several
  refine ⟨h, kept, lists, ?_⟩
  rw [multi, Cluster.route_of_find? (rowTarget_several named plain) kept]

/-- Identifiers of a listing of one context lead back if it is the active one. -/
lemma routesBack_single_iff {c : String} (reached : s.registry.Reached) (bare : o.Bare)
    (listed : o ∈ Cluster.tagged (fetch s [c] q).1.slots) :
    RoutesBack s [c] q active o ↔ c = active := by
  obtain ⟨mem, h, kept, lists⟩ := find?_of_mem listed
  have same : o.context = c := List.mem_singleton.1 mem
  constructor
  · rintro ⟨h', kept', -, routed⟩
    -- the client of the active context was kept for this one too, so both are the same
    have atActive := Cluster.find?_of_route (rowTarget_single bare) routed
    have atContext : ((fetch s [c] q).2.get s.factory active).2.find? o.context = some h' :=
      Cluster.Registry.find?_get_of_find? kept'
    rw [← same]
    exact ((reached.getAll [c]).get s.factory active).find?_inj atContext atActive
  · rintro rfl
    rw [same] at kept
    refine ⟨h, same ▸ kept, lists, ?_⟩
    exact congrArg Prod.fst (Cluster.route_of_find? (rowTarget_single bare) kept)

/-- A batch runs on the named contexts, or on several, or on the active one. -/
lemma batchContexts_cases {named : List String} (current : s.active? = some active)
    (batch : s.batchContexts named = .ok contexts) :
    named = contexts ∨ named = [] ∧ (1 < contexts.length ∨ contexts = [active]) := by
  unfold Session.batchContexts at batch
  split at batch
  · rename_i unnamed
    refine .inr ⟨unnamed, ?_⟩
    cases selected : s.selected with
    | error e =>
      rw [selected] at batch
      cases batch
    | ok names =>
      rw [selected] at batch
      change Except.ok (Selection.effective names s.active?) = .ok contexts at batch
      rw [← Except.ok.inj batch, current]
      unfold Selection.effective
      split
      · rename_i several
        exact .inl several
      · exact .inr rfl
  · exact .inl (Except.ok.inj batch)

/-- A pod by the same path in every context. -/
def pod : Json :=
  .obj [("metadata", .obj [("name", .str "web"), ("namespace", .str "default")])]

/-- A session on two contexts that hold the same pod; the first one is active. -/
def twins : Session :=
  let script : Cluster.Script := ⟨[pod], "v1.30.0", none, some 0⟩
  { settings := .default
    selection := .file "selection"
    origin := .scripted ((Cluster.Roster.empty.addContext "a" script).addContext "b" script)
    registry := .empty
    runner := fun _ => Cluster.Replies.empty.runner
    files := ⟨[], []⟩ }

/-- The pods of the named contexts. -/
def pods (contexts : List String) : Query := ⟨.core "pods", none, none, contexts⟩

/-- The pod of a context. -/
def podOf (context : String) : ContextObject := ⟨context, pod⟩

/-- The pod has a bare path. -/
lemma bare_podOf (context : String) : (podOf context).Bare :=
  ⟨show '@' ∉ "default".toList by decide, show '@' ∉ "web".toList by decide⟩

/-- A context without an at sign is plain. -/
lemma plain_of_not_mem {c : String} (free : '@' ∉ c.toList) : Row.Plain c :=
  ⟨Row.not_separated_of_not_mem free, fun last => free (List.mem_of_getLast? last)⟩

/-- The pod is listed where its context alone is. -/
lemma podOf_mem_twins : podOf "b" ∈ Cluster.tagged (fetch twins ["b"] (pods ["b"])).1.slots :=
  List.mem_singleton.2 rfl

/-- The identifier of a listed object leads back to where the object came from, unless the listing
was of a single context that was named and is not the active one. -/
theorem routesBack_iff (reached : s.registry.Reached) (current : s.active? = some active)
    (batch : s.batchContexts q.contexts = .ok contexts)
    (plain : ∀ c ∈ contexts, c ≠ "" ∧ Row.Plain c)
    (listed : o ∈ Cluster.tagged (fetch s contexts q).1.slots) (bare : o.Bare) :
    RoutesBack s contexts q active o ↔ ∀ c, q.contexts = [c] → c = active := by
  have mem := (find?_of_mem listed).1
  obtain ⟨named, free⟩ := plain o.context mem
  -- only a single named context can be another one than the active one
  obtain explicit | ⟨unnamed, several | alone⟩ := batchContexts_cases current batch
  · rw [explicit]
    obtain _ | ⟨c, _ | ⟨d, more⟩⟩ := contexts
    · cases mem
    · rw [routesBack_single_iff reached bare listed]
      constructor
      · rintro same c' eq
        rw [← List.head_eq_of_cons_eq eq]
        exact same
      · exact fun all => all c rfl
    · have back : RoutesBack s (c :: d :: more) q active o :=
        routesBack_of_several (by simp) named free listed
      exact ⟨fun _ c' eq => (by cases eq), fun _ => back⟩
  · have back : RoutesBack s contexts q active o := routesBack_of_several several named free listed
    rw [unnamed]
    exact ⟨fun _ c' eq => (by cases eq), fun _ => back⟩
  · subst alone
    rw [routesBack_single_iff reached bare listed, unnamed]
    exact ⟨fun _ c' eq => (by cases eq), fun _ => rfl⟩

/-- Both pods of a listing of both contexts lead back. -/
theorem routesBack_iff_twins :
    twins.registry.Reached ∧ twins.active? = some "a" ∧
    twins.batchContexts ["b", "a"] = .ok ["b", "a"] ∧ (∀ c ∈ ["b", "a"], c ≠ "" ∧ Row.Plain c) ∧
    podOf "b" ∈ Cluster.tagged (fetch twins ["b", "a"] (pods ["b", "a"])).1.slots ∧
      (podOf "b").Bare ∧
    RoutesBack twins ["b", "a"] (pods ["b", "a"]) "a" (podOf "b") := by
  have plain : ∀ c ∈ ["b", "a"], c ≠ "" ∧ Row.Plain c := by
    intro c mem
    obtain rfl | rfl : c = "b" ∨ c = "a" := by simpa using mem
    · exact ⟨by decide, plain_of_not_mem (by decide)⟩
    · exact ⟨by decide, plain_of_not_mem (by decide)⟩
  have listed : podOf "b" ∈ Cluster.tagged (fetch twins ["b", "a"] (pods ["b", "a"])).1.slots :=
    List.mem_cons_self ..
  refine ⟨.empty, rfl, rfl, plain, listed, bare_podOf "b", ?_⟩
  exact (routesBack_iff .empty rfl rfl plain listed (bare_podOf "b")).2 fun c eq => by cases eq

/-- The pod of a listing of the other context alone does not lead back: its identifier is read in
the active context, which holds a pod by that path too. -/
theorem not_routesBack_twins :
    twins.registry.Reached ∧ twins.active? = some "a" ∧ twins.batchContexts ["b"] = .ok ["b"] ∧
    (∀ c ∈ ["b"], c ≠ "" ∧ Row.Plain c) ∧ (twins.factory "b").isOk = true ∧
    podOf "b" ∈ Cluster.tagged (fetch twins ["b"] (pods ["b"])).1.slots ∧
    (podOf "b").namespace? = some "default" ∧ (podOf "b").name = "web" ∧
    ¬ RoutesBack twins ["b"] (pods ["b"]) "a" (podOf "b") ∧
    (Cluster.route twins.factory (fetch twins ["b"] (pods ["b"])).2 (rowId (podOf "b") false)
      (some "a")).1.map (fun r => (r.1.client.context, r.2)) = .ok ("a", "default/web") := by
  refine ⟨.empty, rfl, rfl, ?_, rfl, podOf_mem_twins, rfl, rfl, ?_, rfl⟩
  · intro c mem
    obtain rfl := List.mem_singleton.1 mem
    exact ⟨by decide, plain_of_not_mem (by decide)⟩
  · intro back
    have same := (routesBack_single_iff .empty (bare_podOf "b") podOf_mem_twins).1 back
    exact absurd same (by decide)

end Cli.Listing

end Fleet
