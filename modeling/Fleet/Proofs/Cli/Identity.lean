import Fleet.Proofs.Cli.Listing
import Fleet.Proofs.Cluster.Names
import Fleet.Proofs.Text.Split

/-!
# What an identifier stands for

The identifier of a row holds a context, a namespace and a name, one inside the other. All three are
read back from it, so an identifier that names its context stands for one object of one cluster
(`getByRow_rowId`).

Two levels of text are taken apart, each by a lemma of its own: the context from the path
(`Row.join_eq_iff`, for plain contexts) and the namespace from the name (`Flat.path_eq_iff`, for
objects whose namespace and name hold no slash). Which client is asked follows from the registry: it
keeps the one that listed the object (`find?_of_listed`), whatever context is active, and the client
is named for its context.
-/

namespace Fleet

namespace ContextObject

/-- Namespace that an object lies in; an empty one is none. -/
def scope? (o : ContextObject) : Option String := o.namespace?.filter (· ≠ "")

/-- Neither the namespace nor the name of an object holds a slash. -/
structure Flat (o : ContextObject) : Prop where
  ns : '/' ∉ (o.namespace?.getD "").toList
  name : '/' ∉ o.name.toList

/-- Whether an object is flat is decided by its namespace and its name. -/
instance (o : ContextObject) : Decidable o.Flat :=
  decidable_of_iff ('/' ∉ (o.namespace?.getD "").toList ∧ '/' ∉ o.name.toList)
    ⟨fun ⟨ns, name⟩ => ⟨ns, name⟩, fun ⟨ns, name⟩ => ⟨ns, name⟩⟩

variable {o o' : ContextObject}

/-- The path of an object with a scope is its namespace and its name. -/
lemma path_of_scope? {ns : String} (scope : o.scope? = some ns) :
    o.namespace? = some ns ∧ o.path = ns ++ "/" ++ o.name := by
  obtain ⟨given, full⟩ := Option.filter_eq_some_iff.1 scope
  have full : ns ≠ "" := of_decide_eq_true full
  unfold path
  rw [given]
  exact ⟨rfl, if_neg full⟩

/-- The path of an object without a scope is its name. -/
lemma path_of_scope?_eq_none (scope : o.scope? = none) : o.path = o.name := by
  unfold scope? at scope
  unfold path
  cases given : o.namespace? with
  | none => rfl
  | some ns =>
    rw [given] at scope
    have empty : ns = "" := by simpa using scope
    exact if_pos empty

/-- The namespace and the name of an object are read back from its path. -/
lemma Flat.pathParts_path (flat : o.Flat) : Cluster.pathParts o.path = (o.scope?, o.name) := by
  unfold Cluster.pathParts Text.cut?
  cases scope : o.scope? with
  | none =>
    rw [path_of_scope?_eq_none scope, Text.cutChars?_eq_none flat.name]
    rfl
  | some ns =>
    obtain ⟨given, path⟩ := path_of_scope? scope
    have free : '/' ∉ ns.toList := by
      have free := flat.ns
      rwa [given] at free
    have chars : o.path.toList = ns.toList ++ '/' :: o.name.toList := by simp [path]
    rw [chars, Text.cutChars?_append free]
    simp

/-- Flat objects have one path exactly if they agree in scope and name. -/
lemma Flat.path_eq_iff (flat : o.Flat) (flat' : o'.Flat) :
    o.path = o'.path ↔ o.scope? = o'.scope? ∧ o.name = o'.name := by
  constructor
  · intro same
    have parts : (o.scope?, o.name) = (o'.scope?, o'.name) := by
      rw [← flat.pathParts_path, ← flat'.pathParts_path, same]
    exact Prod.mk.inj parts
  · rintro ⟨scope, name⟩
    cases given : o.scope? with
    | none =>
      rw [path_of_scope?_eq_none given, path_of_scope?_eq_none (scope ▸ given), name]
    | some ns =>
      rw [(path_of_scope? given).2, (path_of_scope? (scope ▸ given)).2, name]

end ContextObject

/-- Identifiers with plain contexts are the same exactly if context and path are. -/
lemma Row.join_eq_iff {c c' p p' : String} (plain : Plain c) (plain' : Plain c') :
    join c p = join c' p' ↔ c = c' ∧ p = p' := by
  constructor
  · intro same
    have parts : (c, p) = (c', p') := by
      rw [← split_join plain, ← split_join plain', same]
    exact Prod.mk.inj parts
  · rintro ⟨rfl, rfl⟩
    rfl

namespace Cli.Listing

variable {factory : Cluster.Factory} {registry : Cluster.Registry} {contexts : List String}
  {resource : Resource} {o : ContextObject}

/-- An object is asked for at the client that is kept for its context, by its namespace and its
name. -/
lemma getByRow_of_find? {h : Cluster.Handle} {active : Option String} (named : o.context ≠ "")
    (plain : Row.Plain o.context) (flat : o.Flat) (kept : registry.find? o.context = some h) :
    Cluster.getByRow factory registry resource (rowId o true) active =
      ((h.client.get resource o.scope? o.name).delay,
        (h.client.get resource o.scope? o.name).ending.map (⟨h.client.context, ·⟩), true,
        registry) := by
  unfold Cluster.getByRow
  rw [Cluster.route_of_find? (rowTarget_several named plain) kept]
  dsimp only
  rw [flat.pathParts_path]

/-- Whatever context is active, the identifier of a listed object asks the client that listed it for
its own namespace and name, and tags the answer with its context. So two objects have one identifier
exactly if they agree in context, namespace and name. -/
theorem getByRow_rowId (p : Cluster.Policy) (resource : Resource) (ns selector : Option String)
    (named : factory.Named) (reached : registry.ReachedBy Cluster.Factory.Named)
    (plain : ∀ c ∈ contexts, c ≠ "" ∧ Row.Plain c) :
    let listing := Cluster.listAll p factory registry contexts resource ns selector
    (∀ o ∈ Cluster.tagged listing.1.slots, o.Flat → ∃ h, listing.2.find? o.context = some h ∧
      h.client.context = o.context ∧
      (∃ objects, o.object ∈ objects ∧ (h.client.list resource (scopedNamespace ns)
        (Cluster.activeSelector selector)).ending = .ok objects) ∧
      ∀ resource' active, Cluster.getByRow factory listing.2 resource' (rowId o true) active =
        ((h.client.get resource' o.scope? o.name).delay,
          (h.client.get resource' o.scope? o.name).ending.map (⟨o.context, ·⟩), true, listing.2)) ∧
    ∀ o ∈ Cluster.tagged listing.1.slots, ∀ o' ∈ Cluster.tagged listing.1.slots, o.Flat → o'.Flat →
      (rowId o true = rowId o' true ↔
        o.context = o'.context ∧ o.scope? = o'.scope? ∧ o.name = o'.name) := by
  intro listing
  constructor
  · intro o listed flat
    obtain ⟨mem, h, kept, lists⟩ := Cluster.find?_of_listed listed
    obtain ⟨full, free⟩ := plain o.context mem
    have context : h.client.context = o.context := (reached.getAll named contexts).named kept
    refine ⟨h, kept, context, lists, fun resource' active => ?_⟩
    rw [getByRow_of_find? full free flat kept, context]
  · intro o listed o' listed' flat flat'
    have free := (plain o.context (Cluster.find?_of_listed listed).1).2
    have free' := (plain o'.context (Cluster.find?_of_listed listed').1).2
    rw [← flat.path_eq_iff flat']
    exact Row.join_eq_iff free free'

/-- An object by namespace and name. -/
def objectOf (ns : Option String) (name : String) : Json :=
  .obj [("metadata",
    .obj (("name", .str name) :: (ns.map fun ns => ("namespace", Json.str ns)).toList))]

/-- A session on contexts whose names, and whose objects, hold the separators of identifiers. -/
def nested : Session :=
  let eu : Cluster.Script :=
    ⟨[objectOf (some "x@@y") "w", objectOf (some "y") "w", objectOf none "w"], "v1", none, some 3⟩
  let us : Cluster.Script := ⟨[objectOf none "w@@1", objectOf (some "") "w@@1"], "v1", none, some 1⟩
  { settings := .default
    selection := .file "selection"
    origin := .scripted ((Cluster.Roster.empty.addContext "eu/a@b" eu).addContext "us@x" us)
    registry := .empty
    runner := fun _ => Cluster.Replies.empty.runner
    files := ⟨[], []⟩ }

/-- In a listing of two contexts, objects of one name in two namespaces are told apart, and each is
got back by its own identifier. A namespace that is absent is not told from an empty one. -/
theorem getByRow_rowId_nested :
    let listing :=
      Cluster.listAll .default nested.factory nested.registry ["eu/a@b", "us@x"] (.core "pods") none
        none
    let o : ContextObject := ⟨"eu/a@b", objectOf (some "x@@y") "w"⟩
    let namesake : ContextObject := ⟨"eu/a@b", objectOf (some "y") "w"⟩
    let absent : ContextObject := ⟨"us@x", objectOf none "w@@1"⟩
    let empty : ContextObject := ⟨"us@x", objectOf (some "") "w@@1"⟩
    nested.factory.Named ∧ nested.registry.ReachedBy Cluster.Factory.Named ∧
    (∀ c ∈ ["eu/a@b", "us@x"], c ≠ "" ∧ Row.Plain c) ∧
    Cluster.tagged listing.1.slots = [o, namesake, ⟨"eu/a@b", objectOf none "w"⟩, absent, empty] ∧
    o.Flat ∧ namesake.Flat ∧ absent.Flat ∧ empty.Flat ∧
    (Cluster.getByRow nested.factory listing.2 (.core "pods") (rowId o true) none).2.1 = .ok o ∧
    (Cluster.getByRow nested.factory listing.2 (.core "pods") (rowId namesake true) none).2.1 =
      .ok namesake ∧
    rowId o true ≠ rowId namesake true ∧
    rowId absent true = rowId empty true ∧ rowId o true ≠ rowId empty true := by
  intro listing o namesake absent empty
  have named := nested.named_factory
  have plain : ∀ c ∈ ["eu/a@b", "us@x"], c ≠ "" ∧ Row.Plain c := by decide
  have reached : nested.registry.ReachedBy Cluster.Factory.Named := .empty
  have all : Cluster.tagged listing.1.slots =
    [o, namesake, ⟨"eu/a@b", objectOf none "w"⟩, absent, empty] := rfl
  have flat : o.Flat := by decide
  have flat_namesake : namesake.Flat := by decide
  have flat_absent : absent.Flat := by decide
  have flat_empty : empty.Flat := by decide
  have listed_namesake : namesake ∈ Cluster.tagged listing.1.slots := by simp [all]
  have listed_absent : absent ∈ Cluster.tagged listing.1.slots := by simp [all]
  have listed_empty : empty ∈ Cluster.tagged listing.1.slots := by simp [all]
  obtain ⟨back, same⟩ := getByRow_rowId .default (.core "pods") none none named reached plain
  refine ⟨named, reached, plain, all, flat, flat_namesake, flat_absent, flat_empty, ?_, ?_, ?_, ?_,
    ?_⟩
  · obtain ⟨h, kept, -, -, asks⟩ := back o List.mem_cons_self flat
    rw [asks]
    cases kept
    rfl
  · obtain ⟨h, kept, -, -, asks⟩ := back namesake listed_namesake flat_namesake
    rw [asks]
    cases kept
    rfl
  · intro one
    have agree := (same o List.mem_cons_self namesake listed_namesake flat flat_namesake).1 one
    exact absurd agree.2.1 (by decide)
  · exact (same absent listed_absent empty listed_empty flat_absent flat_empty).2 ⟨rfl, rfl, rfl⟩
  · intro one
    have agree := (same o List.mem_cons_self empty listed_empty flat flat_empty).1 one
    exact absurd agree.1 (by decide)

end Cli.Listing

end Fleet
