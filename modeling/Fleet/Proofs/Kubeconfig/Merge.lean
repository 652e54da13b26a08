import Fleet.Kubeconfig.Resolve
import Mathlib.Data.List.Basic
import Mathlib.Data.List.Induction

/-!
# Merged configurations

Merging adds entries behind those that are there, and only under names that are not there yet
(`Named.push`). So what a configuration settles is settled for good (`Settles.connection_merge`),
and it does not matter in which groups documents are merged (`merge_assoc`): later documents only
add (`merge_keeps_settled`).

`Settles k name` says that the configuration defines the context, the cluster that it names and the
user, if it names one. A connection is looked up under these three names and nowhere else
(`connection_congr`), and an entry that is found is found after any merging (`find?_addNew`). The
current context has a law of its own: the first one that is not empty (`mergeCurrent_assoc`).
-/

namespace Fleet.Named

variable {α : Type} {entries more : List (Named α)} {e : Named α} {name : String} {a : α}

/-- One entry added unless its name is there. -/
def push (entries : List (Named α)) (e : Named α) : List (Named α) :=
  if entries.any (·.name = e.name) then entries else entries ++ [e]

/-- An entry is not added under a name that is there. -/
lemma push_of_mem (there : e.name ∈ entries.map (·.name)) : push entries e = entries := by
  obtain ⟨e', mem, same⟩ := List.mem_map.1 there
  exact if_pos (List.any_eq_true.2 ⟨e', mem, decide_eq_true same⟩)

/-- An entry under a new name is added behind the others. -/
lemma push_of_not_mem (new : e.name ∉ entries.map (·.name)) : push entries e = entries ++ [e] := by
  refine if_neg fun there => new ?_
  obtain ⟨e', mem, same⟩ := List.any_eq_true.1 there
  exact List.mem_map.2 ⟨e', mem, of_decide_eq_true same⟩

/-- The last entry is added last. -/
lemma addNew_concat (entries more : List (Named α)) (e : Named α) :
    addNew entries (more ++ [e]) = push (addNew entries more) e :=
  List.foldl_concat ..

/-- What is there stays in front. -/
lemma prefix_addNew (entries more : List (Named α)) : entries <+: addNew entries more := by
  induction more using List.reverseRecOn with
  | nil => exact List.prefix_rfl
  | append_singleton more e ih =>
    rw [addNew_concat]
    by_cases there : e.name ∈ (addNew entries more).map (·.name)
    · rwa [push_of_mem there]
    · rw [push_of_not_mem there]
      exact ih.trans (List.prefix_append _ _)

/-- After entries were added, the names are those of both lists. -/
lemma mem_names_addNew : name ∈ (addNew entries more).map (·.name) ↔
    name ∈ entries.map (·.name) ∨ name ∈ more.map (·.name) := by
  induction more using List.reverseRecOn with
  | nil => simp [addNew]
  | append_singleton more e ih =>
    have later : name ∈ (more ++ [e]).map (·.name) ↔ name ∈ more.map (·.name) ∨ name = e.name := by
      simp
    rw [addNew_concat, later, ← or_assoc, ← ih]
    by_cases there : e.name ∈ (addNew entries more).map (·.name)
    · rw [push_of_mem there]
      exact ⟨.inl, fun mem => mem.elim id fun same => same ▸ there⟩
    · rw [push_of_not_mem there]
      simp

/-- An entry is added to two lists in turn as it is added to both at once. -/
lemma addNew_assoc (entries more most : List (Named α)) :
    addNew (addNew entries more) most = addNew entries (addNew more most) := by
  induction most using List.reverseRecOn with
  | nil => rfl
  | append_singleton most e ih =>
    rw [addNew_concat, addNew_concat]
    by_cases there : e.name ∈ (addNew more most).map (·.name)
    · have before : e.name ∈ (addNew (addNew entries more) most).map (·.name) := by
        rw [ih]
        exact mem_names_addNew.2 (.inr there)
      rw [push_of_mem there, push_of_mem before, ih]
    · rw [push_of_not_mem there, addNew_concat, ih]

/-- The first entry of a name stays the first. -/
lemma find?_addNew (found : find? entries name = some a) :
    find? (addNew entries more) name = some a := by
  obtain ⟨added, whole⟩ := prefix_addNew entries more
  obtain ⟨e, first, rfl⟩ := Option.map_eq_some_iff.1 found
  unfold find?
  rw [← whole, List.find?_append, first]
  rfl

end Fleet.Named

namespace Fleet.Kubeconfig

variable {k k' : Kubeconfig} {t : Files.Tree} {name : String}

/-- A configuration defines a context, the cluster that the context names and the user, if it names
one. -/
inductive Settles (k : Kubeconfig) (name : String) : Prop
  | intro {c : Context.Entry} {cluster : Cluster.Entry}
      (context : Named.find? k.contexts name = some c)
    (cluster : Named.find? k.clusters c.cluster = some cluster)
    (user : c.user = "" ∨ ∃ u, Named.find? k.users c.user = some u) : Settles k name

/-- A connection depends on what is found under three names, and on nothing else of a
configuration. -/
lemma connection_congr {c : Context.Entry} (context : Named.find? k.contexts name = some c)
    (context' : Named.find? k'.contexts name = some c)
    (cluster : Named.find? k'.clusters c.cluster = Named.find? k.clusters c.cluster)
    (user : k'.userOf c.user = k.userOf c.user) : k'.connection t name = k.connection t name := by
  unfold connection
  rw [context, context']
  simp only [pure_bind, cluster, user]

/-- A settled connection is the same with any configuration merged into this one. -/
lemma Settles.connection_merge (settles : k.Settles name) (k' : Kubeconfig) (t : Files.Tree) :
    (k.merge k').connection t name = k.connection t name := by
  obtain @⟨c, cluster, context, found, user⟩ := settles
  refine connection_congr context (Named.find?_addNew context) ?_ ?_
  · rw [found]
    exact Named.find?_addNew found
  · unfold userOf
    obtain none | ⟨u, found⟩ := user
    · rw [if_pos none, if_pos none]
    · have stays : Named.find? (k.merge k').users c.user = some u := Named.find?_addNew found
      rw [found, stays]

/-! ### Several documents -/

/-- The current context of two documents is the first one that is not empty. -/
lemma mergeCurrent_eq (a b : Option String) :
    mergeCurrent a b = (a.filter (· ≠ "")).or (b.filter (· ≠ "")) := by
  unfold mergeCurrent
  cases a with
  | none => rfl
  | some s =>
    by_cases none : s = ""
    · subst none
      rfl
    · have full : (some s).filter (· ≠ "") = some s := if_pos (decide_eq_true none)
      rw [full]
      exact if_neg none

/-- A merged current context is not empty. -/
lemma filter_mergeCurrent (a b : Option String) :
    (mergeCurrent a b).filter (· ≠ "") = mergeCurrent a b := by
  have twice (o : Option String) : (o.filter (· ≠ "")).filter (· ≠ "") = o.filter (· ≠ "") := by
    rw [Option.filter_filter]
    simp only [Bool.and_self]
  rw [mergeCurrent_eq]
  cases first : a.filter (· ≠ "") with
  | none => exact twice b
  | some s =>
    have kept := twice a
    rw [first] at kept
    exact kept

/-- The current context does not depend on the groups in which configurations are merged. -/
lemma mergeCurrent_assoc (a b c : Option String) :
    mergeCurrent (mergeCurrent a b) c = mergeCurrent a (mergeCurrent b c) := by
  rw [mergeCurrent_eq, filter_mergeCurrent, mergeCurrent_eq a (mergeCurrent b c),
    filter_mergeCurrent, mergeCurrent_eq a b, mergeCurrent_eq b c, Option.or_assoc]

/-- Documents may be merged in any groups. -/
lemma merge_assoc (a b c : Kubeconfig) : (a.merge b).merge c = a.merge (b.merge c) := by
  unfold merge
  simp only [Named.addNew_assoc, mergeCurrent_assoc]

/-- What a configuration settles is the same with any other one merged into it, be it a connection
or the reason why there is none. Its contexts stay listed first, and its current context is kept
unless it is empty. In which groups configurations are merged makes no difference at all. -/
theorem merge_keeps_settled (a b c : Kubeconfig) :
    (∀ t name, a.Settles name → (a.merge b).resolve t name = a.resolve t name) ∧
    a.contextNames <+: (a.merge b).contextNames ∧
    (∀ current, current ≠ "" → a.current = some current → (a.merge b).current = some current) ∧
    (a.merge b).merge c = a.merge (b.merge c) := by
  refine ⟨fun t name settles => ?_, ?_, fun current full eq => ?_, merge_assoc a b c⟩
  · unfold resolve
    rw [settles.connection_merge b t]
  · obtain ⟨added, whole⟩ := Named.prefix_addNew a.contexts b.contexts
    refine ⟨added.map (·.name), ?_⟩
    unfold contextNames merge
    rw [← whole, List.map_append]
  · have first : (some current).filter (· ≠ "") = some current := if_pos (decide_eq_true full)
    have merged : (a.merge b).current = mergeCurrent a.current b.current := rfl
    rw [merged, mergeCurrent_eq, eq, first]
    rfl

/-- A context, its cluster and its user, and a context whose user is missing. -/
def settled : Kubeconfig where
  clusters := [⟨"main", ⟨"https://eu.example.com", none, none, false⟩⟩]
  users := [⟨"ops", { User.Entry.none with token := some "t0" }⟩]
  contexts := [⟨"eu", ⟨"main", "ops", none⟩⟩, ⟨"us", ⟨"main", "dev", none⟩⟩]
  current := some "eu"

/-- The same names for other things, and the user that is missing. -/
def clashing : Kubeconfig where
  clusters := [⟨"main", ⟨"https://elsewhere.example.com", none, none, true⟩⟩]
  users := [⟨"ops", .none⟩, ⟨"dev", .none⟩]
  contexts := [⟨"asia", ⟨"main", "", none⟩⟩, ⟨"eu", ⟨"main", "dev", none⟩⟩]
  current := some "asia"

/-- A configuration that defines the same names in another way takes nothing over. -/
theorem merge_keeps_settled_clash :
    settled.Settles "eu" ∧ (settled.merge clashing).resolve ⟨[], []⟩ "eu" =
      settled.resolve ⟨[], []⟩ "eu" ∧
    (settled.resolve ⟨[], []⟩ "eu").toOption.map (·.server.text) = some "https://eu.example.com/" ∧
    (clashing.resolve ⟨[], []⟩ "eu").toOption.map (·.server.text) =
      some "https://elsewhere.example.com/" ∧
    (settled.merge clashing).current = some "eu" := by
  have settles : settled.Settles "eu" := .intro rfl rfl (.inr ⟨_, rfl⟩)
  obtain ⟨keeps, -, current, -⟩ := merge_keeps_settled settled clashing settled
  exact ⟨settles, keeps _ "eu" settles, by decide +kernel, by decide +kernel,
    current "eu" (by decide) rfl⟩

end Fleet.Kubeconfig
