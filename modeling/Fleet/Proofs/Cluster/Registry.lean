import Fleet.Cluster.Registry
import Mathlib.Data.List.Nodup

/-!
# Registries of clients

A client that is kept stays kept under look-ups of any contexts (`Registry.find?_getAll_of_find?`),
and no client is kept for two contexts (`Registry.Reached.find?_inj`). What a look-up yields does
not depend on the look-ups before it (`Registry.clientOf_get`).

A look-up does one of three things (`get_cases`): it yields the client that is kept, it keeps a new
one, or it fails and changes nothing. All that follows is derived from that and from what keeping a
client does (`find?_keep`, `find?_keep_of_ne`), first for one look-up and then, by induction on the
contexts, for several.

Registries that operations lead to are `Reached`, or `ReachedBy` if the factories are of a kind.
`MadeOnce` counts: of the clients made since some instant one is kept for each of their contexts and
there is no other, so serial numbers tell clients apart.
-/

namespace Fleet.Cluster.Registry

variable {r : Registry} {factory : Factory} {context other : String} {h : Handle}

/-- Registries that operations lead to. -/
inductive Reached : Registry → Prop where
  | empty : Reached .empty
  | get {r : Registry} (factory : Factory) (context : String) (reached : Reached r) :
      Reached (r.get factory context).2
  | make {r : Registry} (factory : Factory) (context : String) (reached : Reached r) :
      Reached (r.make factory context).2
  | reset {r : Registry} (reached : Reached r) : Reached r.reset

/-- A new client made for a context and kept for it. -/
def keep (r : Registry) (context : String) (client : Client) : Registry :=
  { entries := r.entries ++ [(context, ⟨r.made.length, client⟩)], made := r.made ++ [context] }

/-- Registries that operations with factories of a kind lead to. -/
inductive ReachedBy (kind : Factory → Prop) : Registry → Prop where
  | empty : ReachedBy kind .empty
  | get {r : Registry} {factory : Factory} {context : String} :
    kind factory →
    ReachedBy kind r →
    ReachedBy kind (r.get factory context).2
  | make {r : Registry} {factory : Factory} {context : String} :
    kind factory →
    ReachedBy kind r →
    ReachedBy kind (r.make factory context).2
  | reset {r : Registry} :
    ReachedBy kind r →
    ReachedBy kind r.reset

/-- A client that is kept is yielded, and nothing changes. -/
lemma get_of_find? (kept : r.find? context = some h) : r.get factory context = (.ok h, r) := by
  unfold get
  rw [kept]

/-- All that a look-up can do: find a kept client, fail to make one, or make one and keep it. -/
lemma get_cases (r : Registry) (factory : Factory) (context : String) :
    (∃ h, r.find? context = some h ∧ r.get factory context = (.ok h, r)) ∨
    (∃ e, r.find? context = none ∧ factory context = .error e ∧
      r.get factory context = (.error e, r)) ∨
    ∃ c, r.find? context = none ∧ factory context = .ok c ∧
      r.get factory context = (.ok ⟨r.made.length, c⟩, r.keep context c) := by
  unfold get make
  cases r.find? context with
  | some h => exact .inl ⟨h, rfl, rfl⟩
  | none =>
    cases factory context with
    | error e => exact .inr (.inl ⟨e, rfl, rfl, rfl⟩)
    | ok c => exact .inr (.inr ⟨c, rfl, rfl, rfl⟩)

/-- A client that is kept stays the same when another one is kept too. -/
lemma find?_keep_of_find? {client : Client} (kept : r.find? other = some h) :
    (r.keep context client).find? other = some h := by
  unfold find? at kept ⊢
  obtain ⟨e, first, rfl⟩ := Option.map_eq_some_iff.1 kept
  show ((r.entries ++ [_]).find? _).map _ = _
  rw [List.find?_append, first]
  rfl

/-- A new client is kept with the next serial number. -/
lemma find?_keep {client : Client} (missing : r.find? context = none) :
    (r.keep context client).find? context = some ⟨r.made.length, client⟩ := by
  unfold find? at missing ⊢
  show ((r.entries ++ [_]).find? _).map _ = _
  rw [List.find?_append, Option.map_eq_none_iff.1 missing, Option.none_or, List.find?_singleton,
    if_pos (decide_eq_true rfl)]
  rfl

/-- Keeping a client changes nothing for other contexts. -/
lemma find?_keep_of_ne {client : Client} (ne : context ≠ other) :
    (r.keep context client).find? other = r.find? other := by
  unfold find?
  show ((r.entries ++ [_]).find? _).map _ = _
  rw [List.find?_append, List.find?_singleton, if_neg (by simpa using ne), Option.or_none]

/-- A client that is found is an entry. -/
lemma mem_of_find? (kept : r.find? context = some h) : (context, h) ∈ r.entries := by
  obtain ⟨⟨c, h'⟩, first, rfl⟩ := Option.map_eq_some_iff.1 kept
  have name : c = context := by simpa using List.find?_some first
  rw [← name]
  exact List.mem_of_find?_eq_some first

/-- A client that a look-up yields is kept from then on. -/
lemma find?_get (found : (r.get factory context).1 = .ok h) :
    (r.get factory context).2.find? context = some h := by
  obtain ⟨h', kept, got⟩ | ⟨e, -, -, got⟩ | ⟨c, missing, -, got⟩ := r.get_cases factory context
  · rw [got] at found ⊢
    cases found
    exact kept
  · rw [got] at found
    cases found
  · rw [got] at found ⊢
    cases found
    exact find?_keep missing

/-- A look-up only adds clients. -/
lemma find?_get_of_find? (kept : r.find? other = some h) :
    (r.get factory context).2.find? other = some h := by
  obtain ⟨_, -, got⟩ | ⟨_, -, -, got⟩ | ⟨c, -, -, got⟩ := r.get_cases factory context
  · rw [got]
    exact kept
  · rw [got]
    exact kept
  · rw [got]
    exact find?_keep_of_find? kept

/-- Look-ups of several contexts only add clients. -/
lemma find?_getAll_of_find? {contexts : List String} (kept : r.find? other = some h) :
    (r.getAll factory contexts).2.find? other = some h := by
  induction contexts generalizing r with
  | nil => exact kept
  | cons c cs ih => exact ih (find?_get_of_find? kept)

/-- A client that one of several look-ups yields is kept in the end. -/
lemma find?_getAll {contexts : List String}
    (found : (context, .ok h) ∈ contexts.zip (r.getAll factory contexts).1) :
    (r.getAll factory contexts).2.find? context = some h := by
  induction contexts generalizing r with
  | nil => cases found
  | cons c cs ih =>
    change (context, _) ∈ (c, (r.get factory c).1) ::
      cs.zip ((r.get factory c).2.getAll factory cs).1 at found
    obtain same | later := List.mem_cons.1 found
    · obtain ⟨rfl, made⟩ := Prod.mk.inj same
      show ((r.get factory context).2.getAll factory cs).2.find? context = some h
      exact find?_getAll_of_find? (find?_get made.symm)
    · exact ih later

/-- The client that a look-up yields, kept or new. -/
def clientOf (r : Registry) (factory : Factory) (context : String) : Except Failure Client :=
  (r.get factory context).1.map (·.client)

/-- A look-up yields the client that is kept, or else the one that the factory makes. -/
lemma clientOf_eq (r : Registry) (factory : Factory) (context : String) :
    r.clientOf factory context = (r.find? context).elim (factory context) (.ok ·.client) := by
  unfold clientOf
  obtain ⟨h, kept, got⟩ | ⟨e, missing, failed, got⟩ | ⟨c, missing, made, got⟩ :=
    r.get_cases factory context
  · rw [got, kept]
    rfl
  · rw [got, missing, failed]
    rfl
  · rw [got, missing, made]
    rfl

/-- Look-ups do not change what later ones yield. -/
lemma clientOf_get :
    (r.get factory other).2.clientOf factory context = r.clientOf factory context := by
  rw [clientOf_eq, clientOf_eq]
  obtain ⟨_, -, got⟩ | ⟨_, -, -, got⟩ | ⟨c, missing, made, got⟩ := r.get_cases factory other
  · rw [got]
  · rw [got]
  · rw [got]
    by_cases same : other = context
    · subst same
      rw [find?_keep missing, missing]
      exact made.symm
    · rw [find?_keep_of_ne same]

/-- The look-ups of a batch yield what each of them yields on its own. -/
lemma map_client_getAll (r : Registry) (factory : Factory) (contexts : List String) :
    (r.getAll factory contexts).1.map (·.map (·.client)) = contexts.map (r.clientOf factory) := by
  induction contexts generalizing r with
  | nil => rfl
  | cons c cs ih =>
    have rest := ih (r.get factory c).2
    have same : (r.get factory c).2.clientOf factory = r.clientOf factory :=
      funext fun _ => clientOf_get
    rw [same] at rest
    exact congrArg (_ :: ·) rest

/-- The look-ups of a batch do not change what later ones yield. -/
lemma clientOf_getAll {contexts : List String} :
    (r.getAll factory contexts).2.clientOf factory context = r.clientOf factory context := by
  induction contexts generalizing r with
  | nil => rfl
  | cons c cs ih => exact ih.trans clientOf_get

/-- Where a client comes from that is kept after a look-up. -/
lemma find?_of_find?_get (kept : (r.get factory context).2.find? other = some h) :
    r.find? other = some h ∨
      other = context ∧ r.find? context = none ∧ factory context = .ok h.client := by
  obtain ⟨_, -, got⟩ | ⟨_, -, -, got⟩ | ⟨c, missing, made, got⟩ := r.get_cases factory context
  · rw [got] at kept
    exact .inl kept
  · rw [got] at kept
    exact .inl kept
  · rw [got] at kept
    by_cases same : context = other
    · subst same
      rw [find?_keep missing] at kept
      cases kept
      exact .inr ⟨rfl, missing, made⟩
    · rw [find?_keep_of_ne same] at kept
      exact .inl kept

/-- Where a client comes from that is kept after several look-ups. -/
lemma find?_of_find?_getAll {contexts : List String}
    (kept : (r.getAll factory contexts).2.find? context = some h) :
    r.find? context = some h ∨
      context ∈ contexts ∧ r.find? context = none ∧ factory context = .ok h.client := by
  induction contexts generalizing r with
  | nil => exact .inl kept
  | cons c cs ih =>
    obtain before | ⟨mem, missing, made⟩ := ih kept
    · obtain before | ⟨rfl, missing, made⟩ := find?_of_find?_get before
      · exact .inl before
      · exact .inr ⟨List.mem_cons_self, missing, made⟩
    · refine .inr ⟨List.mem_cons_of_mem _ mem, ?_, made⟩
      -- a client kept before the first look-up would be kept after it
      cases before : r.find? context with
      | none => rfl
      | some h => exact nomatch (find?_get_of_find? before).symm.trans missing

/-- No client is found exactly for contexts without an entry. -/
lemma find?_eq_none_iff : r.find? context = none ↔ context ∉ r.entries.map (·.1) := by
  unfold find?
  rw [Option.map_eq_none_iff, List.find?_eq_none]
  simp only [decide_eq_true_eq, List.mem_map, not_exists, not_and]

/-- Of the clients made after those of a list, one is kept for each of their contexts, and no other
client is kept. -/
structure MadeOnce (before : List String) (r : Registry) : Prop where
  made : r.made = before ++ r.entries.map (·.1)
  nodup : (r.entries.map (·.1)).Nodup

/-- A look-up makes no client for a context that has one. -/
lemma MadeOnce.get {before : List String} (once : MadeOnce before r) (factory : Factory)
    (context : String) : MadeOnce before (r.get factory context).2 := by
  obtain ⟨_, -, got⟩ | ⟨_, -, -, got⟩ | ⟨c, missing, -, got⟩ := r.get_cases factory context
  · rw [got]
    exact once
  · rw [got]
    exact once
  · rw [got]
    constructor
    · show r.made ++ [context] =
        before ++ (r.entries ++ [(context, _)] : List (String × Handle)).map (·.1)
      rw [once.made, List.map_append, List.append_assoc]
      rfl
    · show ((r.entries ++ [(context, _)] : List (String × Handle)).map (·.1)).Nodup
      rw [List.map_append, List.nodup_append]
      refine ⟨once.nodup, List.nodup_singleton _, ?_⟩
      rintro a mem b new rfl
      obtain rfl := List.mem_singleton.1 new
      exact find?_eq_none_iff.1 missing mem

/-- Look-ups one after another make no client for a context that has one. -/
lemma MadeOnce.getAll {before : List String} (once : MadeOnce before r) (factory : Factory)
    (contexts : List String) : MadeOnce before (r.getAll factory contexts).2 := by
  induction contexts generalizing r with
  | nil => exact once
  | cons c cs ih => exact ih (once.get factory c)

/-- One client was made for each context that one is kept for. -/
lemma MadeOnce.madeFor {before : List String} (once : MadeOnce before r) (context : String) :
    r.madeFor context = before.count context + if r.contains context then 1 else 0 := by
  unfold Registry.madeFor contains
  rw [once.made, List.count_append, once.nodup.count]
  congr 1
  cases kept : r.find? context with
  | none => rw [if_neg (find?_eq_none_iff.1 kept)]; rfl
  | some h =>
    refine if_pos (of_not_not fun absent => ?_)
    rw [find?_eq_none_iff.2 absent] at kept
    cases kept

/-- Look-ups one after another reach a registry from another one. -/
lemma Reached.getAll (reached : Reached r) (contexts : List String) :
    Reached (r.getAll factory contexts).2 := by
  induction contexts generalizing r with
  | nil => exact reached
  | cons c cs ih => exact ih (reached.get factory c)

/-- What is so of every client that the factories make is so of every client that is kept. -/
lemma ReachedBy.client {kind : Factory → Prop} {good : String → Client → Prop}
    (makes : ∀ factory, kind factory → ∀ c client, factory c = .ok client → good c client)
    (reached : ReachedBy kind r) : ∀ e ∈ r.entries, good e.1 e.2.client := by
  induction reached with
  | empty => exact fun e mem => absurd mem List.not_mem_nil
  | @get r factory context of_kind _ ih =>
    obtain ⟨_, -, got⟩ | ⟨_, -, -, got⟩ | ⟨c, -, made, got⟩ := r.get_cases factory context
    · rw [got]
      exact ih
    · rw [got]
      exact ih
    · rw [got]
      intro e mem
      obtain before | new := List.mem_append.1 mem
      · exact ih e before
      · obtain rfl := List.mem_singleton.1 new
        exact makes factory of_kind context c made
  | make _ _ ih =>
    unfold Registry.make
    split
    · exact ih
    · exact ih
  | reset _ _ => exact fun e mem => absurd mem List.not_mem_nil

/-- Look-ups one after another with a factory of a kind reach a registry by that kind. -/
lemma ReachedBy.getAll {kind : Factory → Prop} (of_kind : kind factory) (reached : ReachedBy kind r)
    (contexts : List String) : ReachedBy kind (r.getAll factory contexts).2 := by
  induction contexts generalizing r with
  | nil => exact reached
  | cons c cs ih => exact ih (.get of_kind reached)

/-- The serial number of a kept client leads to the context that it was made for. -/
lemma Reached.made_getElem? (reached : Reached r) :
    ∀ e ∈ r.entries, r.made[e.2.serial]? = some e.1 := by
  -- more clients made leave the serial numbers of those before as they are
  have longer {r : Registry} (traced : ∀ e ∈ r.entries, r.made[e.2.serial]? = some e.1)
    (c : String) :
      ∀ e ∈ r.entries, (r.made ++ [c])[e.2.serial]? = some e.1 := by
    intro e mem
    obtain ⟨inside, -⟩ := List.getElem?_eq_some_iff.1 (traced e mem)
    rw [List.getElem?_append_left inside]
    exact traced e mem
  induction reached with
  | empty => exact fun e mem => absurd mem List.not_mem_nil
  | @get r factory context _ ih =>
    obtain ⟨_, -, got⟩ | ⟨_, -, -, got⟩ | ⟨c, -, -, got⟩ := r.get_cases factory context
    · rw [got]
      exact ih
    · rw [got]
      exact ih
    · rw [got]
      intro e mem
      obtain before | new := List.mem_append.1 mem
      · exact longer ih context e before
      · obtain rfl := List.mem_singleton.1 new
        exact List.getElem?_concat_length ..
  | make factory context _ ih =>
    unfold Registry.make
    split
    · exact ih
    · exact longer ih context
  | reset _ _ => exact fun e mem => absurd mem List.not_mem_nil

/-- No client is kept for two contexts. -/
lemma Reached.find?_inj (reached : Reached r) (kept : r.find? context = some h)
    (kept' : r.find? other = some h) : context = other := by
  have made {c : String} (kept : r.find? c = some h) : r.made[h.serial]? = some c :=
    reached.made_getElem? (c, h) (mem_of_find? kept)
  exact Option.some.inj ((made kept).symm.trans (made kept'))

end Fleet.Cluster.Registry
