import Fleet.Cluster.Script
import Fleet.Proofs.Cluster.Batch
import Fleet.Proofs.Dispatch.Rounds
import Fleet.Proofs.Json.Fields

/-!
# Versions of many contexts

The versions of a batch are a map from its contexts, each to its version or to the sentinel. The map
depends on which contexts there are and on nothing else of the batch, and is there after one time
limit for every round of them (`versions_settled`).

A context tells a version (`Tells`) if its client can be made and answers in time with one; `reply`
computes that and `shown` puts the sentinel in the place of nothing. The map is sorted and has every
key once, so it is settled by its members (`mem_versions`), and these do not mention order,
repetition or bounds. The time is that of the rounds of a batch whose tasks are all cut off by one
limit (`elapsed_callAll_le`).
-/

namespace Fleet.Cluster

variable {p : Policy} {factory : Factory} {registry : Registry} {contexts : List String}
  {context v : String}

/-- Version of each context, the sentinel for those that did not answer. -/
def versions (p : Policy) (factory : Factory) (registry : Registry) (contexts : List String) :
    List (String × String) :=
  keyed notAvailable (versionsAll p factory registry contexts).1.slots

/-- A client for the context can be had, and it answers with the version within the time limit. -/
def Tells (p : Policy) (factory : Factory) (registry : Registry) (context v : String) : Prop :=
  ∃ client d, registry.clientOf factory context = .ok client ∧ client.version.delay = some d ∧
    d ≤ p.versionTimeout.millisUp ∧ client.version.ending = .ok v

/-- What a request for the version of a context comes to. -/
def reply (p : Policy) (factory : Factory) (registry : Registry) (context : String) :
    Except Failure String :=
  answer (some p.versionTimeout.millisUp) (·.version) context (registry.clientOf factory context)

/-- Version shown for a context. -/
def shown (p : Policy) (factory : Factory) (registry : Registry) (context : String) : String :=
  match reply p factory registry context with
  | .ok v => v
  | .error _ => notAvailable

/-- A request succeeds exactly if the context tells its version. -/
lemma reply_eq_ok_iff :
    reply p factory registry context = .ok v ↔ Tells p factory registry context v := by
  unfold reply Tells
  cases registry.clientOf factory context with
  | error e => exact ⟨nofun, nofun⟩
  | ok client =>
    unfold answer
    dsimp only
    split
    · rename_i cut
      obtain ⟨t, limit, longer⟩ := Dispatch.isCutOff_iff.1 cut
      cases limit
      constructor
      · nofun
      · rintro ⟨_, d, ⟨⟩, delay, within, -⟩
        exact absurd within (Nat.not_le_of_lt (longer d delay))
    · rename_i inTime
      obtain ⟨d, delay, within⟩ := Dispatch.delay_of_not_isCutOff inTime (.inl rfl)
      constructor
      · exact fun ending => ⟨client, d, rfl, delay, within _ rfl, ending⟩
      · rintro ⟨_, _, ⟨⟩, -, -, ending⟩
        exact ending

/-- The version shown is the one that the context tells, or else the sentinel. -/
lemma eq_shown_iff : v = shown p factory registry context ↔
    Tells p factory registry context v ∨
      v = notAvailable ∧ ¬ ∃ w, Tells p factory registry context w := by
  simp only [← reply_eq_ok_iff]
  unfold shown
  cases reply p factory registry context with
  | ok w =>
    constructor
    · rintro rfl
      exact .inl rfl
    · rintro (told | ⟨-, silent⟩)
      · exact (Except.ok.inj told).symm
      · exact absurd ⟨w, rfl⟩ silent
  | error e =>
    constructor
    · rintro rfl
      exact .inr ⟨rfl, nofun⟩
    · rintro (told | ⟨same, -⟩)
      · cases told
      · exact same

/-- The versions of a batch are those shown for its contexts. -/
lemma versions_eq (p : Policy) (factory : Factory) (registry : Registry) (contexts : List String) :
    versions p factory registry contexts =
      Json.sortFields (contexts.map fun c => (c, shown p factory registry c)) := by
  unfold versions versionsAll keyed
  rw [slots_callAll (.inl rfl), List.map_map]
  rfl

/-- The field of a context shows its version. -/
lemma mem_versions {f : String × String} : f ∈ versions p factory registry contexts ↔
    f.1 ∈ contexts ∧ f.2 = shown p factory registry f.1 := by
  rw [versions_eq, Json.mem_sortFields_map]

/-- A batch of calls with a time limit takes at most one time limit for every round of its
contexts. -/
lemma elapsed_callAll_le {α : Type} {limits : Dispatch.Limits} {limit : Nat}
    (limited : limits.timeout = some limit) (factory : Factory) (registry : Registry)
    (contexts : List String) (call : Client → Call α) :
    ∃ e, (callAll limits factory registry contexts call).1.elapsed = some e ∧
      e ≤ (contexts.length + limits.maxParallel - 1) / limits.maxParallel * limit := by
  have bound :=
    (Dispatch.run_yields limits (tasksOf factory registry contexts call)).elapsed_le limited
  rwa [length_tasksOf] at bound

/-- A policy with two slots and a tenth of a second for a version. -/
def brisk : Policy :=
  { Policy.default with maxParallel := 2, versionTimeout := Duration.ofMillis 100 }

/-- Contexts that tell their version, just in time or too late, fail, hang or cannot be reached. -/
def mixed : Roster :=
  { names := ["up", "last", "late", "down", "hung", "off"]
    scripts := [("up", ⟨[], "v2", none, some 0⟩), ("last", ⟨[], "v3", none, some 100⟩),
      ("late", ⟨[], "v4", none, some 101⟩), ("down", ⟨[], "v5", some "refused", some 1⟩),
      ("hung", ⟨[], "v6", none, none⟩)]
    broken := ["off"]
    current := none }

/-- The versions of a batch name its contexts, each once, with the version that it tells in time or
else the sentinel. Neither the order nor the number of the contexts, nor how many requests run at
once, changes them, and they are there after one time limit for every round of contexts. -/
theorem versions_settled (p : Policy) (factory : Factory) (registry : Registry)
    (contexts : List String) (several : 0 < p.maxParallel) :
    ((versions p factory registry contexts).map (·.1)).Nodup ∧
    (∀ c, c ∈ (versions p factory registry contexts).map (·.1) ↔ c ∈ contexts) ∧
    (∀ c ∈ contexts, ∀ v, (c, v) ∈ versions p factory registry contexts ↔
      Tells p factory registry c v ∨ v = notAvailable ∧ ¬ ∃ w, Tells p factory registry c w) ∧
    (∀ (m : Nat) (contexts' : List String), (∀ c, c ∈ contexts' ↔ c ∈ contexts) →
      versions { p with maxParallel := m } factory registry contexts' =
        versions p factory registry contexts) ∧
    ∃ e, (versionsAll p factory registry contexts).1.elapsed = some e ∧
      e ≤ (contexts.length + p.maxParallel - 1) / p.maxParallel * p.versionTimeout.millisUp := by
  have sorted (q : Policy) (contexts : List String) :
      Json.Sorted (versions q factory registry contexts) := by
    rw [versions_eq]
    exact Json.sorted_sortFields _
  refine ⟨(sorted p contexts).nodup_keys, ?_, ?_, ?_, ?_⟩
  · intro c
    rw [List.mem_map]
    constructor
    · rintro ⟨f, mem, rfl⟩
      exact (mem_versions.1 mem).1
    · exact fun mem => ⟨(c, shown p factory registry c), mem_versions.2 ⟨mem, rfl⟩, rfl⟩
  · intro c mem v
    rw [mem_versions, ← eq_shown_iff]
    exact ⟨And.right, fun same => ⟨mem, same⟩⟩
  · intro m contexts' same
    refine (sorted _ contexts').ext (sorted p contexts) fun f => ?_
    rw [mem_versions, mem_versions, same]
    rfl
  · have limited : (Dispatch.Limits.new p.maxParallel (some p.versionTimeout.millisUp)).timeout =
        some p.versionTimeout.millisUp := rfl
    have slots : (Dispatch.Limits.new p.maxParallel (some p.versionTimeout.millisUp)).maxParallel =
        p.maxParallel := if_neg (Nat.ne_of_gt several)
    have bound := elapsed_callAll_le limited factory registry contexts (·.version)
    rwa [slots] at bound

/-- Versions of contexts that meet every case, some of them twice and most of them silent. -/
theorem versions_settled_mixed :
    0 < brisk.maxParallel ∧
    versions brisk mixed.factory .empty
      ["hung", "up", "late", "last", "hung", "off", "down", "none", "up"] =
      [("down", "N/A"), ("hung", "N/A"), ("last", "v3"), ("late", "N/A"), ("none", "N/A"),
        ("off", "N/A"), ("up", "v2")] ∧
    ∃ e, (versionsAll brisk mixed.factory .empty
      ["hung", "up", "late", "last", "hung", "off", "down", "none", "up"]).1.elapsed = some e ∧
        e ≤ 500 :=
  ⟨by decide, by decide, (versions_settled brisk mixed.factory .empty _ (by decide)).2.2.2.2⟩

end Fleet.Cluster
