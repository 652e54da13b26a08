import Fleet.Json.Basic
import Mathlib.Data.List.Induction
import Mathlib.Data.List.Nodup

/-!
# Sorted fields

Sorted fields have every key once, in increasing order (`sorted_sortFields`), and are settled by
their members (`Sorted.ext`). The value of a key is the last one that was set
(`mem_sortFields_concat`).

Fields are sorted by insertion, where a key that is there gets a new value. So the order in which
fields are given matters for keys that are given several times only; where the value depends on the
key, as in a map over a list of names, nothing is left of order and repetition
(`mem_sortFields_map`).
-/

namespace Fleet.Json

variable {α : Type} {fields : List (String × α)} {f : String × α} {key : String} {value : α}

/-- Keys in increasing order. -/
def Sorted (fields : List (String × α)) : Prop := fields.Pairwise fun f g => f.1 < g.1

/-- No key is there twice. -/
lemma Sorted.nodup_keys (sorted : Sorted fields) : (fields.map (·.1)).Nodup := by
  refine List.pairwise_map.2 (sorted.imp fun lt same => ?_)
  rw [same] at lt
  exact String.lt_irrefl _ lt

/-- Fields with the same members are the same. -/
lemma Sorted.ext {fields' : List (String × α)} (sorted : Sorted fields) (sorted' : Sorted fields')
    (same : ∀ f, f ∈ fields ↔ f ∈ fields') : fields = fields' := by
  have nodup := List.Nodup.of_map _ sorted.nodup_keys
  have nodup' := List.Nodup.of_map _ sorted'.nodup_keys
  have perm := (List.perm_ext_iff_of_nodup nodup nodup').2 same
  refine perm.eq_of_pairwise (fun f g _ _ lt gt => ?_) sorted sorted'
  exact absurd gt (String.lt_asymm lt)

/-- After a field is set, its key has the new value and every other key the old one. -/
lemma mem_insertField (sorted : Sorted fields) :
    f ∈ insertField key value fields ↔ f = (key, value) ∨ f ∈ fields ∧ f.1 ≠ key := by
  induction fields with
  | nil => simp [insertField]
  | cons g fields ih =>
    obtain ⟨k, v⟩ := g
    obtain ⟨first, rest⟩ := List.pairwise_cons.1 sorted
    unfold insertField
    split
    · rename_i same
      subst same
      -- the key that is replaced is in no other field
      have others : ∀ f ∈ fields, f.1 ≠ key := by
        intro f mem same
        have lt := first f mem
        rw [same] at lt
        exact String.lt_irrefl _ lt
      simp only [List.mem_cons]
      constructor
      · rintro (rfl | mem)
        · exact .inl rfl
        · exact .inr ⟨.inr mem, others f mem⟩
      · rintro (rfl | ⟨rfl | mem, ne⟩)
        · exact .inl rfl
        · exact absurd rfl ne
        · exact .inr mem
    · rename_i ne
      split
      · rename_i lt
        have others : ∀ f ∈ (k, v) :: fields, f.1 ≠ key := by
          rintro f mem rfl
          obtain rfl | mem := List.mem_cons.1 mem
          · exact ne rfl
          · exact String.lt_asymm lt (first f mem)
        rw [List.mem_cons]
        exact or_congr_right ⟨fun mem => ⟨mem, others f mem⟩, fun both => both.1⟩
      · rw [List.mem_cons, ih rest, List.mem_cons]
        constructor
        · rintro (rfl | rfl | ⟨mem, other⟩)
          · exact .inr ⟨.inl rfl, fun same => ne same.symm⟩
          · exact .inl rfl
          · exact .inr ⟨.inr mem, other⟩
        · rintro (rfl | ⟨rfl | mem, other⟩)
          · exact .inr (.inl rfl)
          · exact .inl rfl
          · exact .inr (.inr ⟨mem, other⟩)

/-- Setting a field keeps the keys in order. -/
lemma Sorted.insertField (sorted : Sorted fields) : Sorted (insertField key value fields) := by
  induction fields with
  | nil => exact List.pairwise_singleton _ _
  | cons g fields ih =>
    obtain ⟨k, v⟩ := g
    obtain ⟨first, rest⟩ := List.pairwise_cons.1 sorted
    unfold Json.insertField
    split
    · rename_i same
      subst same
      exact List.pairwise_cons.2 ⟨first, rest⟩
    · rename_i ne
      split
      · rename_i lt
        refine List.pairwise_cons.2 ⟨fun f mem => ?_, sorted⟩
        obtain rfl | mem := List.mem_cons.1 mem
        · exact lt
        · exact String.lt_trans lt (first f mem)
      · rename_i notLt
        refine List.pairwise_cons.2 ⟨fun f mem => ?_, ih rest⟩
        obtain rfl | ⟨mem, -⟩ := (mem_insertField rest).1 mem
        · exact String.not_le.1 fun le => ne (String.le_antisymm le (String.not_lt.1 notLt))
        · exact first f mem

/-- The last field is inserted last. -/
lemma sortFields_concat :
    sortFields (fields ++ [(key, value)]) = insertField key value (sortFields fields) := by
  unfold sortFields
  rw [List.foldl_concat]

/-- Sorted fields are sorted. -/
lemma sorted_sortFields (fields : List (String × α)) : Sorted (sortFields fields) := by
  induction fields using List.reverseRecOn with
  | nil => exact .nil
  | append_singleton fields f ih =>
    rw [sortFields_concat]
    exact ih.insertField

/-- The last field of a key counts. -/
lemma mem_sortFields_concat : f ∈ sortFields (fields ++ [(key, value)]) ↔
    f = (key, value) ∨ f ∈ sortFields fields ∧ f.1 ≠ key := by
  rw [sortFields_concat, mem_insertField (sorted_sortFields fields)]

/-- Where every field has the value that belongs to its key, sorting only drops repetitions. -/
lemma mem_sortFields_map {keys : List String} {value : String → α} :
    f ∈ sortFields (keys.map fun k => (k, value k)) ↔ f.1 ∈ keys ∧ f.2 = value f.1 := by
  induction keys using List.reverseRecOn with
  | nil => simp [sortFields]
  | append_singleton keys k ih =>
    rw [List.map_append, List.map_singleton, mem_sortFields_concat, ih, List.mem_append,
      List.mem_singleton]
    constructor
    · rintro (rfl | ⟨⟨mem, same⟩, -⟩)
      · exact ⟨.inr rfl, rfl⟩
      · exact ⟨.inl mem, same⟩
    · rintro ⟨mem, same⟩
      by_cases last : f.1 = k
      · exact .inl (Prod.ext last (by rw [same, last]))
      · exact .inr ⟨⟨mem.resolve_right last, same⟩, last⟩

end Fleet.Json
