import Fleet.Text.Split
import Mathlib.Data.List.Basic

/-!
# Splitting what was joined

Parts between separators hold no separator (`not_mem_of_mem_split`), and texts without one come back
from where they were joined with it (`split_join`). Lines come back from where each was ended by a
line feed (`lines_join`).

Splitting is done on lists of characters and agrees with splitting of lists in general
(`splitChars_eq_splitOn`), so that laws of lists apply; texts are carried over at the end.
Separators of two characters, where parts can overlap with them, are not the subject here but of the
codec of row identifiers.
-/

namespace Fleet.Text

variable {sep c : Char} {cs front back : List Char} {names : List String} {p : List Char}

/-! ### The first separator -/

/-- Without a separator nothing is cut. -/
lemma cutChars?_eq_none (free : sep ∉ cs) : cutChars? sep cs = none := by
  induction cs with
  | nil => rfl
  | cons c cs ih =>
    rw [List.mem_cons, not_or] at free
    obtain ⟨other, free⟩ := free
    simp [cutChars?, Ne.symm other, ih free]

/-- The cut is at the first separator. -/
lemma cutChars?_append (free : sep ∉ front) (back : List Char) :
    cutChars? sep (front ++ sep :: back) = some (front, back) := by
  induction front with
  | nil => simp [cutChars?]
  | cons c front ih =>
    rw [List.mem_cons, not_or] at free
    obtain ⟨other, free⟩ := free
    simp [cutChars?, Ne.symm other, ih free]

/-! ### All separators -/

/-- Pieces between separators are those of the list. -/
lemma splitChars_eq_splitOn (sep : Char) (cs : List Char) : splitChars sep cs = cs.splitOn sep := by
  induction cs with
  | nil => exact (List.splitOn_nil sep).symm
  | cons c cs ih =>
    rw [List.splitOn_cons_eq_if_modifyHead, ← ih, splitChars]
    by_cases same : c = sep
    · simp [same]
    · cases rest : splitChars sep cs with
      | nil =>
        rw [ih] at rest
        exact absurd rest (List.splitOn_ne_nil sep cs)
      | cons p ps => simp [same]

/-- There is always a piece. -/
lemma splitChars_ne_nil (sep : Char) (cs : List Char) : splitChars sep cs ≠ [] := by
  rw [splitChars_eq_splitOn]
  exact List.splitOn_ne_nil sep cs

/-- No piece holds the separator. -/
lemma not_mem_of_mem_splitChars (mem : p ∈ splitChars sep cs) : sep ∉ p := by
  induction cs generalizing p with
  | nil =>
    obtain rfl := List.mem_singleton.1 mem
    exact List.not_mem_nil
  | cons c cs ih =>
    rw [splitChars] at mem
    split at mem
    · obtain rfl | later := List.mem_cons.1 mem
      · exact List.not_mem_nil
      · exact ih later
    · rename_i other
      cases rest : splitChars sep cs with
      | nil => exact absurd rest (splitChars_ne_nil sep cs)
      | cons q qs =>
        rw [rest] at mem ih
        obtain rfl | later := List.mem_cons.1 mem
        · rw [List.mem_cons, not_or]
          exact ⟨Ne.symm other, ih List.mem_cons_self⟩
        · exact ih (List.mem_cons_of_mem _ later)

/-- No piece of a text holds the separator. -/
lemma not_mem_of_mem_split {s part : String} (mem : part ∈ split sep s) : sep ∉ part.toList := by
  obtain ⟨p, inside, rfl⟩ := List.mem_map.1 mem
  rw [String.toList_ofList]
  exact not_mem_of_mem_splitChars inside

/-- Names are joined by putting the separator between them. -/
lemma join_eq_intercalate (sep : String) (names : List String) :
    join sep names = sep.intercalate names := by
  fun_induction join sep names with
  | case1 => rfl
  | case2 s => simp
  | case3 s t r ih => rw [ih, String.intercalate_cons_cons]

/-- Texts without the separator come back from where they were joined with it. -/
lemma split_join {mark : String} (one : mark.toList = [sep]) (some : names ≠ [])
    (free : ∀ n ∈ names, sep ∉ n.toList) : split sep (join mark names) = names := by
  have chars : (join mark names).toList = [sep].intercalate (names.map String.toList) := by
    rw [join_eq_intercalate, String.toList_intercalate, one]
  have parts : ([sep].intercalate (names.map String.toList)).splitOn sep =
      names.map String.toList := by
    apply List.splitOn_intercalate
    · intro p mem
      obtain ⟨n, inside, rfl⟩ := List.mem_map.1 mem
      exact free n inside
    · exact fun none => some (List.map_eq_nil_iff.1 none)
  unfold split
  rw [splitChars_eq_splitOn, chars, parts, List.map_map]
  simp [Function.comp_def]

/-- A text comes back from its parts. -/
lemma join_split {mark : String} (one : mark.toList = [sep]) (s : String) :
    join mark (split sep s) = s := by
  rw [← String.toList_inj, join_eq_intercalate, String.toList_intercalate, one]
  unfold split
  rw [List.map_map, splitChars_eq_splitOn]
  simp [Function.comp_def, List.intercalate_splitOn]

/-! ### Lines -/

/-- The first part ends at the first separator. -/
lemma splitChars_append (free : sep ∉ front) (back : List Char) :
    splitChars sep (front ++ sep :: back) = front :: splitChars sep back := by
  rw [splitChars_eq_splitOn, splitChars_eq_splitOn, List.splitOn_append_cons_self,
    List.splitOn_eq_singleton free]
  rfl

/-- Without a carriage return none is dropped. -/
lemma dropReturn_of_not_mem (free : '\r' ∉ cs) : dropReturn cs = cs :=
  if_neg fun last => free (List.mem_of_getLast? last)

/-- Ended lines come back from one text. -/
lemma lines_join (feeds : ∀ n ∈ names, '\n' ∉ n.toList) (returns : ∀ n ∈ names, '\r' ∉ n.toList) :
    lines (String.join (names.map (· ++ "\n"))) = names := by
  have parts : splitChars '\n' (String.join (names.map (· ++ "\n"))).toList =
      names.map String.toList ++ [[]] := by
    induction names with
    | nil => rfl
    | cons n names ih =>
      rw [List.forall_mem_cons] at feeds returns
      have text : (String.join ((n :: names).map (· ++ "\n"))).toList =
          n.toList ++ '\n' :: (String.join (names.map (· ++ "\n"))).toList := by
        rw [List.map_cons, String.join_cons, String.toList_append, String.toList_append,
          List.append_assoc]
        rfl
      rw [text, splitChars_append feeds.1, ih feeds.2 returns.2]
      rfl
  have kept : (names.map String.toList).map dropReturn = names.map String.toList := by
    rw [List.map_map]
    exact List.map_congr_left fun n mem => dropReturn_of_not_mem (returns n mem)
  unfold lines linesOf
  rw [parts]
  simp [kept]

end Fleet.Text
