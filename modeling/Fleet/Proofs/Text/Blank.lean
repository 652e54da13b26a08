import Fleet.Text.Blank
import Fleet.Text.Split
import Fleet.Proofs.Text.Split
import Mathlib.Data.List.DropRight

/-!
# Trimmed lines

Trimming once is enough (`trim_trim`), and it takes the carriage return of a line with it, so the
trimmed lines of a text are its trimmed pieces between line feeds (`trimmed_lines`).

Trimming is done on lists of characters, at the start and, by way of the reverse, at the end. A text
is trimmed exactly if it neither begins nor ends with a blank (`trim_eq_self_iff`), which is how
trimmed texts are recognised elsewhere.
-/

namespace Fleet.Text

variable {c : Char} {cs : List Char} {s : String}

/-! ### Blanks on either side -/

/-- What a trimmed text begins with is trimmed at its start. -/
lemma trimStart_front {front : List Char} (start : front <+: trimStart cs) :
    trimStart front = front := by
  cases front with
  | nil => rfl
  | cons c front =>
    obtain ⟨back, whole⟩ := start
    have stops := List.head?_dropWhile_not isBlank cs
    have first : (cs.dropWhile isBlank).head? = some c := by
      change (trimStart cs).head? = some c
      rw [← whole]
      rfl
    rw [first] at stops
    exact List.dropWhile_cons_of_neg (by simp [stops])

/-- Trimming a trimmed text changes nothing. -/
lemma trimChars_trimChars (cs : List Char) : trimChars (trimChars cs) = trimChars cs := by
  have start : trimEnd (trimStart cs) <+: trimStart cs := List.rdropWhile_prefix isBlank _
  calc trimEnd (trimStart (trimEnd (trimStart cs)))
      = trimEnd (trimEnd (trimStart cs)) := by rw [trimStart_front start]
    _ = trimEnd (trimStart cs) := List.rdropWhile_idempotent isBlank _

/-- Trimmed text is trimmed already. -/
lemma trim_trim (s : String) : trim (trim s) = trim s := by
  unfold trim
  rw [String.toList_ofList, trimChars_trimChars]

/-- A text is trimmed at its start exactly if it does not begin with a blank. -/
lemma trimStart_eq_self_iff : trimStart cs = cs ↔ ∀ c ∈ cs.head?, ¬ isBlank c := by
  unfold trimStart
  cases cs with
  | nil => simp
  | cons c cs => simp [List.dropWhile_eq_self_iff]

/-- A text is trimmed at its end exactly if it does not end with a blank. -/
lemma trimEnd_eq_self_iff : trimEnd cs = cs ↔ ∀ c ∈ cs.getLast?, ¬ isBlank c := by
  rw [← List.head?_reverse, ← trimStart_eq_self_iff, ← List.reverse_inj]
  unfold trimEnd trimStart
  rw [List.reverse_reverse]

/-- A text is trimmed already exactly if it neither begins nor ends with a blank. -/
lemma trim_eq_self_iff :
    trim s = s ↔ (∀ c ∈ s.toList.head?, ¬ isBlank c) ∧ ∀ c ∈ s.toList.getLast?, ¬ isBlank c := by
  rw [← trimStart_eq_self_iff, ← trimEnd_eq_self_iff, ← String.toList_inj]
  unfold trim
  rw [String.toList_ofList]
  constructor
  · intro trimmed
    have start : s.toList <+: trimStart s.toList := by
      conv_lhs => rw [← trimmed]
      exact List.rdropWhile_prefix isBlank _
    have front : trimStart s.toList = s.toList := trimStart_front start
    rw [trimChars, front] at trimmed
    exact ⟨front, trimmed⟩
  · rintro ⟨front, back⟩
    rw [trimChars, front, back]

/-- Trimming adds no character. -/
lemma trimChars_subset (cs : List Char) : trimChars cs ⊆ cs := by
  have start : trimStart cs ⊆ cs := (List.dropWhile_suffix isBlank).subset
  have front : trimEnd (trimStart cs) ⊆ trimStart cs := (List.rdropWhile_prefix isBlank _).subset
  exact fun c mem => start (front mem)

/-- A blank at the end is trimmed away. -/
lemma trimChars_concat (blank : isBlank c) (cs : List Char) :
    trimChars (cs ++ [c]) = trimChars cs := by
  unfold trimChars trimStart
  rw [List.dropWhile_append]
  split
  · rename_i none
    rw [List.isEmpty_iff] at none
    simp [none, blank]
  · exact List.rdropWhile_concat_pos isBlank _ c blank

/-! ### Lines -/

/-- A carriage return at the end of a line is trimmed anyway. -/
lemma trimChars_dropReturn (line : List Char) : trimChars (dropReturn line) = trimChars line := by
  unfold dropReturn
  split
  · rename_i last
    conv_rhs => rw [← List.dropLast_append_getLast? '\r' last]
    exact (trimChars_concat (by decide) line.dropLast).symm
  · rfl

/-- Pieces of a text between line feeds, without the blank characters around them and without the
empty ones. -/
lemma trimmed_linesOf (cs : List Char) :
    ((linesOf cs).map trimChars).filter (· ≠ []) = ((splitChars '\n' cs).map trimChars).filter
      (· ≠ []) := by
  have pieces := List.dropLast_append_getLast (splitChars_ne_nil '\n' cs)
  have ended : ((splitChars '\n' cs).dropLast.map dropReturn).map trimChars =
      (splitChars '\n' cs).dropLast.map trimChars := by
    rw [List.map_map]
    exact List.map_congr_left fun line _ => trimChars_dropReturn line
  unfold linesOf
  dsimp only
  rw [List.getLast?_eq_some_getLast (splitChars_ne_nil '\n' cs)]
  conv_rhs => rw [← pieces]
  cases last : (splitChars '\n' cs).getLast (splitChars_ne_nil '\n' cs) with
  | nil =>
    -- an empty last piece is no line, and a trimmed empty piece is left out
    have none : ([[]].map trimChars).filter (· ≠ []) = [] := rfl
    dsimp only
    rw [List.map_append, List.filter_append, none, List.append_nil, ended]
  | cons c r =>
    dsimp only
    rw [List.map_append, List.map_append, ended]

/-- Trimmed lines that are not empty are the same as the trimmed pieces between line feeds. -/
lemma trimmed_lines (s : String) :
    ((lines s).map trim).filter (· ≠ "") = ((split '\n' s).map trim).filter (· ≠ "") := by
  have trimmed :
    ∀ pieces : List (List Char), ((pieces.map String.ofList).map trim).filter (· ≠ "") =
      ((pieces.map trimChars).filter (· ≠ [])).map String.ofList := by
    intro pieces
    have chars :
        (pieces.map String.ofList).map trim = (pieces.map trimChars).map String.ofList := by
      simp [trim]
    rw [chars, List.filter_map]
    congr 2
    funext piece
    simp
  unfold lines split
  rw [trimmed, trimmed, trimmed_linesOf]

end Fleet.Text
