import Fleet.Proofs.Text.Split

/-!
# Rows of a text

A row ends at a line feed or with the text. The rows of two texts are those of the one and those of
the other if the first text ends where a row does (`rows_append`). A line feed ends the last row, or
is an empty row where there is none to end (`rows_feed`).

Rows differ from the pieces between line feeds by the last one, which is no row if it is empty. They
are defined by recursion on characters, with `lead` for a character that goes in front of the first
row; whether a text has ended its last row (`Ended`) is a matter of its last character.
-/

namespace Fleet.Text

variable {c : Char} {cs ds : List Char} {s t : String}

/-- A character at the front of the first row. -/
def lead (c : Char) : List (List Char) → List (List Char)
  | [] => [[c]]
  | p :: ps => (c :: p) :: ps

/-- Rows of characters: every line feed ends one, and what is left after the last line feed is
one. -/
def rowsOf : List Char → List (List Char)
  | [] => []
  | c :: cs => if c = '\n' then [] :: rowsOf cs else lead c (rowsOf cs)

/-- Rows of a text. -/
def rows (s : String) : List String := (rowsOf s.toList).map String.ofList

/-- The text ends where a row does. -/
def Ended (s : String) : Prop := ∀ c ∈ s.toList.getLast?, c = '\n'

/-- Whether a text ends its last row is decided by its last character. -/
instance (s : String) : Decidable (Ended s) :=
  decidable_of_iff (s.toList.getLast?.all (· == '\n')) (by simp [Ended, Option.all_eq_true])

/-! ### Rows of characters -/

/-- A character in front of the first row changes no later row. -/
lemma lead_append {ps : List (List Char)} (some : ps ≠ []) (qs : List (List Char)) :
    lead c (ps ++ qs) = lead c ps ++ qs := by
  cases ps with
  | nil => exact absurd rfl some
  | cons p ps => rfl

/-- A character is in some row. -/
lemma lead_ne_nil (c : Char) (ps : List (List Char)) : lead c ps ≠ [] := by
  cases ps <;> exact List.cons_ne_nil _ _

/-- A line feed ends an empty row. -/
lemma rowsOf_feed (cs : List Char) : rowsOf ('\n' :: cs) = [] :: rowsOf cs := if_pos rfl

/-- Any other character goes in front of the first row. -/
lemma rowsOf_cons (other : c ≠ '\n') (cs : List Char) : rowsOf (c :: cs) = lead c (rowsOf cs) :=
  if_neg other

/-- A text that is not empty has a row. -/
lemma rowsOf_ne_nil (some : cs ≠ []) : rowsOf cs ≠ [] := by
  cases cs with
  | nil => exact absurd rfl some
  | cons c cs =>
    rw [rowsOf]
    split
    · exact List.cons_ne_nil _ _
    · exact lead_ne_nil _ _

/-- Only the last row of a text goes on in what follows, and only if no line feed has ended it. -/
lemma rowsOf_append (ended : ∀ c ∈ cs.getLast?, c = '\n') (ds : List Char) :
    rowsOf (cs ++ ds) = rowsOf cs ++ rowsOf ds := by
  induction cs with
  | nil => rfl
  | cons c cs ih =>
    have rest : ∀ d ∈ cs.getLast?, d = '\n' := by
      cases cs with
      | nil => exact nofun
      | cons d cs => rwa [List.getLast?_cons_cons] at ended
    rw [List.cons_append]
    by_cases feed : c = '\n'
    · rw [feed, rowsOf_feed, rowsOf_feed, ih rest, List.cons_append]
    · have some : cs ≠ [] := by
        rintro rfl
        exact feed (ended c rfl)
      rw [rowsOf_cons feed, rowsOf_cons feed, ih rest, lead_append (rowsOf_ne_nil some)]

/-- A line feed ends the last row if there is one to end. -/
lemma rowsOf_concat_feed (open_ : ¬ ∀ c ∈ cs.getLast?, c = '\n') :
    rowsOf (cs ++ ['\n']) = rowsOf cs := by
  induction cs with
  | nil => exact absurd nofun open_
  | cons c cs ih =>
    rw [List.cons_append]
    cases cs with
    | nil =>
      have other : c ≠ '\n' := by
        rintro rfl
        exact open_ fun d last => (Option.some.inj last).symm
      rw [List.nil_append, rowsOf_cons other, rowsOf_cons other]
      rfl
    | cons d cs =>
      rw [List.getLast?_cons_cons] at open_
      rw [rowsOf, ih open_, ← rowsOf]

/-- A line is one row. -/
lemma rowsOf_line (free : '\n' ∉ cs) : rowsOf (cs ++ ['\n']) = [cs] := by
  induction cs with
  | nil => rfl
  | cons c cs ih =>
    rw [List.mem_cons, not_or] at free
    obtain ⟨other, free⟩ := free
    rw [List.cons_append, rowsOf_cons (Ne.symm other), ih free]
    rfl

/-! ### Rows of texts -/

/-- Behind a text that ends its last row new rows begin. -/
lemma rows_append (ended : Ended s) (t : String) : rows (s ++ t) = rows s ++ rows t := by
  unfold rows
  rw [String.toList_append, rowsOf_append ended, List.map_append]

/-- A line feed at the end ends the last row. -/
lemma ended_feed (s : String) : Ended (s ++ "\n") := by
  intro c last
  rw [String.toList_append] at last
  simpa using last.symm

/-- What comes after a line feed decides how a text ends. -/
lemma ended_feed_append_iff : Ended (s ++ "\n" ++ t) ↔ Ended t := by
  unfold Ended
  rw [String.toList_append]
  cases last : t.toList with
  | nil => simp
  | cons c cs => rw [List.getLast?_append_of_ne_nil _ (List.cons_ne_nil c cs)]

/-- A line feed at the end makes a row of its own exactly if the text before it had ended. -/
lemma rows_feed (s : String) : rows (s ++ "\n") = rows s ++ if Ended s then [""] else [] := by
  split
  · rename_i ended
    rw [rows_append ended]
    rfl
  · rename_i open_
    unfold rows
    rw [String.toList_append, show "\n".toList = ['\n'] from rfl, rowsOf_concat_feed open_,
      List.append_nil]

/-- A row that a line feed ends. -/
lemma rows_line (free : '\n' ∉ s.toList) : rows (s ++ "\n") = [s] := by
  unfold rows
  rw [String.toList_append, show "\n".toList = ['\n'] from rfl, rowsOf_line free]
  exact congrArg (fun line => [line]) String.ofList_toList

end Fleet.Text
