import Fleet.Row
import Mathlib.Data.List.Infix

/-!
# Codec of row identifiers

A context and a path that were joined are found again by splitting (`split_join`), as long as the
first separator is the one between them, and only then (`split_join_eq_iff`). Identifiers with a
separator and pairs with a plain context stand for one another (`split_join_inverse`).

A context is `Plain` if no separator begins in it, neither within it nor with its last character:
the separator is two at signs, so a context that ends with one lets the separator begin a character
too early. Of the path nothing is ever asked, since a split takes the first separator. All this is
about lists of characters and the function that cuts at the first separator (`cutChars?_append`,
`eq_of_cutChars?`), and is carried over to texts at the end.
-/

namespace Fleet.Row

/-- The separator occurs among the characters. -/
def Separated (cs : List Char) : Prop := ['@', '@'] <:+: cs

/-- No separator begins inside the context of an identifier. -/
structure Plain (context : String) : Prop where
  free : ¬ Separated context.toList
  last : context.toList.getLast? ≠ some '@'

/-- Whether a text holds the separator is decided by its places. -/
instance (cs : List Char) : Decidable (Separated cs) := inferInstanceAs (Decidable (_ <:+: _))

/-- Whether a context is plain is decided by its characters. -/
instance (context : String) : Decidable (Plain context) :=
  decidable_of_iff (¬ Separated context.toList ∧ context.toList.getLast? ≠ some '@')
    ⟨fun ⟨free, last⟩ => ⟨free, last⟩, fun ⟨free, last⟩ => ⟨free, last⟩⟩

/-- A separator behind another character is still one. -/
lemma Separated.cons {cs : List Char} (sep : Separated cs) (c : Char) : Separated (c :: cs) :=
  List.infix_cons sep

/-- A text without the character of the separator has no separator. -/
lemma not_separated_of_not_mem {cs : List Char} (none : '@' ∉ cs) : ¬ Separated cs :=
  fun sep => none (sep.subset (List.mem_cons_self ..))

/-- Nothing is cut where there is no separator. -/
lemma cutChars?_eq_none {cs : List Char} (free : ¬ Separated cs) : cutChars? cs = none := by
  induction cs with
  | nil => rfl
  | cons c cs ih =>
    cases cs with
    | nil => rfl
    | cons d cs =>
      unfold cutChars?
      split
      · rename_i both
        obtain ⟨rfl, rfl⟩ := both
        exact absurd ⟨[], cs, rfl⟩ free
      · rw [ih fun sep => free (sep.cons c)]
        rfl

/-- The cut is at the first separator. -/
lemma cutChars?_append {cs : List Char} (free : ¬ Separated cs) (last : cs.getLast? ≠ some '@')
    (p : List Char) : cutChars? (cs ++ '@' :: '@' :: p) = some (cs, p) := by
  induction cs with
  | nil => rfl
  | cons c cs ih =>
    cases cs with
    | nil =>
      -- half a separator at the end would begin one
      have other : c ≠ '@' := by
        rintro rfl
        exact last rfl
      show (if c = '@' ∧ '@' = '@' then _ else _) = _
      rw [if_neg fun both => other both.1]
      rfl
    | cons d cs =>
      have rest := ih (fun sep => free (sep.cons c)) (by rwa [List.getLast?_cons_cons] at last)
      show (if c = '@' ∧ d = '@' then _ else _) = _
      split
      · rename_i both
        obtain ⟨rfl, rfl⟩ := both
        exact absurd ⟨[], cs, rfl⟩ free
      · show (cutChars? ((d :: cs) ++ '@' :: '@' :: p)).map _ = _
        rw [rest]
        rfl

/-- A separator begins at the first character or later. -/
lemma separated_cons_iff {c : Char} {cs : List Char} :
    Separated (c :: cs) ↔ c = '@' ∧ cs.head? = some '@' ∨ Separated cs := by
  unfold Separated
  rw [List.infix_cons_iff, List.cons_prefix_cons]
  cases cs with
  | nil => simp
  | cons d cs => simp [eq_comm]

/-- What was cut are the two sides of a separator. -/
lemma eq_of_cutChars? {cs c p : List Char} (cut : cutChars? cs = some (c, p)) :
    cs = c ++ '@' :: '@' :: p := by
  fun_induction cutChars? cs generalizing c with
  | case1 => cases cut
  | case2 => cases cut
  | case3 x y r both =>
    cases cut
    obtain ⟨rfl, rfl⟩ := both
    rfl
  | case4 x y r _ ih =>
    obtain ⟨⟨a, b⟩, inner, same⟩ := Option.map_eq_some_iff.1 cut
    cases same
    rw [ih inner]
    rfl

/-- No separator begins inside what was cut off. -/
lemma plain_of_cutChars? {cs c p : List Char} (cut : cutChars? cs = some (c, p)) :
    ¬ Separated c ∧ c.getLast? ≠ some '@' := by
  fun_induction cutChars? cs generalizing c with
  | case1 => cases cut
  | case2 => cases cut
  | case3 x y r both =>
    cases cut
    exact ⟨not_separated_of_not_mem List.not_mem_nil, nofun⟩
  | case4 x y r apart ih =>
    obtain ⟨⟨a, b⟩, inner, same⟩ := Option.map_eq_some_iff.1 cut
    cases same
    obtain ⟨free, last⟩ := ih inner
    have rest := eq_of_cutChars? inner
    cases a with
    | nil =>
      cases rest
      have other : x ≠ '@' := fun half => apart ⟨half, rfl⟩
      exact ⟨by simp [separated_cons_iff, free], by simpa using other⟩
    | cons e a =>
      cases rest
      refine ⟨fun sep => ?_, by rwa [List.getLast?_cons_cons]⟩
      obtain ⟨half, half'⟩ | sep := separated_cons_iff.1 sep
      · exact apart ⟨half, Option.some.inj half'⟩
      · exact free sep

/-- Characters of an identifier: the context, two at signs, the path. -/
lemma toList_join (context path : String) :
    (join context path).toList = context.toList ++ '@' :: '@' :: path.toList := by
  unfold join separator
  rw [String.toList_append, String.toList_append, List.append_assoc]
  rfl

/-- A context without separators and a path come back from their identifier. -/
lemma split_join {context : String} (plain : Plain context) (path : String) :
    split (join context path) = (context, path) := by
  unfold split
  rw [toList_join, cutChars?_append plain.free plain.last]
  show (String.ofList context.toList, String.ofList path.toList) = _
  rw [String.ofList_toList, String.ofList_toList]

/-- A text without separator has no context. -/
lemma split_of_free {id : String} (free : ¬ Separated id.toList) : split id = ("", id) := by
  unfold split
  rw [cutChars?_eq_none free]

/-- The last character of a context is taken for half of the separator, and half of the separator
goes to the path. -/
lemma split_join_half (context path : String) (free : ¬ Separated (context ++ "@").toList) :
    split (join (context ++ "@") path) = (context, "@" ++ path) := by
  rw [String.toList_append] at free
  have plain : Plain context := by
    refine ⟨fun sep => free (sep.trans (List.prefix_append ..).isInfix), fun last => free ?_⟩
    obtain ⟨cs, ends⟩ := List.getLast?_eq_some_iff.1 last
    rw [ends, List.append_assoc]
    exact (List.suffix_append ..).isInfix
  have same : join (context ++ "@") path = join context ("@" ++ path) := by
    unfold join separator
    simp only [String.append_assoc]
    rfl
  rw [same, split_join plain]

/-- A context and a path come back from their identifier exactly if no separator begins inside the
context: neither within it nor with its last character. Of the path nothing is asked. -/
theorem split_join_eq_iff (context path : String) :
    split (join context path) = (context, path) ↔ Plain context := by
  constructor
  · intro back
    unfold split at back
    cases cut : cutChars? (join context path).toList with
    | none =>
      -- only the empty context is what a text without separators yields
      rw [cut] at back
      obtain ⟨rfl, -⟩ := Prod.mk.inj back
      exact ⟨not_separated_of_not_mem List.not_mem_nil, nofun⟩
    | some cp =>
      rw [cut] at back
      obtain ⟨rfl, -⟩ := Prod.mk.inj back
      obtain ⟨free, last⟩ := plain_of_cutChars? cut
      rw [← String.toList_ofList (l := cp.1)] at free last
      exact ⟨free, last⟩
  · exact fun plain => split_join plain path

/-- Two texts without separators whose identifier has one too early. -/
theorem not_split_join_half :
    ¬ Separated "a@".toList ∧ ¬ Separated "b".toList ∧ split (join "a@" "b") = ("a", "@b") ∧
    split (join "a@" "b") ≠ ("a@", "b") := by
  have free : ¬ Separated "a@".toList := by
    unfold Separated
    decide
  have half : split (join "a@" "b") = ("a", "@b") := split_join_half "a" "b" free
  refine ⟨free, not_separated_of_not_mem (by decide), half, ?_⟩
  rw [half]
  decide

/-! ### Identifiers and pairs -/

/-- An identifier that was joined holds the separator. -/
lemma separated_join (context path : String) : Separated (join context path).toList := by
  rw [toList_join]
  exact ⟨context.toList, path.toList, by rw [List.append_assoc]; rfl⟩

/-- Something is cut exactly where there is a separator. -/
lemma isSome_cutChars?_iff {cs : List Char} : (cutChars? cs).isSome ↔ Separated cs := by
  constructor
  · intro cut
    obtain ⟨⟨c, p⟩, cut⟩ := Option.isSome_iff_exists.1 cut
    exact ⟨c, p, by rw [eq_of_cutChars? cut, List.append_assoc]; rfl⟩
  · intro sep
    fun_induction cutChars? cs with
    | case1 => exact absurd sep (not_separated_of_not_mem List.not_mem_nil)
    | case2 c => simp [separated_cons_iff, not_separated_of_not_mem] at sep
    | case3 c d r both => rfl
    | case4 c d r apart ih =>
      rw [Option.isSome_map]
      obtain ⟨half, half'⟩ | sep := separated_cons_iff.1 sep
      · exact absurd ⟨half, Option.some.inj half'⟩ apart
      · exact ih sep

/-- An identifier names a context exactly if it holds the separator. -/
lemma isMulti_iff {id : String} : isMulti id ↔ Separated id.toList := isSome_cutChars?_iff

/-- The parts of an identifier with a separator. -/
lemma exists_split {id : String} (sep : Separated id.toList) :
    ∃ c p, cutChars? id.toList = some (c, p) ∧ split id = (String.ofList c, String.ofList p) := by
  obtain ⟨⟨c, p⟩, cut⟩ := Option.isSome_iff_exists.1 (isSome_cutChars?_iff.2 sep)
  refine ⟨c, p, cut, ?_⟩
  unfold split
  rw [cut]

/-- An identifier with a separator comes back from its parts. -/
lemma join_split {id : String} (sep : Separated id.toList) :
    join (split id).1 (split id).2 = id := by
  obtain ⟨c, p, cut, parts⟩ := exists_split sep
  rw [parts, ← String.toList_inj, toList_join, String.toList_ofList, String.toList_ofList]
  exact (eq_of_cutChars? cut).symm

/-- Splitting yields plain contexts only. -/
lemma plain_split {id : String} (sep : Separated id.toList) : Plain (split id).1 := by
  obtain ⟨c, p, cut, parts⟩ := exists_split sep
  obtain ⟨free, last⟩ := plain_of_cutChars? cut
  rw [parts]
  exact ⟨by rwa [String.toList_ofList], by rwa [String.toList_ofList]⟩

/-- Identifiers with a separator and pairs with a plain context stand for one another. A pair comes
back from its identifier exactly if its context is plain, an identifier with a separator comes back
from its parts, which are such a pair, and one without has no context. -/
theorem split_join_inverse :
    (∀ context path, Separated (join context path).toList ∧
      (split (join context path) = (context, path) ↔ Plain context)) ∧
    (∀ id, Separated id.toList →
      isMulti id ∧ join (split id).1 (split id).2 = id ∧ Plain (split id).1) ∧
    ∀ id, ¬ Separated id.toList → ¬ isMulti id ∧ split id = ("", id) := by
  refine ⟨fun context path => ⟨separated_join context path, ?_, fun plain => split_join plain path⟩,
    ?_, ?_⟩
  · intro back
    have plain := plain_split (separated_join context path)
    rwa [back] at plain
  · intro id sep
    exact ⟨isMulti_iff.2 sep, join_split sep, plain_split sep⟩
  · intro id free
    exact ⟨fun multi => free (isMulti_iff.1 multi), split_of_free free⟩

/-- Where three halves of a separator stand in a row, the first two are the separator. -/
theorem split_join_inverse_runs :
    (split (join "a@b" "@c") = ("a@b", "@c") ∧ split (join "b@" "@c") ≠ ("b@", "@c")) ∧
    (Separated "b@@@c".toList ∧ join (split "b@@@c").1 (split "b@@@c").2 = "b@@@c") ∧
    ¬ Separated "b@c".toList ∧ split "b@c" = ("", "b@c") := by
  obtain ⟨pairs, separated, free⟩ := split_join_inverse
  have sep : Separated "b@@@c".toList := by decide
  have one : ¬ Separated "b@c".toList := by decide
  refine ⟨⟨(pairs _ _).2.2 (by decide), fun back => ?_⟩, ⟨sep, (separated _ sep).2.1⟩, one,
    (free _ one).2⟩
  have plain := (pairs _ _).2.1 back
  exact absurd plain (by decide)

end Fleet.Row
