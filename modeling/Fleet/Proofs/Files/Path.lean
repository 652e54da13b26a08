import Fleet.Files.Tree
import Fleet.Proofs.Except
import Fleet.Proofs.Text.Split
import Mathlib.Data.List.TakeWhile

/-!
# Paths

A path under a directory goes the way of the directory and then its own (`joined_under`). A path
without a last name leads to the root, so where a file is read there is a directory
(`exists_parent?`).

Paths are texts, and two texts may name the same way: slashes are repeated, or stand at the end.
`steps` forgets such differences, and `Joined` relates a directory and a path to the path from the
directory by the steps of all three. An absolute path is taken from no directory
(`under_of_isAbsolute`).
-/

namespace Fleet.Files

variable {t : Tree} {dir path : String} {names : List String}

/-- Names of a path that lead somewhere. -/
def steps (path : String) : List String := (Tree.names path).filter (· ≠ "")

/-- A path goes where a directory goes, and then where another path goes. -/
structure Joined (dir path joined : String) : Prop where
  start : Tree.isAbsolute joined = Tree.isAbsolute dir
  steps : steps joined = steps dir ++ steps path

/-- The steps of two paths with a slash between them are those of both. -/
lemma steps_slash (a b : String) : steps (a ++ "/" ++ b) = steps a ++ steps b := by
  have chars : (a ++ "/" ++ b).toList = a.toList ++ '/' :: b.toList := by simp
  unfold steps Tree.names Text.split
  rw [chars, Text.splitChars_eq_splitOn, List.splitOn_append_cons_self, Text.splitChars_eq_splitOn,
    Text.splitChars_eq_splitOn, List.map_append, List.filter_append]

/-- A slash at the end adds no step. -/
lemma steps_slash_end (dir : String) : steps (dir ++ "/") = steps dir := by
  have joined := steps_slash dir ""
  rwa [String.append_empty, show steps "" = [] from rfl, List.append_nil] at joined

/-- The front of a path tells whether it is absolute. -/
lemma isAbsolute_append (some : dir ≠ "") (path : String) :
    Tree.isAbsolute (dir ++ path) = Tree.isAbsolute dir := by
  have chars : dir.toList ≠ [] := fun none => some (String.toList_eq_nil_iff.1 none)
  unfold Tree.isAbsolute
  rw [String.toList_append, List.head?_append_of_ne_nil _ chars]

/-- An absolute path is the same under any directory. -/
lemma under_of_isAbsolute (absolute : Tree.isAbsolute path) : under dir path = path :=
  if_pos absolute

/-- A relative path is taken from the directory on, whether or not the directory ends in a slash. -/
lemma joined_under (relative : ¬ Tree.isAbsolute path) : Joined dir path (under dir path) := by
  unfold under
  rw [if_neg relative]
  split_ifs with none slash
  · subst none
    exact ⟨eq_false_of_ne_true relative, rfl⟩
  · have whole : dir = String.ofList dir.toList.dropLast ++ "/" := by
      rw [← String.toList_inj, String.toList_append, String.toList_ofList]
      exact (List.dropLast_append_getLast? '/' slash).symm
    have front := steps_slash_end (String.ofList dir.toList.dropLast)
    have joined := steps_slash (String.ofList dir.toList.dropLast) path
    rw [← whole] at front joined
    rw [← front] at joined
    exact ⟨isAbsolute_append none path, joined⟩
  · refine ⟨?_, steps_slash dir path⟩
    rw [String.append_assoc]
    exact isAbsolute_append none _

/-! ### Directories of files -/

/-- Empty names lead nowhere else. -/
lemma walk_of_empty (empty : ∀ n ∈ names, n = "") (here : Location) :
    t.walk here names = .ok here := by
  induction names with
  | nil => rfl
  | cons n names ih =>
    rw [List.forall_mem_cons] at empty
    rw [Tree.walk, if_pos (.inl empty.1)]
    exact ih empty.2

/-- Between slashes only there is nothing. -/
lemma splitChars_slashes (n : Nat) : ∀ p ∈ Text.splitChars '/' (List.replicate n '/'), p = [] := by
  induction n with
  | zero => exact fun p mem => List.mem_singleton.1 mem
  | succ n ih =>
    rw [List.replicate_succ, Text.splitChars, if_pos rfl]
    exact List.forall_mem_cons.2 ⟨rfl, ih⟩

/-- A path of slashes leads to the root. -/
lemma locate_of_slashes (some : path ≠ "") (slashes : ∀ c ∈ path.toList, c = '/') :
    t.locate path = .ok [] := by
  have chars : path.toList = List.replicate path.toList.length '/' :=
    List.eq_replicate_of_mem slashes
  have noNul : ¬ path.toList.contains '\x00' := by
    rw [List.contains_iff_mem]
    exact fun mem => absurd (slashes _ mem) (by decide)
  have absolute : Tree.isAbsolute path := by
    cases first : path.toList with
    | nil => exact absurd (String.toList_eq_nil_iff.1 first) some
    | cons c cs =>
      have slash : c = '/' := slashes c (first ▸ List.mem_cons_self)
      unfold Tree.isAbsolute
      rw [first, slash]
      rfl
  have empty : ∀ n ∈ Tree.names path, n = "" := by
    intro n mem
    obtain ⟨p, piece, rfl⟩ := List.mem_map.1 mem
    rw [chars] at piece
    rw [splitChars_slashes _ p piece]
  unfold Tree.locate
  rw [if_neg noNul, if_neg some, if_pos absolute]
  exact walk_of_empty empty []

/-- A path without a parent is made of slashes. -/
lemma slashes_of_parent? (none : parent? path = none) : ∀ c ∈ path.toList, c = '/' := by
  unfold parent? at none
  dsimp only at none
  split_ifs at none with slashes
  rw [List.reverse_eq_nil_iff, List.dropWhile_eq_nil_iff] at slashes
  exact fun c mem => of_decide_eq_true (slashes c (List.mem_reverse.2 mem))

/-- What can be read is not the root, so it is in a directory. -/
lemma exists_parent? {text : String} (reads : t.readText path = .ok text) :
    ∃ dir, parent? path = some dir := by
  cases parent : parent? path with
  | some dir => exact ⟨dir, rfl⟩
  | none =>
    have slashes := slashes_of_parent? parent
    obtain ⟨bytes, reads, -⟩ := bind_eq_ok.1 reads
    obtain ⟨l, finds, reads⟩ := bind_eq_ok.1 reads
    by_cases empty : path = ""
    · subst empty
      cases finds
    · rw [locate_of_slashes empty slashes] at finds
      cases finds
      cases reads

end Fleet.Files
