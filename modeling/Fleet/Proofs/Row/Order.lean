import Fleet.Proofs.Row
import Fleet.Proofs.Text.Bytes
import Mathlib.Data.List.Sort

/-!
# Order of row identifiers

Identifiers are ordered as their bytes are. The separator takes part in that: a context that goes on
after another one with something before the separator comes after it, and its identifiers come
before (`Undercuts`). Only then do identifiers not follow their contexts (`join_before_iff`).

Bytes and characters agree on the order of texts (`before_iff`), so the proof is about lists of
characters. Of two lists in order, one goes on where the other one ends or they differ at some place
(`prefix_or_diverge_of_lt`). If they differ, that decides for the identifiers too; if one goes on,
what it goes on with is compared to the separator and what follows (`separator_lt_append_iff`).
Sorting puts a list into the only arrangement of it that is in order (`sort_eq_iff`), which carries
the result from pairs to whole listings.
-/

namespace Fleet.Row

/-- The bytes of a text come before those of another. -/
def Before (a b : String) : Prop := Text.bytes a < Text.bytes b

/-- A context goes on after another one with something that comes before the separator. -/
def Undercuts (context longer : String) : Prop :=
  ∃ rest, rest ≠ "" ∧ longer = context ++ rest ∧ Before rest separator

/-- A row comes no later than another one by its context, and by its path within one context. -/
def InOrder (r r' : String × String) : Prop :=
  Before r.1 r'.1 ∨ r.1 = r'.1 ∧ ¬ Before r'.2 r.2

/-- Identifier of a row. -/
def ofRow (r : String × String) : String := join r.1 r.2

/-- Which of two texts comes first is decided by their bytes. -/
instance (a b : String) : Decidable (Before a b) :=
  inferInstanceAs (Decidable (Text.bytes a < Text.bytes b))

/-- Whether rows are in order is decided by context and path. -/
instance (r r' : String × String) : Decidable (InOrder r r') := inferInstanceAs (Decidable (_ ∨ _))

variable {a b context longer : String} {cs ds p q : List Char}

/-- Bytes and characters agree on which text comes first. -/
lemma before_iff : Before a b ↔ a < b := Text.bytes_lt_iff

/-- A context comes before one that undercuts it. -/
lemma Undercuts.before (undercuts : Undercuts context longer) : Before context longer := by
  obtain ⟨rest, some, rfl, -⟩ := undercuts
  rw [before_iff, String.lt_iff_toList_lt, String.toList_append]
  have more : [] < rest.toList := by
    refine List.not_le.1 fun none => some ?_
    rwa [List.le_nil, String.toList_eq_nil_iff] at none
  have appended : context.toList ++ [] < context.toList ++ rest.toList := List.append_left_lt more
  rwa [List.append_nil] at appended

/-- No context undercuts itself. -/
lemma not_undercuts_self (context : String) : ¬ Undercuts context context :=
  fun undercuts => lt_irrefl _ (before_iff.1 undercuts.before)

/-! ### Characters -/

/-- A list before another one ends first, or has the smaller element at the first difference. -/
lemma prefix_or_diverge_of_lt (lt : cs < ds) : (∃ r, r ≠ [] ∧ ds = cs ++ r) ∨
    ∃ front c d u v, c < d ∧ cs = front ++ c :: u ∧ ds = front ++ d :: v := by
  induction lt with
  | @nil d ds => exact .inl ⟨d :: ds, List.cons_ne_nil d ds, rfl⟩
  | @rel c u d v lt => exact .inr ⟨[], c, d, u, v, lt, rfl, rfl⟩
  | @cons c cs ds _ ih =>
    obtain ⟨r, some, rfl⟩ | ⟨front, x, y, u, v, lt, rfl, rfl⟩ := ih
    · exact .inl ⟨r, some, rfl⟩
    · exact .inr ⟨c :: front, x, y, u, v, lt, rfl, rfl⟩

/-- A common front does not tell which list comes first. -/
lemma append_lt_append_iff (front : List Char) : front ++ cs < front ++ ds ↔ cs < ds := by
  induction front with
  | nil => rfl
  | cons c front ih => rw [List.cons_append, List.cons_append, List.cons_lt_cons_self, ih]

/-- The separator and a text that is no part of one are told apart by their first two characters. -/
lemma separator_lt_append_iff (more : cs ≠ []) (free : ¬ Separated cs)
    (last : cs.getLast? ≠ some '@') : '@' :: '@' :: p < cs ++ q ↔ ¬ cs < ['@', '@'] := by
  obtain _ | ⟨c, cs⟩ := cs
  · exact absurd rfl more
  · by_cases half : c = '@'
    · subst half
      obtain _ | ⟨d, cs⟩ := cs
      · exact absurd rfl last
      · have other : d ≠ '@' := by
          rintro rfl
          exact free ⟨[], cs, rfl⟩
        simp [List.cons_lt_cons_iff, other, other.symm, le_iff_lt_or_eq]
    · simp [List.cons_lt_cons_iff, half, Ne.symm half, le_iff_lt_or_eq]

/-- Between a list and one that goes on after it the rest decides, if the rest is told from the
separator. -/
lemma join_lt_join_iff (lt : cs < ds) (free : ¬ Separated ds) (last : ds.getLast? ≠ some '@') :
    cs ++ '@' :: '@' :: p < ds ++ '@' :: '@' :: q ↔ ¬ ∃ r, r ≠ [] ∧ ds = cs ++ r ∧
      r < ['@', '@'] := by
  obtain ⟨r, more, rfl⟩ | ⟨front, c, d, u, v, less, rfl, rfl⟩ := prefix_or_diverge_of_lt lt
  · have free' : ¬ Separated r := fun sep => free (sep.trans (List.suffix_append cs r).isInfix)
    have last' : r.getLast? ≠ some '@' := by
      rwa [List.getLast?_append_of_ne_nil _ more] at last
    rw [List.append_assoc, append_lt_append_iff, separator_lt_append_iff more free' last']
    refine not_congr ⟨fun early => ⟨r, more, rfl, early⟩, ?_⟩
    rintro ⟨r', -, same, early⟩
    rwa [List.append_cancel_left same]
  · rw [List.append_assoc, List.append_assoc, append_lt_append_iff, List.cons_append,
      List.cons_append, List.cons_lt_cons_iff]
    refine iff_of_true (.inl less) ?_
    rintro ⟨r, -, same, -⟩
    -- a list that differs does not go on
    rw [List.append_assoc, List.cons_append] at same
    obtain ⟨rfl, -⟩ := List.cons.inj (List.append_cancel_left same)
    exact lt_irrefl _ less

/-! ### Identifiers -/

/-- An earlier context has the earlier identifiers, unless the later one undercuts it. -/
lemma join_before_join_iff (plain : Plain longer) (before : Before context longer)
    (path path' : String) :
    Before (join context path) (join longer path') ↔ ¬ Undercuts context longer := by
  rw [before_iff, String.lt_iff_toList_lt] at before
  rw [before_iff, String.lt_iff_toList_lt, toList_join, toList_join,
    join_lt_join_iff before plain.free plain.last]
  refine not_congr ⟨?_, ?_⟩
  · rintro ⟨r, more, same, early⟩
    refine ⟨String.ofList r, ?_, ?_, ?_⟩
    · rwa [Ne, String.ofList_eq_empty_iff]
    · rw [← String.toList_inj, String.toList_append, String.toList_ofList, same]
    · rw [before_iff, String.lt_iff_toList_lt, String.toList_ofList]
      exact early
  · rintro ⟨rest, more, rfl, early⟩
    rw [before_iff, String.lt_iff_toList_lt] at early
    exact ⟨rest.toList, fun none => more (String.toList_eq_nil_iff.1 none),
      String.toList_append, early⟩

/-- Identifiers of one context are ordered as their paths. -/
lemma join_before_join_self_iff (context path path' : String) :
    Before (join context path) (join context path') ↔ Before path path' := by
  rw [before_iff, before_iff, String.lt_iff_toList_lt, String.lt_iff_toList_lt, toList_join,
    toList_join, append_lt_append_iff, List.cons_lt_cons_self, List.cons_lt_cons_self]

variable {r r' : String × String} {rows : List (String × String)} {ids sorted : List String}

/-- Rows with plain contexts are told apart by their identifiers. -/
lemma ofRow_inj (plain : Plain r.1) (plain' : Plain r'.1) (same : ofRow r = ofRow r') : r = r' := by
  have parts := congrArg split same
  rwa [ofRow, ofRow, split_join plain, split_join plain'] at parts

/-- Identifiers of rows in order are in order exactly if the later context does not undercut the
earlier one. -/
lemma ofRow_le_ofRow_iff (plain : Plain r.1) (plain' : Plain r'.1) (inOrder : InOrder r r') :
    ofRow r ≤ ofRow r' ↔ ¬ Undercuts r.1 r'.1 := by
  obtain before | ⟨same, notBefore⟩ := inOrder
  · have differ : ofRow r ≠ ofRow r' := fun same => by
      rw [ofRow_inj plain plain' same, before_iff] at before
      exact lt_irrefl _ before
    rw [← join_before_join_iff plain' before r.2 r'.2, before_iff]
    exact ⟨fun le => lt_of_le_of_ne le differ, le_of_lt⟩
  · refine iff_of_true (not_lt.1 fun less => notBefore ?_) (same ▸ not_undercuts_self r.1)
    rw [← join_before_join_self_iff r.1, before_iff]
    unfold ofRow at less
    rwa [← same] at less

/-- Sorted identifiers are the arrangement of them that is in order. -/
lemma sort_eq_iff (perm : ids.Perm sorted) : sort ids = sorted ↔ sorted.Pairwise (· ≤ ·) := by
  have ordered : (sort ids).Pairwise (· ≤ ·) := List.pairwise_mergeSort' (· ≤ ·) ids
  refine ⟨fun same => same ▸ ordered, fun ordered' => ?_⟩
  exact ((List.mergeSort_perm ids _).trans perm).eq_of_pairwise' ordered ordered'

/-- Of rows in order the earlier context does not undercut the later one. -/
lemma InOrder.not_undercuts (inOrder : InOrder r r') : ¬ Undercuts r'.1 r.1 := by
  intro undercuts
  have back := before_iff.1 undercuts.before
  obtain before | ⟨same, -⟩ := inOrder
  · exact lt_asymm (before_iff.1 before) back
  · exact back.ne same.symm

/-- Among rows in order it is only a later one that can undercut. -/
lemma forall_not_undercuts_iff (inOrder : rows.Pairwise InOrder) :
    (∀ r ∈ rows, ∀ r' ∈ rows, ¬ Undercuts r.1 r'.1) ↔
      rows.Pairwise fun r r' => ¬ Undercuts r.1 r'.1 := by
  constructor
  · exact fun all => List.pairwise_iff_forall_sublist.2 fun sub =>
      all _ (sub.subset (by simp)) _ (sub.subset (by simp))
  · exact fun each => each.forall_of_forall_of_flip (fun r _ => not_undercuts_self r.1)
      (inOrder.imp InOrder.not_undercuts)

/-- Of two plain contexts the earlier one has the earlier identifiers exactly if the later one does
not undercut it, and identifiers of one context are ordered as their paths. So sorted identifiers
are those of the rows sorted by context and path exactly if no context among them undercuts
another. -/
theorem join_before_iff (context context' path path' : String) (rows : List (String × String))
    (ids : List String) :
    (Plain context → Plain context' → Before context context' →
      (Before (join context path) (join context' path') ↔ ¬ Undercuts context context')) ∧
    (Before (join context path) (join context path') ↔ Before path path') ∧
    ((∀ r ∈ rows, Plain r.1) → rows.Pairwise InOrder → ids.Perm (rows.map ofRow) →
      (sort ids = rows.map ofRow ↔ ∀ r ∈ rows, ∀ r' ∈ rows, ¬ Undercuts r.1 r'.1)) := by
  refine ⟨fun _ plain before => join_before_join_iff plain before path path',
    join_before_join_self_iff context path path', fun plain inOrder perm => ?_⟩
  rw [sort_eq_iff perm, forall_not_undercuts_iff inOrder, List.pairwise_map]
  have agree : ∀ {r r'}, r ∈ rows → r' ∈ rows → InOrder r r' →
      (ofRow r ≤ ofRow r' ↔ ¬ Undercuts r.1 r'.1) := fun mem mem' =>
    ofRow_le_ofRow_iff (plain _ mem) (plain _ mem')
  constructor
  · exact fun each => (each.and inOrder).imp_of_mem fun mem mem' ⟨le, inOrder⟩ =>
      (agree mem mem' inOrder).1 le
  · exact fun each => (each.and inOrder).imp_of_mem fun mem mem' ⟨not, inOrder⟩ =>
      (agree mem mem' inOrder).2 not

/-- A context that undercuts another one, and rows among which none does. -/
theorem join_before_iff_siblings :
    let rows := [("a", "y"), ("a", "z"), ("a@b", "x"), ("ab", "")]
    let ids := ["ab@@", "a@b@@x", "a@@z", "a@@y"]
    (Plain "prod" ∧ Plain "prod-eu" ∧ Before "prod" "prod-eu" ∧ Undercuts "prod" "prod-eu" ∧
      ¬ Before (join "prod" "x") (join "prod-eu" "y")) ∧
    (∀ r ∈ rows, Plain r.1) ∧ rows.Pairwise InOrder ∧ ids.Perm (rows.map ofRow) ∧
      sort ids = rows.map ofRow ∧ ¬ Undercuts "a" "a@b" := by
  intro rows ids
  obtain ⟨pair, -, sorts⟩ := join_before_iff "prod" "prod-eu" "x" "y" rows ids
  constructor
  · have plain : Plain "prod" := by decide
    have plain' : Plain "prod-eu" := by decide
    have before : Before "prod" "prod-eu" := by decide
    have undercuts : Undercuts "prod" "prod-eu" := ⟨"-eu", by decide, by decide, by decide⟩
    exact ⟨plain, plain', before, undercuts,
      fun follows => (pair plain plain' before).1 follows undercuts⟩
  · have plain : ∀ r ∈ rows, Plain r.1 := by decide
    have inOrder : rows.Pairwise InOrder := by decide
    have perm : ids.Perm (rows.map ofRow) := by decide
    have sorted : sort ids = rows.map ofRow := (sort_eq_iff perm).2 (by decide)
    have none := (sorts plain inOrder perm).1 sorted
    exact ⟨plain, inOrder, perm, sorted, none ("a", "y") (by decide) ("a@b", "x") (by decide)⟩

/-- A context and a later one whose identifiers come first, since a hyphen comes before the
separator. -/
theorem not_join_before_hyphen :
    Plain "prod" ∧ Plain "prod-eu" ∧ Before "prod" "prod-eu" ∧
      InOrder ("prod", "x") ("prod-eu", "y") ∧
    ¬ Before (join "prod" "x") (join "prod-eu" "y") ∧
    sort [join "prod" "x", join "prod-eu" "y"] = [join "prod-eu" "y", join "prod" "x"] :=
  ⟨by decide, by decide, by decide, by decide, by decide, (sort_eq_iff (by decide)).2 (by decide)⟩

end Fleet.Row
