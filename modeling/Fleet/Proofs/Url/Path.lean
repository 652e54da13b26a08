import Fleet.Proofs.Text.Split
import Fleet.Proofs.Url.Percent
import Fleet.Url.Basic

/-!
# Segments added to a path

Whatever is added, the path stays in front (`Grown.prefix_text`). Texts that are added as they stand
can be read off the path (`Literal.segment?_eq`, `segments_eq_of_text_eq`), and every other text
stands for the same segment as one more does (`segment?_twin`).

A text is `Literal` if it means no directory and holds none of the characters that are dropped. What
is `written` of such a text is its percent encoding, which can be undone and holds no slash, so both
the texts and the places between them are seen in the path. For any other text there is a `twin`:
the other one of the two that mean a directory, which make no segment, or the text with one more
character that is dropped.

Segments are pushed one after another, and an empty segment that is the only one gives its place to
the first of them. `Grown base there` says that a path is the base with something more.
-/

namespace Fleet.Url

variable {special : Bool} {s t : String} {base there front : List String} {ss ps qs : List String}

/-! ### Texts that are added as they stand -/

/-- The text is a segment of its own, and loses none of its characters. -/
structure Literal (s : String) : Prop where
  here : s ≠ "."
  upper : s ≠ ".."
  kept : ¬ s.toList.any isDropped

/-- Whether a text is literal is decided by its characters. -/
instance (s : String) : Decidable (Literal s) :=
  decidable_of_iff (s ≠ "." ∧ s ≠ ".." ∧ ¬ s.toList.any isDropped)
    ⟨fun ⟨here, upper, kept⟩ => ⟨here, upper, kept⟩, fun ⟨here, upper, kept⟩ => ⟨here, upper, kept⟩⟩

/-- The segment of a text that is added as it stands. -/
def written (special : Bool) (s : String) : String :=
  String.ofList (encode (segmentSet special) s.toList)

/-- Texts are told apart by what is written of them. -/
lemma written_injective (special : Bool) : Function.Injective (written special) := by
  intro s t same
  have percent : segmentSet special '%' = true := by cases special <;> rfl
  exact String.toList_inj.1 (encode_injective percent (String.ofList_inj.1 same))

/-- A literal text is a segment, as it is written. -/
lemma Literal.segment?_eq (literal : Literal s) :
    segment? special s = some (written special s) := by
  have kept : s.toList.filter (!isDropped ·) = s.toList := by
    rw [List.filter_eq_self]
    intro c mem
    have stays : ¬ isDropped c := fun gone => literal.kept (List.any_eq_true.2 ⟨c, mem, gone⟩)
    simpa using stays
  unfold segment? segmentText
  rw [if_neg (not_or.2 ⟨literal.here, literal.upper⟩), kept]
  rfl

/-- A text that is added as it stands does not lead elsewhere. -/
lemma Literal.written_ne (literal : Literal s) :
    written special s ≠ "." ∧ written special s ≠ ".." := by
  have dot : written special "." = "." := by cases special <;> decide
  have dots : written special ".." = ".." := by cases special <;> decide
  exact ⟨fun same => literal.here (written_injective special (same.trans dot.symm)),
    fun same => literal.upper (written_injective special (same.trans dots.symm))⟩

/-- Only of the empty text nothing is written. -/
lemma written_eq_empty_iff : written special s = "" ↔ s = "" := by
  have empty : written special "" = "" := by cases special <;> rfl
  exact ⟨fun none => written_injective special (none.trans empty.symm),
    fun none => by rw [none, empty]⟩

/-- What is written holds no slash. -/
lemma slash_not_mem_written (special : Bool) (s : String) : '/' ∉ (written special s).toList := by
  have slash : segmentSet special '/' = true := by cases special <;> rfl
  unfold written
  rw [String.toList_ofList]
  exact slash_not_mem_encode slash _

/-! ### Other texts -/

/-- Another text that is added as this one is, or the same one if it is added as it stands. -/
def twin (s : String) : String :=
  if s = "." then ".." else if s = ".." then "."
    else if s.toList.any isDropped then s ++ "\t" else s

/-- Exactly the literal texts have no twin but themselves. -/
lemma twin_eq_self_iff : twin s = s ↔ Literal s := by
  unfold twin
  split_ifs with here upper dropped
  · subst here
    decide
  · subst upper
    decide
  · have longer : s ++ "\t" ≠ s := by
      intro same
      have lengths := congrArg String.length same
      rw [String.length_append] at lengths
      exact absurd lengths (Nat.ne_of_gt (Nat.lt_add_of_pos_right Nat.one_pos))
    exact ⟨fun same => absurd same longer, fun literal => absurd dropped literal.kept⟩
  · exact ⟨fun _ => ⟨here, upper, dropped⟩, fun _ => rfl⟩

/-- A text that loses characters is a segment, whatever it means afterwards. -/
lemma segment?_of_dropped (dropped : s.toList.any isDropped) :
    segment? special s = some (segmentText special s) := by
  refine if_neg (not_or.2 ⟨?_, ?_⟩)
  · rintro rfl
    exact absurd dropped (by decide)
  · rintro rfl
    exact absurd dropped (by decide)

/-- A text and its twin make the same segment, or none. -/
lemma segment?_twin (special : Bool) (s : String) :
    segment? special (twin s) = segment? special s := by
  unfold twin
  split_ifs with here upper dropped
  · subst here
    rfl
  · subst upper
    rfl
  · have dropped' : (s ++ "\t").toList.any isDropped := by
      rw [String.toList_append, List.any_append, dropped]
      rfl
    have same : segmentText special (s ++ "\t") = segmentText special s := by
      unfold segmentText
      rw [String.toList_append, List.filter_append]
      exact congrArg (fun cs => String.ofList (encode (segmentSet special) cs)) (List.append_nil _)
    rw [segment?_of_dropped dropped', segment?_of_dropped dropped, same]
  · rfl

/-- Only the empty text has an empty twin. -/
lemma twin_eq_empty_iff : twin s = "" ↔ s = "" := by
  unfold twin
  split_ifs with here upper dropped
  · subst here
    decide
  · subst upper
    decide
  · rw [String.append_eq_empty_iff]
    exact and_iff_left_of_imp fun none => by rw [none] at dropped; cases dropped
  · rfl

/-- The twin of a text without slashes has none. -/
lemma slash_not_mem_twin (free : '/' ∉ s.toList) : '/' ∉ (twin s).toList := by
  unfold twin
  split_ifs
  · decide
  · decide
  · rw [String.toList_append]
    exact fun mem => (List.mem_append.1 mem).elim free (by decide)
  · exact free

/-! ### Segments one after another -/

/-- Segments that stay whatever is added. -/
def root (there : List String) : List String := if there = [""] then [] else there

/-- Segments are more than an empty one if there is another before the last, or the last is not
empty. -/
lemma append_ne_empty (some : there ≠ [] ∨ s ≠ "") : there ++ [s] ≠ [""] := by
  intro only
  obtain ⟨none, same⟩ | ⟨-, none⟩ := List.append_eq_singleton_iff.1 only
  · exact some.elim (· none) (· (List.head_eq_of_cons_eq same))
  · cases none

/-- Something was added to segments. -/
def Grown (base segments : List String) : Prop := ∃ more, more ≠ [] ∧ segments = base ++ more

/-- A segment that means no directory is added. -/
lemma push_of_plain (here : s ≠ ".") (upper : s ≠ "..") (there : List String) :
    push there s = root there ++ [s] := by
  unfold push
  rw [if_neg upper, if_neg here]
  rfl

/-- A path with one more segment has grown. -/
lemma Grown.push (grown : Grown base there) (s : String) : Grown base (push there s) := by
  obtain ⟨more, some, rfl⟩ := grown
  unfold Url.push
  split
  · refine ⟨more.dropLast ++ [""], List.append_ne_nil_of_right_ne_nil _ (List.cons_ne_nil _ _), ?_⟩
    rw [List.dropLast_append_of_ne_nil some, List.append_assoc]
  · generalize (if s = "." then "" else s) = last
    by_cases only : base ++ more = [""]
    · -- an only segment was added to nothing
      rw [if_pos only]
      obtain ⟨rfl, -⟩ | ⟨-, rfl⟩ := List.append_eq_singleton_iff.1 only
      · exact ⟨[last], List.cons_ne_nil _ _, rfl⟩
      · exact absurd rfl some
    · rw [if_neg only, List.append_assoc]
      exact ⟨more ++ [last], List.append_ne_nil_of_right_ne_nil _ (List.cons_ne_nil _ _), rfl⟩

/-- A path with more segments has grown. -/
lemma Grown.foldl_push (grown : Grown base there) (ss : List String) :
    Grown base (ss.foldl Url.push there) := by
  induction ss generalizing there with
  | nil => exact grown
  | cons s ss ih => exact ih (grown.push s)

/-- Segments that end in one that is not empty change whatever is added. -/
lemma push_ne {last : String} (some : last ≠ "") (s : String) :
    push (front ++ [last]) s ≠ front ++ [last] := by
  unfold push
  split
  · rw [List.dropLast_concat]
    exact fun same => some (List.append_singleton_inj.1 same).2.symm
  · rw [if_neg (append_ne_empty (.inr some))]
    exact fun same => List.cons_ne_nil _ _ (List.append_right_eq_self.1 same)

/-- Segments that do not lead elsewhere stand one after another. -/
lemma foldl_push_eq (some : there ≠ []) (more : there ≠ [""])
    (plain : ∀ s ∈ ss, s ≠ "." ∧ s ≠ "..") : ss.foldl push there = there ++ ss := by
  induction ss generalizing there with
  | nil => exact (List.append_nil there).symm
  | cons s ss ih =>
    rw [List.forall_mem_cons] at plain
    obtain ⟨⟨here, upper⟩, plain⟩ := plain
    have longer : there ++ [s] ≠ [""] := append_ne_empty (.inl some)
    have kept : root there = there := if_neg more
    rw [List.foldl_cons, push_of_plain here upper, kept,
      ih (List.append_ne_nil_of_left_ne_nil some _) longer plain, List.append_assoc]
    rfl

/-! ### Texts of paths -/

/-- The text of segments one after another is the texts one after another. -/
lemma text_append (ps qs : List String) :
    (Path.segments (ps ++ qs)).text = (Path.segments ps).text ++ (Path.segments qs).text := by
  unfold Path.text
  dsimp only
  rw [List.map_append, String.join_append]

/-- A path begins with a slash and its first segment. -/
lemma toList_text_cons (p : String) (ps : List String) :
    (Path.segments (p :: ps)).text.toList =
      '/' :: (p.toList ++ (Path.segments ps).text.toList) := by
  unfold Path.text
  dsimp only
  rw [List.map_cons, String.join_cons, String.append_assoc, String.toList_append,
    String.toList_append]
  rfl

/-- Segments without slashes are the parts of their text between slashes. -/
lemma splitChars_text (free : ∀ p ∈ ps, '/' ∉ p.toList) :
    Text.splitChars '/' (Path.segments ps).text.toList = [] :: ps.map String.toList := by
  induction ps with
  | nil => rfl
  | cons p ps ih =>
    rw [List.forall_mem_cons] at free
    obtain ⟨first, free⟩ := free
    rw [toList_text_cons, Text.splitChars, if_pos rfl, List.map_cons]
    have rest := ih free
    cases ps with
    | nil =>
      rw [show (Path.segments []).text.toList = [] from rfl, List.append_nil,
        Text.splitChars_eq_splitOn, List.splitOn_eq_singleton first]
      rfl
    | cons q qs =>
      rw [toList_text_cons, Text.splitChars, if_pos rfl] at rest
      rw [toList_text_cons, Text.splitChars_append first, List.tail_eq_of_cons_eq rest]

/-- Segments without slashes are told apart by the text of the path. -/
lemma segments_eq_of_text_eq (free : ∀ p ∈ ps, '/' ∉ p.toList) (free' : ∀ q ∈ qs, '/' ∉ q.toList)
    (same : (Path.segments ps).text = (Path.segments qs).text) : ps = qs := by
  have parts := splitChars_text free
  rw [same, splitChars_text free'] at parts
  exact (List.map_injective_iff.2 (fun _ _ => String.toList_inj.1)
    (List.tail_eq_of_cons_eq parts)).symm

/-- A path with a segment begins with a slash. -/
lemma slash_prefix_text (some : ps ≠ []) : ['/'] <+: (Path.segments ps).text.toList := by
  cases ps with
  | nil => exact absurd rfl some
  | cons p ps =>
    rw [toList_text_cons]
    exact ⟨_, rfl⟩

/-- A path to which something was added begins with what was there. Only of two empty segments one
is lost. -/
lemma Grown.prefix_text (grown : Grown (root (opened there)) ss) (other : there ≠ ["", ""]) :
    (Path.segments there).text.toList <+: (Path.segments ss).text.toList := by
  obtain ⟨more, some, rfl⟩ := grown
  by_cases only : there = [""]
  · subst only
    exact slash_prefix_text some
  · by_cases last : there.getLast? = Option.some ""
    · obtain ⟨front, rfl⟩ := List.getLast?_eq_some_iff.1 last
      have opens : opened (front ++ [""]) = front := by
        unfold opened
        rw [if_pos ⟨only, last⟩, List.dropLast_concat]
      have kept : root front = front := if_neg fun none => other (by rw [none]; rfl)
      rw [opens, kept, text_append, text_append, String.toList_append, String.toList_append,
        List.prefix_append_right_inj]
      exact slash_prefix_text some
    · have opens : opened there = there := if_neg fun both => last both.2
      have kept : root there = there := if_neg only
      rw [opens, kept, text_append, String.toList_append]
      exact List.prefix_append _ _

end Fleet.Url
