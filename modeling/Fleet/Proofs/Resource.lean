import Fleet.Proofs.Except
import Fleet.Proofs.Text.Blank
import Fleet.Resource

/-!
# Written resources

A text names a resource by one to three parts between slashes, none of them empty, and by nothing
else (`parse_eq_ok_iff`). Whatever a text names is named by its own written form too, and so is
every resource whose parts can be told apart there (`parse_text_inverse`).

`Names parts r` says what parts stand for, with one rule for each number of them. Between parts and
texts go splitting at slashes and trimming, which are undone by joining where no part holds a slash
and the whole begins and ends without blanks; these are the conditions that `Legible` puts in terms
of group, version and name (`legible_iff`).
-/

namespace Fleet.Resource

variable {r : Resource} {s : String}

/-- What parts stand for: a name in the core group at its first version, with a version before it,
or with a group before that. -/
inductive Names : List String → Resource → Prop where
  | alone {name : String} : Names [name] (core name)
  | versioned {version name : String} : Names [version, name] ⟨"", version, name⟩
  | grouped {group version name : String} : Names [group, version, name] ⟨group, version, name⟩

/-- Parts of the written form. -/
def parts (r : Resource) : List String :=
  if r.isCore then [r.version, r.name] else [r.group, r.version, r.name]

/-- First part of the written form. -/
def first (r : Resource) : String := if r.isCore then r.version else r.group

/-- The parts can be told apart in the written form, which has no blanks around it. Only the group
may be empty. -/
structure Legible (r : Resource) : Prop where
  version : r.version ≠ ""
  name : r.name ≠ ""
  free : ∀ part ∈ [r.group, r.version, r.name], '/' ∉ part.toList
  front : ∀ c ∈ r.first.toList.head?, ¬ Text.isBlank c
  back : ∀ c ∈ r.name.toList.getLast?, ¬ Text.isBlank c

/-! ### Reading -/

/-- One to three parts stand for something. -/
lemma exists_names_iff {parts : List String} :
    (∃ r, Names parts r) ↔ 1 ≤ parts.length ∧ parts.length ≤ 3 := by
  constructor
  · rintro ⟨r, names⟩
    cases names with
    | alone => simp
    | versioned => simp
    | grouped => simp
  · rintro ⟨some, few⟩
    match parts with
    | [] => cases some
    | [name] => exact ⟨_, .alone⟩
    | [version, name] => exact ⟨_, .versioned⟩
    | [group, version, name] => exact ⟨_, .grouped⟩
    | _ :: _ :: _ :: _ :: rest => exact absurd few (by simp only [List.length_cons]; omega)

/-- A text is read as what its parts stand for, if none is empty. -/
lemma parse_eq_ok_iff : parse s = .ok r ↔
    "" ∉ Text.split '/' (Text.trim s) ∧ Names (Text.split '/' (Text.trim s)) r := by
  unfold parse
  generalize Text.split '/' (Text.trim s) = parts
  have empty : (parts.any (· == "")) = true ↔ "" ∈ parts := by simp
  dsimp only
  split
  · rename_i some
    exact ⟨nofun, fun both => absurd (empty.1 some) both.1⟩
  · rename_i full
    rw [empty] at full
    constructor
    · intro parsed
      refine ⟨full, ?_⟩
      split at parsed
      · cases parsed; exact .alone
      · cases parsed; exact .versioned
      · cases parsed; exact .grouped
      · cases parsed
    · rintro ⟨-, names⟩
      cases names with
      | alone => rfl
      | versioned => rfl
      | grouped => rfl

/-! ### The written form -/

/-- The written form is the parts with slashes between them. -/
lemma text_eq_join (r : Resource) : r.text = Text.join "/" r.parts := by
  unfold text parts
  split
  · rfl
  · simp only [Text.join, String.append_assoc]

/-- The written form begins as its first part does. -/
lemma head?_text (some : r.first ≠ "") : r.text.toList.head? = r.first.toList.head? := by
  have chars : r.first.toList ≠ [] := fun none => some (String.toList_eq_nil_iff.1 none)
  unfold text first at *
  split_ifs at chars ⊢
  · rw [String.append_assoc, String.toList_append, List.head?_append_of_ne_nil _ chars]
  · rw [String.append_assoc, String.append_assoc, String.append_assoc, String.toList_append,
      List.head?_append_of_ne_nil _ chars]

/-- The written form ends as the name does. -/
lemma getLast?_text (some : r.name ≠ "") : r.text.toList.getLast? = r.name.toList.getLast? := by
  have chars : r.name.toList ≠ [] := fun none => some (String.toList_eq_nil_iff.1 none)
  unfold text
  split_ifs
  · rw [String.toList_append, List.getLast?_append_of_ne_nil _ chars]
  · rw [String.toList_append, List.getLast?_append_of_ne_nil _ chars]

/-- The first part is not empty if the version is not. -/
lemma first_ne_empty (version : r.version ≠ "") : r.first ≠ "" := by
  unfold first
  split
  · exact version
  · rename_i group
    exact fun none => group (beq_iff_eq.2 none)

/-- The written form of a resource with a version and a name has no blanks around it exactly if its
first part does not begin and its name does not end with one. -/
lemma trim_text_iff (version : r.version ≠ "") (name : r.name ≠ "") : Text.trim r.text = r.text ↔
    (∀ c ∈ r.first.toList.head?, ¬ Text.isBlank c) ∧
      ∀ c ∈ r.name.toList.getLast?, ¬ Text.isBlank c := by
  rw [Text.trim_eq_self_iff, head?_text (first_ne_empty version), getLast?_text name]

/-- A resource of a named group has three parts. -/
lemma parts_of_group {group version name : String} (some : group ≠ "") :
    parts ⟨group, version, name⟩ = [group, version, name] :=
  if_neg fun core => some (beq_iff_eq.1 core)

/-- The parts of the written form are whole and apart exactly if those of the resource are; an empty
group is left out. -/
lemma parts_apart_iff : ("" ∉ r.parts ∧ ∀ part ∈ r.parts, '/' ∉ part.toList) ↔
    r.version ≠ "" ∧ r.name ≠ "" ∧ ∀ part ∈ [r.group, r.version, r.name], '/' ∉ part.toList := by
  obtain ⟨group, version, name⟩ := r
  by_cases core : group = ""
  · subst core
    have two : parts ⟨"", version, name⟩ = [version, name] := rfl
    rw [two]
    simp [eq_comm, and_assoc]
  · rw [parts_of_group core]
    simp [eq_comm, and_assoc, core]

/-- A resource is legible exactly if its written form is trimmed and made of parts that are not
empty and hold no slash. -/
lemma legible_iff :
    r.Legible ↔ ("" ∉ r.parts ∧ ∀ part ∈ r.parts, '/' ∉ part.toList) ∧
      Text.trim r.text = r.text := by
  rw [parts_apart_iff]
  constructor
  · rintro ⟨version, name, free, front, back⟩
    exact ⟨⟨version, name, free⟩, (trim_text_iff version name).2 ⟨front, back⟩⟩
  · rintro ⟨⟨version, name, free⟩, trimmed⟩
    obtain ⟨front, back⟩ := (trim_text_iff version name).1 trimmed
    exact ⟨version, name, free, front, back⟩

/-- The parts of a resource stand for it. -/
lemma names_parts (r : Resource) : Names r.parts r := by
  obtain ⟨group, version, name⟩ := r
  by_cases core : group = ""
  · subst core
    exact .versioned
  · rw [parts_of_group core]
    exact .grouped

/-- A legible resource is read from its written form. -/
lemma Legible.parse_text (legible : r.Legible) : parse r.text = .ok r := by
  obtain ⟨⟨full, free⟩, trimmed⟩ := legible_iff.1 legible
  have some : r.parts ≠ [] := by
    unfold parts
    split <;> exact List.cons_ne_nil _ _
  have split : Text.split '/' r.text = r.parts := by
    rw [text_eq_join, Text.split_join rfl some free]
  rw [parse_eq_ok_iff, trimmed, split]
  exact ⟨full, names_parts r⟩

/-- Only legible resources are read. A name alone gets a version in front of it; otherwise the
written form is the trimmed text. -/
lemma legible_of_parse (parsed : parse s = .ok r) : r.Legible := by
  obtain ⟨full, names⟩ := parse_eq_ok_iff.1 parsed
  have free : ∀ part ∈ Text.split '/' (Text.trim s), '/' ∉ part.toList :=
    fun part => Text.not_mem_of_mem_split
  have trimmed : Text.trim (Text.join "/" (Text.split '/' (Text.trim s))) =
      Text.join "/" (Text.split '/' (Text.trim s)) := by
    rw [Text.join_split rfl, Text.trim_trim]
  generalize Text.split '/' (Text.trim s) = parts at full free trimmed names
  cases names with
  | @alone name =>
    have name_ne : name ≠ "" := fun none => full (by rw [none]; exact List.mem_cons_self)
    have version : "v1" ≠ "" ∧ '/' ∉ "v1".toList ∧ Text.trim "v1" = "v1" := by decide
    obtain ⟨version_ne, version_free, version_trimmed⟩ := version
    refine ⟨version_ne, name_ne, ?_, (Text.trim_eq_self_iff.1 version_trimmed).1,
      (Text.trim_eq_self_iff.1 trimmed).2⟩
    exact List.forall_mem_cons.2 ⟨List.not_mem_nil, List.forall_mem_cons.2 ⟨version_free, free⟩⟩
  | @versioned version name => exact legible_iff.2 ⟨⟨full, free⟩, trimmed⟩
  | @grouped group version name =>
    have group_ne : group ≠ "" := fun none => full (by rw [none]; exact List.mem_cons_self)
    rw [← parts_of_group group_ne] at full free trimmed
    rw [← text_eq_join] at trimmed
    exact legible_iff.2 ⟨⟨full, free⟩, trimmed⟩

/-- A text is read exactly if it has one to three parts between slashes, none of them empty, when
the blanks around it are left out; it is read as what the parts stand for. Whatever is read is read
again from its written form, and exactly the legible resources are read from theirs. -/
theorem parse_text_inverse :
    (∀ s, (∃ r, parse s = .ok r) ↔ 1 ≤ (Text.split '/' (Text.trim s)).length ∧
      (Text.split '/' (Text.trim s)).length ≤ 3 ∧ "" ∉ Text.split '/' (Text.trim s)) ∧
    (∀ s r, parse s = .ok r → Names (Text.split '/' (Text.trim s)) r ∧ parse r.text = .ok r) ∧
    ∀ r, parse r.text = .ok r ↔ r.Legible := by
  refine ⟨fun s => ?_, fun s r parsed => ?_, fun r => ⟨legible_of_parse, Legible.parse_text⟩⟩
  · rw [exists_congr fun r => parse_eq_ok_iff, exists_and_left, exists_names_iff, and_comm,
      and_assoc]
  · exact ⟨(parse_eq_ok_iff.1 parsed).2, (legible_of_parse parsed).parse_text⟩

/-- Blanks around a text do not count, those around a slash do, and a name alone is written with its
version. -/
theorem parse_text_inverse_blanks :
    (∃ r, parse "\u00a0v1 / pods\n" = .ok r) ∧
    (parse "\tpods " = .ok (core "pods") ∧ parse "v1/pods" = .ok (core "pods")) ∧
    parse "apps/ v1/x\u3000y" = .ok ⟨"apps", " v1", "x\u3000y"⟩ := by
  obtain ⟨reads, again, inverse⟩ := parse_text_inverse
  have alone : parse "\tpods " = .ok (core "pods") := eq_ok_of_toOption (by decide +kernel)
  have written : (core "pods").text = "v1/pods" := by decide
  have named : text ⟨"apps", " v1", "x\u3000y"⟩ = "apps/ v1/x\u3000y" := by decide
  have legible : Legible ⟨"apps", " v1", "x\u3000y"⟩ := legible_iff.2 ⟨by decide, by decide⟩
  exact ⟨(reads _).2 (by decide), ⟨alone, written ▸ (again _ _ alone).2⟩,
    named ▸ (inverse _).2 legible⟩

end Fleet.Resource
