import Fleet.Cli.Contexts
import Fleet.Proofs.Cli.Answer
import Fleet.Proofs.Selection

/-!
# The selection as an ordered set

Commands on the selection read a file, change its lines and write it again. What they come to is an
ordered set of known names (`Choice`): the file holds one before a command, and the changed one
afterwards (`Concludes`), so after any number of commands the loaded selection is the set that they
make (`selected_contextsAll`).

A choice carries the proofs that its names are known and that none is there twice, so every
operation on it (`select`, `deselect`, `toggle`, `everything`, `nothing`) shows once that it keeps
both, and no later proof comes back to that. The lists that the commands compute are the names of
such choices (`added_eq`, `removed_eq`, `toggled_eq`).

`Holds path s c` relates a session to a choice: the file at the path is loaded as the names of the
choice. One command takes a session that holds a choice to one that holds the next
(`Holds.concludes`, by cases on the command), and any number of them do so by induction
(`Holds.contextsAll`). Whether commands end well is a matter of the files only
(`Holds.exists_contextsAll`).
-/

namespace Fleet.Selection

/-- Distinct names that can be stored. -/
structure Catalog where
  names : List String
  nodup : names.Nodup
  storable : ∀ n ∈ names, Storable n

/-- Names of a catalog in the order they were chosen in, none of them twice. -/
structure Choice (k : Catalog) where
  names : List String
  nodup : names.Nodup
  known : ∀ n ∈ names, n ∈ k.names

/-- A list without its repetitions names nothing twice. -/
lemma nodup_eraseDups (names : List String) : names.eraseDups.Nodup := by
  cases names with
  | nil => simp
  | cons n names =>
    rw [List.eraseDups_cons, List.nodup_cons]
    refine ⟨?_, nodup_eraseDups (names.filter fun m => !m == n)⟩
    simp
termination_by names.length
decreasing_by simpa using Nat.lt_succ_of_le (List.length_filter_le (fun m => !m == n) names)

namespace Choice

variable {k : Catalog}

/-- Names that a selection gets are known and were not in it. -/
lemma fresh_of_mem {known chosen names : List String} {n : String}
    (mem : n ∈ (names.filter fun n => n ∈ known ∧ n ∉ chosen).eraseDups) : n ∈ known ∧ n ∉ chosen :=
  of_decide_eq_true (List.mem_filter.1 (List.mem_eraseDups.1 mem)).2

/-- Nothing chosen. -/
def nothing : Choice k := ⟨[], List.nodup_nil, nofun⟩

/-- All names of the catalog, in its order. -/
def everything : Choice k := ⟨k.names, k.nodup, fun _ mem => mem⟩

/-- Known names added at the end that were not chosen yet. -/
def select (c : Choice k) (names : List String) : Choice k where
  names := c.names ++ (names.filter fun n => n ∈ k.names ∧ n ∉ c.names).eraseDups
  nodup := by
    refine List.nodup_append.2 ⟨c.nodup, nodup_eraseDups _, fun n old m new => ?_⟩
    rintro rfl
    exact (fresh_of_mem new).2 old
  known := by
    intro n mem
    obtain old | new := List.mem_append.1 mem
    · exact c.known n old
    · exact (fresh_of_mem new).1

/-- Names taken away. -/
def deselect (c : Choice k) (names : List String) : Choice k where
  names := c.names.filter (· ∉ names)
  nodup := c.nodup.filter _
  known := fun n mem => c.known n (List.mem_of_mem_filter mem)

/-- A name taken away if it was chosen, and added otherwise. -/
def toggle (c : Choice k) (name : String) : Choice k :=
  if name ∈ c.names then c.deselect [name] else c.select [name]

/-- What a command makes of a choice. -/
def apply (c : Choice k) : Cli.SelectionRequest → Choice k
  | .list => c
  | .select names => c.select names
  | .deselect names => c.deselect names
  | .toggle name => c.toggle name
  | .all => everything
  | .clear => nothing

/-- A file can hold a choice of names that can be stored. -/
lemma storable (c : Choice k) : ∀ n ∈ c.names, Storable n :=
  fun n mem => k.storable n (c.known n mem)

/-- An unknown name is neither chosen nor added. -/
lemma toggle_of_unknown {name : String} (c : Choice k) (unknown : name ∉ k.names) :
    (c.toggle name).names = c.names := by
  have absent : name ∉ c.names := fun mem => unknown (c.known name mem)
  unfold toggle
  rw [if_neg absent]
  simp [select, unknown]

/-! ### Lists of names and choices -/

/-- A command that adds names puts the known and new ones behind those selected, each once. -/
lemma added_eq_append (known selected names : List String) :
    Cli.SelectionRequest.added known selected names =
      selected ++ (names.filter fun n => n ∈ known ∧ n ∉ selected).eraseDups := by
  unfold Cli.SelectionRequest.added
  induction names generalizing selected with
  | nil => simp
  | cons n names ih =>
    rw [List.foldl_cons]
    by_cases fresh : n ∈ known ∧ n ∉ selected
    · -- a name that was just added counts as chosen from then on
      have rest : (names.filter fun m => m ∈ known ∧ m ∉ selected ++ [n]) =
          (names.filter fun m => m ∈ known ∧ m ∉ selected).filter fun m => !m == n := by
        rw [List.filter_filter]
        refine List.filter_congr fun m _ => ?_
        by_cases same : m = n
        · simp [same]
        · simp [same]
      rw [if_pos (by simpa using fresh), ih, rest, List.filter_cons_of_pos (by simpa using fresh),
        List.eraseDups_cons, List.append_assoc]
      rfl
    · rw [if_neg (by simpa using fresh), ih, List.filter_cons_of_neg (by simpa using fresh)]

/-- Adding names is selecting them in an ordered set. -/
lemma added_eq (c : Choice k) (names : List String) :
    Cli.SelectionRequest.added k.names c.names names = (c.select names).names :=
  added_eq_append k.names c.names names

/-- Removing names is deselecting them in an ordered set. -/
lemma removed_eq (c : Choice k) (names : List String) :
    Cli.SelectionRequest.removed c.names names = (c.deselect names).names := by
  unfold Cli.SelectionRequest.removed deselect
  simp

/-- Toggling a known name is toggling it in an ordered set. -/
lemma toggled_eq {name : String} (c : Choice k) (known : name ∈ k.names) :
    (toggled c.names name).1 = (c.toggle name).names := by
  unfold toggled toggle
  by_cases chosen : name ∈ c.names
  · rw [if_pos (by simpa using chosen), if_pos chosen, c.nodup.erase_eq_filter]
    refine List.filter_congr fun m _ => ?_
    by_cases same : m = name
    · simp [same]
    · simp [same]
  · rw [if_neg (by simpa using chosen), if_neg chosen]
    simp [select, known, chosen, List.eraseDups_cons]

end Choice

end Fleet.Selection

namespace Fleet.Cli.Answer

open Selection (Catalog Choice Store)

variable {k : Catalog} {s : Session} {path : String} {c : Choice k} {names : List String}

/-! ### What is only said -/

/-- A batch runs on the selected contexts where none are named. -/
lemma batchContexts_of_selected (selected : s.selected = .ok names) :
    s.batchContexts [] = .ok (Selection.effective names s.active?) := by
  unfold Session.batchContexts
  rw [if_pos rfl, selected]
  rfl

/-- The summary only speaks where the selection can be read. -/
lemma speaks_summary (scene : Scene) (selected : s.selected = .ok names) :
    (summary scene).Speaks s := by
  intro said
  unfold summary
  rw [outcome_bind_ok (outcome_session _),
    outcome_bind_ok (outcome_ofExcept_ok (batchContexts_of_selected selected))]
  split_ifs
  · exact speaks_say _ said
  · exact speaks_say _ said
  · exact speaks_say _ said

/-- The listing of contexts only speaks where the selection can be read. -/
lemma speaks_listContexts (scene : Scene) (selected : s.selected = .ok names) :
    (listContexts scene).Speaks s := by
  intro said
  unfold listContexts
  rw [outcome_bind_ok (outcome_session _), outcome_bind_ok (outcome_ofExcept_ok selected)]
  dsimp only
  split_ifs
  · rw [outcome_bind_ok (outcome_ofExcept_ok (batchContexts_of_selected selected))]
    exact speaks_say _ said
  · exact speaks_say _ said
  · exact (speaks_say _).bind (speaks_summary scene selected) said

/-! ### One command -/

/-- The selection of a session is a choice among its contexts, kept in a file. -/
structure Holds (path : String) (s : Session) (c : Choice k) : Prop where
  place : s.selection = .file path
  known : s.contextNames = k.names
  selected : s.selected = .ok c.names

/-- How a command on the selection ends: with nothing to save, with the names saved, or with the
failure to save them. -/
inductive Concludes (s : Session) (names : List String) : Except Halt Unit × Progress → Prop
  | same {said : List Console.Message} (selected : s.selected = .ok names) :
      Concludes s names (.ok (), ⟨s, said⟩)
  | saved {said : List Console.Message} {files : Files.Tree}
      (saves : s.selection.save s.files names = .ok files) :
    Concludes s names (.ok (), ⟨{ s with files }, said⟩)
  | unsaved {said : List Console.Message} {e : Failure}
      (fails : s.selection.save s.files names = .error e) :
    Concludes s names (.error (.failed e), ⟨s, said⟩)

/-- Names that were saved are the selection. -/
lemma selected_of_save {files : Files.Tree} (place : s.selection = .file path)
    (storable : ∀ n ∈ names, Selection.Storable n)
    (saves : s.selection.save s.files names = .ok files) :
    ({ s with files } : Session).selected = .ok names := by
  rw [place] at saves
  unfold Session.selected
  rw [place]
  exact Store.load_of_save saves storable

/-- A summary follows on what was saved. -/
lemma concludes_store (place : s.selection = .file path)
    (storable : ∀ n ∈ names, Selection.Storable n) (scene : Scene) (said : List Console.Message) :
    Concludes s names ((store (s.selection.save s.files names) >>= fun _ => summary scene).outcome
      ⟨s, said⟩) := by
  cases saves : s.selection.save s.files names with
  | error e =>
    have fails : (store (.error e)).outcome ⟨s, said⟩ = (.error (.failed e), ⟨s, said⟩) := rfl
    rw [outcome_bind_error fails]
    exact .unsaved saves
  | ok files =>
    have ends : (store (.ok files)).outcome ⟨s, said⟩ = (.ok (), ⟨{ s with files }, said⟩) := rfl
    obtain ⟨said', spoken⟩ := speaks_summary scene (selected_of_save place storable saves) said
    rw [outcome_bind_ok ends, spoken]
    exact .saved saves

/-- Known names are added to those that are selected. -/
lemma concludes_select {more : List String} (place : s.selection = .file path)
    (selected : s.selected = .ok names)
    (storable : ∀ n ∈ SelectionRequest.added s.contextNames names more, Selection.Storable n)
    (scene : Scene) :
    Concludes s (SelectionRequest.added s.contextNames names more)
      ((contexts scene (.select more)).outcome ⟨s, []⟩) := by
  obtain ⟨said, spoken⟩ : ∃ said, (warnUnknown s.contextNames more).outcome ⟨s, []⟩ =
      (.ok (), ⟨s, said⟩) :=
    speaks_sayAll _ []
  unfold contexts
  rw [outcome_bind_ok (outcome_session _)]
  dsimp only
  rw [outcome_bind_ok (outcome_ofExcept_ok selected), outcome_bind_ok spoken]
  exact concludes_store place storable scene said

/-- A known name is toggled in those that are selected. -/
lemma concludes_toggle {name : String} (place : s.selection = .file path)
    (selected : s.selected = .ok names)
    (storable : ∀ n ∈ (Selection.toggled names name).1, Selection.Storable n)
    (known : name ∈ s.contextNames) (scene : Scene) :
    Concludes s (Selection.toggled names name).1
      ((contexts scene (.toggle name)).outcome ⟨s, []⟩) := by
  have loads : s.selection.load s.files = .ok names := selected
  have toggles : s.toggle name = (s.selection.save s.files (Selection.toggled names name).1).map
      fun files => ((Selection.toggled names name).2, { s with files }) := by
    unfold Session.toggle
    rw [Store.toggle_of_load loads]
    cases s.selection.save s.files (Selection.toggled names name).1 with
    | error e => rfl
    | ok files => rfl
  unfold contexts
  rw [outcome_bind_ok (outcome_session _)]
  dsimp only
  rw [if_pos (by simpa using known)]
  cases saves : s.selection.save s.files (Selection.toggled names name).1 with
  | error e =>
    rw [saves] at toggles
    rw [outcome_bind_error (outcome_ofExcept_error toggles)]
    exact .unsaved saves
  | ok files =>
    rw [saves] at toggles
    obtain ⟨said, spoken⟩ :=
      (speaks_say _).bind (speaks_summary scene (selected_of_save place storable saves)) []
    rw [outcome_bind_ok (outcome_ofExcept_ok toggles)]
    dsimp only
    rw [outcome_bind_ok (outcome_setSession _ _), spoken]
    exact .saved saves

/-- A choice that was saved is the selection. -/
lemma Holds.save {files : Files.Tree} {c' : Choice k} (holds : Holds path s c)
    (saves : s.selection.save s.files c'.names = .ok files) : Holds path { s with files } c' :=
  ⟨holds.place, holds.known, selected_of_save holds.place c'.storable saves⟩

/-- A toggle of an unknown name has nothing to save. -/
lemma Holds.concludes_toggle (holds : Holds path s c) (scene : Scene) (name : String) :
    Concludes s (c.toggle name).names ((contexts scene (.toggle name)).outcome ⟨s, []⟩) := by
  by_cases known : name ∈ k.names
  · rw [← c.toggled_eq known]
    refine Answer.concludes_toggle holds.place holds.selected ?_ (holds.known.symm ▸ known) scene
    rw [c.toggled_eq known]
    exact (c.toggle name).storable
  · unfold contexts
    rw [outcome_bind_ok (outcome_session _), holds.known]
    dsimp only
    rw [if_neg (by simpa using known), c.toggle_of_unknown known]
    exact .same holds.selected

/-- A command on a held choice concludes with what the command makes of the choice. -/
lemma Holds.concludes (holds : Holds path s c) (scene : Scene) (request : SelectionRequest) :
    Concludes s (c.apply request).names ((contexts scene request).runOn s) := by
  change Concludes s _ ((contexts scene request).outcome ⟨s, []⟩)
  cases request with
  | list =>
    obtain ⟨said, spoken⟩ := speaks_listContexts scene holds.selected []
    unfold contexts
    rw [outcome_bind_ok (outcome_session _)]
    dsimp only
    rw [spoken]
    exact .same holds.selected
  | select names =>
    have added : SelectionRequest.added s.contextNames c.names names = (c.select names).names := by
      rw [holds.known, c.added_eq]
    change Concludes s (c.select names).names _
    rw [← added]
    exact concludes_select holds.place holds.selected (added ▸ (c.select names).storable) scene
  | deselect names =>
    unfold contexts
    rw [outcome_bind_ok (outcome_session _)]
    dsimp only
    rw [outcome_bind_ok (outcome_ofExcept_ok holds.selected), c.removed_eq]
    exact concludes_store holds.place (c.deselect names).storable scene []
  | toggle name => exact holds.concludes_toggle scene name
  | all =>
    unfold contexts
    rw [outcome_bind_ok (outcome_session _)]
    dsimp only
    unfold Store.selectAll
    rw [holds.known, Selection.distinct_of_nodup k.nodup]
    exact concludes_store holds.place (Choice.storable .everything) scene []
  | clear =>
    unfold contexts
    rw [outcome_bind_ok (outcome_session _)]
    exact concludes_store holds.place (Choice.storable (k := k) .nothing) scene []

/-! ### All commands -/

/-- The session after commands on its selection, as long as all end well. -/
def contextsAll (s : Session) : List (Scene × SelectionRequest) → Except Halt Session
  | [] => .ok s
  | (scene, request) :: later =>
    match (contexts scene request).runOn s with
    | (.ok (), p) => contextsAll p.session later
    | (.error h, _) => .error h

/-- A command that ends well leaves a session that holds what the command concludes with. -/
lemma Holds.of_concludes {p : Progress} {c' : Choice k} (holds : Holds path s c)
    (ends : Concludes s c'.names (.ok (), p)) : Holds path p.session c' := by
  cases ends with
  | same selected => exact ⟨holds.place, holds.known, selected⟩
  | saved saves => exact holds.save saves

/-- A command ends well where a file can be put, and one can be put there again. -/
lemma Holds.ends_of_writable {r : Except Halt Unit × Progress} (holds : Holds path s c)
    (ends : Concludes s names r) (writable : s.files.Writable path) :
    ∃ p, r = (.ok (), p) ∧ p.session.files.Writable path := by
  cases ends with
  | same selected => exact ⟨_, rfl, writable⟩
  | saved saves =>
    rw [holds.place, Store.file_save_eq_ok] at saves
    exact ⟨_, rfl, Files.Tree.writable_of_put saves⟩
  | unsaved fails =>
    obtain ⟨files, puts⟩ := writable.put (Selection.toText names).toUTF8 false
    rw [holds.place, Store.file_save_eq_ok.2 puts] at fails
    cases fails

/-- Commands one after another leave what they make of the choice held before. -/
lemma Holds.contextsAll {s' : Session} {requests : List (Scene × SelectionRequest)}
    (holds : Holds path s c) (all : contextsAll s requests = .ok s') :
    Holds path s' ((requests.map (·.2)).foldl Choice.apply c) := by
  induction requests generalizing s c with
  | nil =>
    cases all
    exact holds
  | cons first later ih =>
    have ends := holds.concludes first.1 first.2
    unfold Answer.contextsAll at all
    split at all
    · rename_i p ran
      rw [ran] at ends
      exact ih (holds.of_concludes ends) all
    · cases all

/-- Commands one after another end well where the file can be written. -/
lemma Holds.exists_contextsAll (holds : Holds path s c) (writable : s.files.Writable path)
    (requests : List (Scene × SelectionRequest)) :
    ∃ s', Answer.contextsAll s requests = .ok s' := by
  induction requests generalizing s c with
  | nil => exact ⟨s, rfl⟩
  | cons first later ih =>
    have ends := holds.concludes first.1 first.2
    obtain ⟨p, ran, writable⟩ := holds.ends_of_writable ends writable
    rw [ran] at ends
    unfold Answer.contextsAll
    rw [ran]
    exact ih (holds.of_concludes ends) writable

/-- From a missing file on, the selection that is loaded after any commands is the ordered set that
they make, with known names only and none of them twice. All of them end well where a file can be
put. -/
theorem selected_contextsAll (known : s.contextNames = k.names) (place : s.selection = .file path)
    (missing : s.files.readText path = .error .missing)
    (requests : List (Scene × SelectionRequest)) :
    let chosen : Choice k := (requests.map (·.2)).foldl Choice.apply Choice.nothing
    (∀ s', contextsAll s requests = .ok s' → s'.selected = .ok chosen.names) ∧
    (s.files.Writable path → ∃ s', contextsAll s requests = .ok s') ∧
    chosen.names.Nodup ∧ ∀ n ∈ chosen.names, n ∈ s.contextNames := by
  intro chosen
  have start : Holds path s (Choice.nothing (k := k)) := by
    refine ⟨place, known, ?_⟩
    unfold Session.selected
    rw [place]
    exact Store.file_load_of_missing missing
  refine ⟨fun s' all => (start.contextsAll all).selected, fun writable => ?_, chosen.nodup, ?_⟩
  · exact start.exists_contextsAll writable requests
  · rw [known]
    exact chosen.known

/-- A session on three contexts, without anything stored. -/
def unsettled : Session where
  settings := .default
  selection := .file "nested/selection"
  origin := .scripted ⟨["eu", "us", "asia east"], [], [], none⟩
  registry := .empty
  runner := fun _ => Cluster.Replies.empty.runner
  files := ⟨[], []⟩

/-- Four commands on a file in a directory that is not there yet: a repeated name, an unknown one,
one with a blank, and a context that is taken away again. -/
theorem selected_contextsAll_unsettled :
    let scene : Scene := ⟨⟨false, false, false⟩, .ofMillis 0, .quiet⟩
    let k : Catalog := ⟨["eu", "us", "asia east"], by decide, by decide⟩
    unsettled.contextNames = k.names ∧ unsettled.selection = .file "nested/selection" ∧
    unsettled.files.readText "nested/selection" = .error .missing ∧
      unsettled.files.Writable "nested/selection" ∧
    ∃ s', contextsAll unsettled [(scene, .select ["us", "nowhere", "eu", "us"]),
      (scene, .toggle "asia east"), (scene, .deselect ["eu"]), (scene, .toggle "nowhere")] =
      .ok s' ∧ s'.selected = .ok ["us", "asia east"] := by
  intro scene k
  have known : unsettled.contextNames = k.names := rfl
  have missing : unsettled.files.readText "nested/selection" = .error .missing := rfl
  have writable : unsettled.files.Writable "nested/selection" :=
    ⟨⟨[], [(["nested"], .dir)]⟩, ["nested", "selection"], rfl, rfl, nofun⟩
  obtain ⟨selects, ends, -⟩ := selected_contextsAll known rfl missing
    [(scene, .select ["us", "nowhere", "eu", "us"]), (scene, .toggle "asia east"),
      (scene, .deselect ["eu"]), (scene, .toggle "nowhere")]
  obtain ⟨s', all⟩ := ends writable
  refine ⟨known, rfl, missing, writable, s', all, (selects s' all).trans ?_⟩
  decide +kernel

end Fleet.Cli.Answer
