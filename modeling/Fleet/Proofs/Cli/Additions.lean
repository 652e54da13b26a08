import Fleet.Proofs.Cli.Contexts
import Mathlib.Logic.Function.Basic

/-!
# Contexts added at the same time

A command that adds a context to the selection loads the file and then replaces it
(`Addition.runOn_of_save`). Of several such commands each takes its two turns at some time, and
others may take theirs in between (`Addition.Step`). The last one to replace the file keeps what was
there when it loaded the file (`Addition.Kept.replace`), so what was selected before stays selected,
but a context may be lost: `Addition.selection_of_steps` says which ones are not.

Two notions are stated of the order of turns alone, without files:
* `CutsIn turns i j`: command `i` replaces the file between the two turns of command `j`;
* `Kept turns kept`: the contexts that are kept are those of commands that have replaced the file
  and cut in on no other command whose context is kept.

`Inv` ties them to the files. It says of a world that the file holds what was selected at first with
the contexts that are kept, and of a command between its turns that it holds what was kept when it
loaded the file (`Recalls`). It is kept by either turn (`Inv.load`, `Inv.replace`) and so by all of
them (`Steps.inv`, by induction on the turns). That no command is ever stuck where the file can be
written is `Inv.exists_step`.
-/

namespace Fleet.Cli

/-- How a command adds a context. -/
inductive Addition.Way where
  | select
  | toggle

/-- A command that adds one of the contexts it knows. -/
structure Addition where
  way : Addition.Way
  name : String
  known : List String
  mem : name ∈ known
  storable : Selection.Storable name

namespace Addition

open Selection (Storable Store toggled)
open SelectionRequest (added)

variable {a : Addition} {names : List String} {path : String} {t t' : Files.Tree}

/-- The command that adds the context. -/
def request (a : Addition) : SelectionRequest :=
  match a.way with
  | .select => .select [a.name]
  | .toggle => .toggle a.name

/-- Names that the command makes of those it loaded. -/
def after (a : Addition) (names : List String) : List String :=
  match a.way with
  | .select => added a.known names [a.name]
  | .toggle => (toggled names a.name).1

/-- A context that is not selected yet is added at the end. -/
lemma after_of_not_mem (new : a.name ∉ names) : a.after names = names ++ [a.name] := by
  unfold after
  cases a.way with
  | select =>
    have fresh : (a.known.contains a.name && !names.contains a.name) = true := by simp [a.mem, new]
    exact if_pos fresh
  | toggle =>
    unfold toggled
    dsimp only
    rw [if_neg (by simpa using new)]

/-- An addition adds its own context and no other one. -/
lemma mem_of_mem_after {n : String} (mem : n ∈ a.after names) : n ∈ names ∨ n = a.name := by
  unfold after at mem
  cases way : a.way with
  | select =>
    rw [way] at mem
    change n ∈ if _ then names ++ [a.name] else names at mem
    split at mem
    · simpa using mem
    · exact .inl mem
  | toggle =>
    rw [way] at mem
    unfold toggled at mem
    dsimp only at mem
    split at mem
    · exact .inl (List.mem_of_mem_erase mem)
    · simpa using mem

/-- A file can hold the selection after an addition if it can hold the one before. -/
lemma storable_after (storable : ∀ n ∈ names, Storable n) : ∀ n ∈ a.after names, Storable n := by
  intro n mem
  obtain old | rfl := mem_of_mem_after mem
  · exact storable n old
  · exact a.storable

/-- A command that adds a context ends as one that saves the selection with the context. -/
lemma concludes {s : Session} (a : Addition) (place : s.selection = .file path)
    (known : s.contextNames = a.known) (selected : s.selected = .ok names) (scene : Scene) :
    Answer.Concludes s (a.after names) ((Answer.contexts scene a.request).runOn s) := by
  have loads : (Store.file path).load s.files = .ok names := by
    rw [← place]
    exact selected
  have storable := a.storable_after (Store.storable_of_mem_load loads)
  change Answer.Concludes s _ ((Answer.contexts scene a.request).outcome ⟨s, []⟩)
  unfold after request at *
  cases way : a.way with
  | select =>
    rw [way] at storable
    dsimp only at storable ⊢
    rw [← known] at storable ⊢
    exact Answer.concludes_select place selected storable scene
  | toggle =>
    rw [way] at storable
    exact Answer.concludes_toggle place selected storable (known ▸ a.mem) scene

/-- A command that runs alone loads the selection, replaces it, and then only says something. -/
lemma runOn_of_save {s : Session} {files : Files.Tree} (a : Addition)
    (place : s.selection = .file path) (known : s.contextNames = a.known)
    (selected : s.selected = .ok names) (new : a.name ∉ names)
    (saves : (Store.file path).save s.files (a.after names) = .ok files) (scene : Scene) :
    ∃ said, (Answer.contexts scene a.request).runOn s = (.ok (), ⟨{ s with files }, said⟩) := by
  have ends := a.concludes place known selected scene
  generalize (Answer.contexts scene a.request).runOn s = result at ends ⊢
  cases ends with
  | same unchanged =>
    have same := Except.ok.inj (selected.symm.trans unchanged)
    rw [after_of_not_mem new, List.self_eq_append_right] at same
    cases same
  | saved saves' =>
    rw [place] at saves'
    obtain rfl := Except.ok.inj (saves.symm.trans saves')
    exact ⟨_, rfl⟩
  | unsaved fails =>
    rw [place] at fails
    cases saves.symm.trans fails

/-! ### Contexts of several commands -/

section Contexts

variable {ι : Type} {commands : ι → Addition} {before : List String} {kept : List ι} {i : ι}

/-- Contexts of commands after those that were selected before. -/
def selection (commands : ι → Addition) (before : List String) (kept : List ι) : List String :=
  before ++ kept.map fun i => (commands i).name

/-- The contexts to add are distinct, and none of them is selected yet. -/
structure Fresh (commands : ι → Addition) (before : List String) : Prop where
  distinct : Function.Injective fun i => (commands i).name
  new : ∀ i, (commands i).name ∉ before

/-- An addition appends its own context if no command with a kept context has added it. -/
lemma Fresh.after (fresh : Fresh commands before) (apart : i ∉ kept) :
    (commands i).after (selection commands before kept) =
      selection commands before (kept ++ [i]) := by
  have new : (commands i).name ∉ selection commands before kept := by
    intro mem
    obtain old | added := List.mem_append.1 mem
    · exact fresh.new i old
    · obtain ⟨j, there, same⟩ := List.mem_map.1 added
      obtain rfl := fresh.distinct same
      exact apart there
  rw [after_of_not_mem new]
  unfold selection
  rw [List.map_append, List.append_assoc]
  rfl

end Contexts

/-! ### Turns of several commands -/

/-- Where a command stands. -/
inductive Phase where
  | idle
  | loaded (names : List String)
  | done

/-- The two turns of each command. -/
inductive Turn (ι : Type) where
  | load (i : ι)
  | replace (i : ι)
  deriving DecidableEq

/-- The command that takes a turn. -/
def Turn.command {ι : Type} : Turn ι → ι
  | .load i => i
  | .replace i => i

/-- The files that commands share, and where each command stands. -/
structure World (ι : Type) where
  files : Files.Tree
  phase : ι → Phase

variable {ι : Type}

/-- No command has begun. -/
def start (t : Files.Tree) : World ι := ⟨t, fun _ => .idle⟩

/-- All commands have taken both turns. -/
def World.Finished (w : World ι) : Prop := ∀ i, w.phase i = .done

variable [DecidableEq ι]

/-- The same with one command in another phase. -/
def World.move (w : World ι) (i : ι) (phase : Phase) : World ι :=
  { w with phase := Function.update w.phase i phase }

/-- One command takes its next turn, wherever the others stand. -/
inductive Step (path : String) (commands : ι → Addition) : World ι → Turn ι → World ι → Prop where
  | load {w : World ι} {i : ι} {names : List String} :
    w.phase i = .idle →
    (Store.file path).load w.files = .ok names →
    Step path commands w (.load i) (w.move i (.loaded names))
  | replace {w : World ι} {i : ι} {names : List String} {files : Files.Tree} :
    w.phase i = .loaded names →
    (Store.file path).save w.files ((commands i).after names) = .ok files →
    Step path commands w (.replace i) ({ w with files }.move i .done)

/-- Turns taken one after another, by whichever commands. -/
inductive Steps (path : String) (commands : ι → Addition) (first : World ι) :
    List (Turn ι) → World ι → Prop where
  | nil : Steps path commands first [] first
  | snoc {turns : List (Turn ι)} {turn : Turn ι} {w w' : World ι} :
    Steps path commands first turns w →
    Step path commands w turn w' →
    Steps path commands first (turns ++ [turn]) w'

/-- Command `i` replaces the file after command `j` has loaded it and before `j` replaces it. A turn
that was not taken comes after all that were. -/
def CutsIn (turns : List (Turn ι)) (i j : ι) : Prop :=
  turns.idxOf (.load j) < turns.idxOf (.replace i) ∧
    turns.idxOf (.replace i) < turns.idxOf (.replace j)

/-- Whether a replacement cuts in is decided by places in the order of turns. -/
instance (turns : List (Turn ι)) (i j : ι) : Decidable (CutsIn turns i j) :=
  inferInstanceAs (Decidable (_ ∧ _))

/-- Commands whose contexts are kept: those that replaced the file, and not between the two turns of
a command whose own context is kept. -/
structure Kept (turns : List (Turn ι)) (kept : List ι) : Prop where
  nodup : kept.Nodup
  loaded : ∀ i ∈ kept, .load i ∈ turns
  mem_iff : ∀ i, i ∈ kept ↔ .replace i ∈ turns ∧ ∀ j ∈ kept, ¬ CutsIn turns i j

variable {turns earlier later : List (Turn ι)} {kept : List ι} {i j k : ι} {commands : ι → Addition}
  {before : List String} {w w' first : World ι} {turn : Turn ι}

/-! ### Turns and what is kept -/

/-- Later turns do not tell whether a replacement cut in on a command that is over. -/
lemma cutsIn_append_iff (replaced : .replace i ∈ turns) (loaded : .load j ∈ turns)
    (replaced' : .replace j ∈ turns) (later : List (Turn ι)) :
    CutsIn (turns ++ later) i j ↔ CutsIn turns i j := by
  unfold CutsIn
  rw [List.idxOf_append_of_mem replaced, List.idxOf_append_of_mem loaded,
    List.idxOf_append_of_mem replaced']

/-- A command whose context is kept has replaced the file. -/
lemma Kept.replaced (holds : Kept turns kept) (mem : i ∈ kept) : .replace i ∈ turns :=
  ((holds.mem_iff i).1 mem).1

/-- Before any turn no context is kept. -/
lemma kept_nil : Kept (ι := ι) [] [] := ⟨List.nodup_nil, nofun, by simp⟩

/-- Loading the file loses nothing. -/
lemma Kept.load (holds : Kept turns kept) (i : ι) : Kept (turns ++ [.load i]) kept := by
  refine ⟨holds.nodup, fun j mem => List.mem_append_left _ (holds.loaded j mem), fun k => ?_⟩
  have same : .replace k ∈ turns ++ [.load i] ↔ .replace k ∈ turns := by simp
  rw [holds.mem_iff k, same]
  refine and_congr_right fun replaced => forall₂_congr fun j mem => not_congr ?_
  exact (cutsIn_append_iff replaced (holds.loaded j mem) (holds.replaced mem) _).symm

/-- A replacement before a command loads the file does not cut in on it. -/
lemma not_cutsIn_of_mem (replaced : .replace k ∈ earlier) (new : .load i ∉ earlier) :
    ¬ CutsIn (earlier ++ .load i :: later) k i := by
  rintro ⟨cuts, -⟩
  have place := List.idxOf_lt_length_of_mem replaced
  rw [List.idxOf_append_of_notMem new, List.idxOf_append_of_mem replaced] at cuts
  omega

/-- A replacement after a command has loaded the file and before it replaces it cuts in on it. -/
lemma cutsIn_of_not_mem (replaced : .replace k ∈ later) (absent : .replace k ∉ earlier)
    (new : .load i ∉ earlier) (fresh : .replace i ∉ earlier ++ .load i :: later) :
    CutsIn (earlier ++ .load i :: later ++ [.replace i]) k i := by
  have mem : .replace k ∈ earlier ++ .load i :: later := by simp [replaced]
  have inside := List.idxOf_lt_length_of_mem mem
  have place : (earlier ++ .load i :: later).idxOf (.replace k) =
      earlier.length + (later.idxOf (.replace k) + 1) := by
    have other : Turn.load i ≠ .replace k := nofun
    rw [List.idxOf_append_of_notMem absent, List.idxOf_cons_ne later other]
  unfold CutsIn
  rw [List.idxOf_append_of_notMem fresh, List.idxOf_append_of_mem mem,
    List.idxOf_append_of_mem (by simp), List.idxOf_append_of_notMem new, List.idxOf_cons_self]
  omega

/-- The last replacement of all cuts in on no command that has replaced the file. -/
lemma not_cutsIn_last (fresh : .replace i ∉ turns) (replaced : .replace j ∈ turns ++ [.replace i]) :
    ¬ CutsIn (turns ++ [.replace i]) i j := by
  rintro ⟨-, cuts⟩
  have place := List.idxOf_lt_length_of_mem replaced
  rw [List.idxOf_append_of_notMem fresh] at cuts
  rw [List.length_append, List.length_singleton] at place
  omega

/-- After a command has replaced the file, it and those kept when it loaded the file have replaced
it. -/
lemma Kept.replaced_concat (holds : Kept earlier kept) (mem : j ∈ kept ++ [i]) :
    .replace j ∈ earlier ++ .load i :: later ++ [.replace i] := by
  obtain old | last := List.mem_append.1 mem
  · exact List.mem_append_left _ (List.mem_append_left _ (holds.replaced old))
  · obtain rfl := List.mem_singleton.1 last
    simp

/-- After a command has replaced the file, it and those kept when it loaded the file have loaded
it. -/
lemma Kept.loaded_concat (holds : Kept earlier kept) (mem : j ∈ kept ++ [i]) :
    .load j ∈ earlier ++ .load i :: later ++ [.replace i] := by
  obtain old | last := List.mem_append.1 mem
  · exact List.mem_append_left _ (List.mem_append_left _ (holds.loaded j old))
  · obtain rfl := List.mem_singleton.1 last
    simp

/-- Of a command and those kept when it loaded the file none cuts in on another one. -/
lemma Kept.not_cutsIn_concat (holds : Kept earlier kept) (new : .load i ∉ earlier)
    (fresh : .replace i ∉ earlier ++ .load i :: later) (mem : k ∈ kept ++ [i])
    (mem' : j ∈ kept ++ [i]) : ¬ CutsIn (earlier ++ .load i :: later ++ [.replace i]) k j := by
  obtain old | last := List.mem_append.1 mem
  · have replaced := holds.replaced old
    rw [List.append_assoc]
    obtain old' | last' := List.mem_append.1 mem'
    · rw [cutsIn_append_iff replaced (holds.loaded j old') (holds.replaced old')]
      exact ((holds.mem_iff k).1 old).2 j old'
    · obtain rfl := List.mem_singleton.1 last'
      exact not_cutsIn_of_mem replaced new
  · obtain rfl := List.mem_singleton.1 last
    exact not_cutsIn_last fresh (holds.replaced_concat mem')

/-- A command that replaces the file keeps what was kept when it loaded the file, and adds its own
context. All that was added in between is lost. -/
lemma Kept.replace (holds : Kept earlier kept) (new : .load i ∉ earlier)
    (fresh : .replace i ∉ earlier ++ .load i :: later) :
    Kept (earlier ++ .load i :: later ++ [.replace i]) (kept ++ [i]) := by
  refine ⟨?_, fun j mem => holds.loaded_concat mem, fun k => ⟨fun mem => ?_, ?_⟩⟩
  · rw [← List.concat_eq_append]
    exact holds.nodup.concat fun mem => fresh (List.mem_append_left _ (holds.replaced mem))
  · exact ⟨holds.replaced_concat mem, fun j mem' => holds.not_cutsIn_concat new fresh mem mem'⟩
  · rintro ⟨replaced, uncut⟩
    rw [List.mem_append]
    by_cases old : .replace k ∈ earlier
    · refine .inl
        ((holds.mem_iff k).2 ⟨old, fun j mem cuts => uncut j (List.mem_append_left _ mem) ?_⟩)
      rwa [List.append_assoc, cutsIn_append_iff old (holds.loaded j mem) (holds.replaced mem)]
    · by_cases same : k = i
      · exact .inr (List.mem_singleton.2 same)
      · have between : .replace k ∈ later := by simpa [old, same] using replaced
        exact absurd (cutsIn_of_not_mem between old new fresh) (uncut i (by simp))

/-! ### Turns and the file -/

/-- Names that a command loaded: the contexts that were kept before its first turn. -/
def Recalls (commands : ι → Addition) (before : List String) (turns : List (Turn ι)) (i : ι)
    (names : List String) : Prop :=
  ∃ earlier later kept, turns = earlier ++ .load i :: later ∧ .load i ∉ earlier ∧
    Kept earlier kept ∧
    names = selection commands before kept

/-- What a command has loaded is recalled whatever turn comes next. -/
lemma Recalls.snoc (recalls : Recalls commands before turns i names) (turn : Turn ι) :
    Recalls commands before (turns ++ [turn]) i names := by
  obtain ⟨earlier, later, kept, rfl, new, holds, read⟩ := recalls
  exact ⟨earlier, later ++ [turn], kept, by simp, new, holds, read⟩

/-- Where the file and the commands stand after some turns. -/
structure Inv (path : String) (commands : ι → Addition) (before : List String)
    (turns : List (Turn ι)) (w : World ι) : Prop where
  file : ∃ kept, Kept turns kept ∧ (Store.file path).load w.files =
    .ok (selection commands before kept)
  idle_iff : ∀ i, w.phase i = .idle ↔ .load i ∉ turns
  loaded : ∀ i names, w.phase i = .loaded names → Recalls commands before turns i names
  done_iff : ∀ i, w.phase i = .done ↔ .replace i ∈ turns

/-- A command that is moved to a phase is in that phase. -/
@[simp] lemma World.move_phase (w : World ι) (i : ι) (phase : Phase) :
    (w.move i phase).phase i = phase :=
  Function.update_self ..

/-- A move leaves the phases of the other commands. -/
lemma World.move_phase_of_ne (other : k ≠ i) (w : World ι) (phase : Phase) :
    (w.move i phase).phase k = w.phase k := Function.update_of_ne other ..

/-- At the start nothing is kept, and no command has had a turn. -/
lemma inv_start (loads : (Store.file path).load t = .ok before) :
    Inv path commands before [] (start t) := by
  constructor
  case file =>
    refine ⟨[], kept_nil, ?_⟩
    unfold selection
    rw [List.map_nil, List.append_nil]
    exact loads
  case idle_iff => simp [start]
  case loaded => exact fun _ _ loaded => nomatch loaded
  case done_iff => simp [start]

/-- A turn that loads the file changes no file and recalls what is kept at that instant. -/
lemma Inv.load (inv : Inv path commands before turns w) (idle : w.phase i = .idle)
    (loads : (Store.file path).load w.files = .ok names) :
    Inv path commands before (turns ++ [.load i]) (w.move i (.loaded names)) := by
  obtain ⟨kept, holds, held⟩ := inv.file
  have pending : .replace i ∉ turns := by
    rw [← inv.done_iff, idle]
    nofun
  constructor
  case file => exact ⟨kept, holds.load i, held⟩
  case idle_iff =>
    intro k
    by_cases same : k = i
    · subst same
      simp
    · simp [World.move_phase_of_ne same, same, inv.idle_iff]
  case loaded =>
    intro k names' loaded
    by_cases same : k = i
    · subst same
      rw [World.move_phase] at loaded
      cases loaded
      exact ⟨turns, [], kept, rfl, (inv.idle_iff k).1 idle, holds,
        Except.ok.inj (loads.symm.trans held)⟩
    · rw [World.move_phase_of_ne same] at loaded
      exact (inv.loaded k names' loaded).snoc _
  case done_iff =>
    intro k
    by_cases same : k = i
    · subst same
      simp [pending]
    · simp [World.move_phase_of_ne same, inv.done_iff]

/-- A turn that replaces the file keeps what its command has loaded, and its own context. -/
lemma Inv.replace {files : Files.Tree} (inv : Inv path commands before turns w)
    (fresh : Fresh commands before) (storable : ∀ n ∈ before, Storable n)
    (loaded : w.phase i = .loaded names)
    (saves : (Store.file path).save w.files ((commands i).after names) = .ok files) :
    Inv path commands before (turns ++ [.replace i]) ({ w with files }.move i .done) := by
  have pending : .replace i ∉ turns := by
    rw [← inv.done_iff, loaded]
    nofun
  constructor
  case file =>
    obtain ⟨earlier, later, kept, rfl, new, holds, rfl⟩ := inv.loaded i names loaded
    have apart : i ∉ kept := fun mem => pending (List.mem_append_left _ (holds.replaced mem))
    refine ⟨kept ++ [i], holds.replace new pending, ?_⟩
    rw [fresh.after apart] at saves
    refine Store.load_of_save saves fun n mem => ?_
    obtain old | added := List.mem_append.1 mem
    · exact storable n old
    · obtain ⟨j, -, rfl⟩ := List.mem_map.1 added
      exact (commands j).storable
  case idle_iff =>
    intro k
    by_cases same : k = i
    · subst same
      obtain ⟨earlier, later, _, rfl, -⟩ := inv.loaded k names loaded
      simp
    · simp [World.move_phase_of_ne same, inv.idle_iff]
  case loaded =>
    intro k names' loaded
    by_cases same : k = i
    · subst same
      rw [World.move_phase] at loaded
      cases loaded
    · rw [World.move_phase_of_ne same] at loaded
      exact (inv.loaded k names' loaded).snoc _
  case done_iff =>
    intro k
    by_cases same : k = i
    · subst same
      simp
    · simp [World.move_phase_of_ne same, same, inv.done_iff]

/-- The invariant holds after any turns, in whatever order the commands take them. -/
lemma Steps.inv (steps : Steps path commands (start t) turns w) (fresh : Fresh commands before)
    (loads : (Store.file path).load t = .ok before) : Inv path commands before turns w := by
  induction steps with
  | nil => exact inv_start loads
  | snoc _ step ih =>
    cases step with
    | load idle loads => exact ih.load idle loads
    | replace loaded saves => exact ih.replace fresh (Store.storable_of_mem_load loads) loaded saves

/-! ### Going on -/

/-- A selection that was saved can be loaded and saved again. -/
lemma exists_save (writable : t.Writable path) (names : List String)
    (storable : ∀ n ∈ names, Storable n) :
    ∃ t', (Store.file path).save t names = .ok t' ∧ t'.Writable path ∧
      (Store.file path).load t' = .ok names := by
  obtain ⟨t', puts⟩ := writable.put (Selection.toText names).toUTF8 false
  have saves := Store.file_save_eq_ok.2 puts
  exact ⟨t', saves, Files.Tree.writable_of_put puts, Store.load_of_save saves storable⟩

/-- The file can be written after any turns if it could before. -/
lemma Steps.writable (steps : Steps path commands first turns w)
    (writable : first.files.Writable path) : w.files.Writable path := by
  induction steps with
  | nil => exact writable
  | snoc _ step ih =>
    cases step with
    | load => exact ih
    | replace _ saves => exact Files.Tree.writable_of_put (Store.file_save_eq_ok.1 saves)

/-- A command that has not finished can take its next turn. -/
lemma Inv.exists_step (inv : Inv path commands before turns w) (writable : w.files.Writable path)
    (unfinished : w.phase i ≠ .done) :
    ∃ turn w', turn.command = i ∧ Step path commands w turn w' := by
  cases phase : w.phase i with
  | idle =>
    obtain ⟨kept, -, held⟩ := inv.file
    exact ⟨.load i, _, rfl, .load phase held⟩
  | loaded names =>
    obtain ⟨files, puts⟩ := writable.put (Selection.toText ((commands i).after names)).toUTF8 false
    exact ⟨.replace i, _, rfl, .replace phase (Store.file_save_eq_ok.2 puts)⟩
  | done => exact absurd phase unfinished

/-- Commands add distinct contexts to a selection, each loading the file at one turn and replacing
it at another. They can go on to the end; and then all that was selected before is still selected,
with the contexts that were added after it. A context is lost exactly if the file was replaced with
it between the two turns of a command whose own context is not lost, so none is lost exactly if no
command replaced the file between the two turns of another. -/
theorem selection_of_steps (fresh : Fresh commands before)
    (loads : (Store.file path).load t = .ok before)
    (steps : Steps path commands (start t) turns w) :
    (t.Writable path → ∀ i, w.phase i ≠ .done → ∃ turn w', turn.command = i ∧
      Step path commands w turn w') ∧
    (w.Finished → ∃ kept : List ι,
      (Store.file path).load w.files = .ok (before ++ kept.map fun i => (commands i).name) ∧
      kept.Nodup ∧ (∀ i, i ∈ kept ↔ ∀ j ∈ kept, ¬ CutsIn turns i j) ∧
      ((∀ i, i ∈ kept) ↔ ∀ i j, ¬ CutsIn turns i j)) := by
  have inv := steps.inv fresh loads
  refine ⟨fun writable i unfinished => inv.exists_step (steps.writable writable) unfinished,
    fun finished => ?_⟩
  obtain ⟨kept, holds, held⟩ := inv.file
  have uncut : ∀ i, i ∈ kept ↔ ∀ j ∈ kept, ¬ CutsIn turns i j := fun i => by
    rw [holds.mem_iff, and_iff_right ((inv.done_iff i).1 (finished i))]
  refine ⟨kept, held, holds.nodup, uncut, fun all i j => (uncut i).1 (all i) j (all j),
    fun none i => ?_⟩
  exact (uncut i).2 fun j _ => none i j

/-- Commands that add three contexts. -/
def trio : Fin 3 → Addition
  | 0 => ⟨.select, "a", ["a", "b", "c"], by decide, by decide⟩
  | 1 => ⟨.toggle, "b", ["a", "b", "c"], by decide, by decide⟩
  | 2 => ⟨.select, "c", ["a", "b", "c"], by decide, by decide⟩

/-- The three commands add distinct contexts that are not selected yet. -/
lemma fresh_trio : Fresh trio ["z"] := by
  constructor
  case distinct =>
    intro i j
    revert i j
    decide
  case new => decide

/-- Two commands that have the file loaded at the same time, and a third one later. -/
def twined : List (Turn (Fin 3)) := [.load 0, .load 1, .replace 1, .replace 0, .load 2, .replace 2]

/-- Of three contexts the second is lost: it is saved after the first command has loaded the file
and before that saves its own. -/
theorem selection_of_steps_trio :
    ∃ w, Steps "selection" trio (start (Store.holding "z")) twined w ∧ w.Finished ∧
      ∃ selected, (Store.file "selection").load w.files = .ok selected ∧
        "z" ∈ selected ∧ "a" ∈ selected ∧ "b" ∉ selected ∧ "c" ∈ selected := by
  have writable : (Store.holding "z").Writable "selection" :=
    ⟨Store.holding "z", ["selection"], rfl, rfl, nofun⟩
  have names : Selection.ofText "z" = ["z"] := by decide
  have loads : (Store.file "selection").load (Store.holding "z") = .ok ["z"] := by
    rw [Store.load_holding, names]
  obtain ⟨t1, saves1, writable1, -⟩ := exists_save writable ((trio 1).after ["z"]) (by decide)
  obtain ⟨t2, saves0, writable2, loads2⟩ := exists_save writable1 ((trio 0).after ["z"]) (by decide)
  obtain ⟨t3, saves2, -, -⟩ :=
    exists_save writable2 ((trio 2).after ((trio 0).after ["z"])) (by decide)
  obtain ⟨w, steps, finished⟩ : ∃ w, Steps "selection" trio (start (Store.holding "z")) twined w ∧
      w.Finished := by
    have steps : Steps "selection" trio (start (Store.holding "z")) [.load 0] _ :=
      .snoc .nil (.load rfl loads)
    have steps := steps.snoc (.load (i := 1) rfl loads)
    have steps := steps.snoc (.replace (i := 1) rfl saves1)
    have steps := steps.snoc (.replace (i := 0) rfl saves0)
    have steps := steps.snoc (.load (i := 2) rfl loads2)
    have steps := steps.snoc (.replace (i := 2) rfl saves2)
    refine ⟨_, steps, fun i => ?_⟩
    match i with
    | 0 => rfl
    | 1 => rfl
    | 2 => rfl
  obtain ⟨-, ends⟩ := selection_of_steps fresh_trio loads steps
  obtain ⟨kept, held, -, uncut, -⟩ := ends finished
  have first : 0 ∈ kept := by
    have never : ∀ j, ¬ CutsIn twined 0 j := by decide
    exact (uncut 0).2 fun j _ => never j
  have last : 2 ∈ kept := by
    have never : ∀ j, ¬ CutsIn twined 2 j := by decide
    exact (uncut 2).2 fun j _ => never j
  have lost : 1 ∉ kept := fun mem => (uncut 1).1 mem 0 first (by decide)
  refine ⟨w, steps, finished, _, held, by simp, ?_, ?_, ?_⟩
  · exact List.mem_append_right _ (List.mem_map_of_mem first)
  · intro mem
    obtain old | added := List.mem_append.1 mem
    · exact absurd old (by decide)
    · obtain ⟨j, there, same⟩ := List.mem_map.1 added
      obtain rfl : j = 1 := fresh_trio.distinct same
      exact lost there
  · exact List.mem_append_right _ (List.mem_map_of_mem last)

/-- Two commands that load the file before either of them replaces it. -/
def pair : Fin 2 → Addition
  | 0 => ⟨.select, "a", ["a", "b"], by decide, by decide⟩
  | 1 => ⟨.toggle, "b", ["a", "b"], by decide, by decide⟩

/-- A context that was added is lost where another command had loaded the file before and replaces
it afterwards. -/
theorem selection_of_steps_overlap :
    Fresh pair [] ∧ (Store.file "selection").load ⟨[], []⟩ = .ok [] ∧
      ∃ w, Steps "selection" pair (start ⟨[], []⟩) [.load 0, .load 1, .replace 0, .replace 1] w ∧
        w.Finished ∧ ∃ selected, (Store.file "selection").load w.files = .ok selected ∧
          (pair 0).name ∉ selected := by
  have fresh : Fresh pair [] := by
    refine ⟨fun i j => ?_, nofun⟩
    revert i j
    decide
  have loads : (Store.file "selection").load ⟨[], []⟩ = .ok [] := Store.file_load_of_missing rfl
  have writable : Files.Tree.Writable ⟨[], []⟩ "selection" :=
    ⟨⟨[], []⟩, ["selection"], rfl, rfl, nofun⟩
  obtain ⟨t1, saves0, writable1, -⟩ := exists_save writable ((pair 0).after []) (by decide)
  obtain ⟨t2, saves1, -, loads2⟩ := exists_save writable1 ((pair 1).after []) (by decide)
  have steps : Steps "selection" pair (start ⟨[], []⟩) [.load 0] _ := .snoc .nil (.load rfl loads)
  have steps := steps.snoc (.load (i := 1) rfl loads)
  have steps := steps.snoc (.replace (i := 0) rfl saves0)
  have steps := steps.snoc (.replace (i := 1) rfl saves1)
  refine ⟨fresh, loads, _, steps, fun i => ?_, _, loads2, by decide⟩
  match i with
  | 0 => rfl
  | 1 => rfl

end Addition

end Fleet.Cli
