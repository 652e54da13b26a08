import Fleet.Files.Tree
import Fleet.Proofs.Except
import Mathlib.Data.List.Basic

/-!
# Writing and reading files

A file that was put somewhere is read back from there (`read_of_put`), and another one can be put
there in its place (`writable_of_put`). What a walk needs are directories on the way, and those stay
where they are (`Extends`).

`Extends t u` says that every directory of `t` is one of `u`, at the same place. Creating
directories and writing files extend a tree, and a walk that ends well ends at the same place in a
tree that extends this one (`walk_of_extends`, by induction on the names). `Writable t path` is the
condition for putting a file: its directory is there or can be created, and no directory stands
where the file is to be. It is what remains true after a file was put, whatever the file.
-/

namespace Fleet.Files.Tree

variable {t t' u : Tree} {l l' here : Location} {e : Entry} {names : List String} {path : String}
  {bytes : ByteArray} {runnable : Bool}

/-- All directories of a tree are directories of another. -/
structure Extends (t t' : Tree) : Prop where
  base : t'.base = t.base
  dir : ∀ l, t.entry? l = some .dir → t'.entry? l = some .dir

/-- A tree extends itself. -/
lemma Extends.refl (t : Tree) : t.Extends t := ⟨rfl, fun _ dir => dir⟩

/-- A tree extends what is extended by one that it extends. -/
lemma Extends.trans (ext : t.Extends t') (ext' : t'.Extends u) : t.Extends u :=
  ⟨ext'.base.trans ext.base, fun l dir => ext'.dir l (ext.dir l dir)⟩

/-! ### Entries -/

/-- The root is a directory. -/
lemma ne_nil_of_entry?_ne (free : t.entry? l ≠ some .dir) : l ≠ [] := by
  rintro rfl
  exact free rfl

/-- What was set is found at its place. -/
lemma entry?_set_self (inside : l ≠ []) : entry? (t.set l e) l = some e := by
  unfold entry? set
  simp [inside]

/-- What was set changes no other place. -/
lemma entry?_set_of_ne (other : l' ≠ l) : entry? (t.set l e) l' = t.entry? l' := by
  unfold entry? set
  have found : ((l, e) :: t.entries.filter (·.1 ≠ l)).find? (·.1 = l') =
      t.entries.find? (·.1 = l') := by
    rw [List.find?_cons_of_neg (by simpa using Ne.symm other), List.find?_filter]
    congr 1
    funext entry
    by_cases at_ : entry.1 = l'
    · simp [at_, other]
    · simp [at_]
  dsimp only
  rw [found]

/-- Nothing is lost where no directory is overwritten. -/
lemma extends_set (free : t.entry? l ≠ some .dir) : t.Extends (t.set l e) := by
  refine ⟨rfl, fun l' dir => ?_⟩
  rw [entry?_set_of_ne]
  · exact dir
  · rintro rfl
    exact free dir

/-! ### Walks -/

/-- A walk is the same where there are more directories. -/
lemma walk_of_extends (walks : t.walk here names = .ok l) (ext : t.Extends u) :
    u.walk here names = .ok l := by
  fun_induction walk t here names with
  | case1 here => exact walks
  | case2 here c r stays ih => rw [walk, if_pos stays, ih walks]
  | case3 here r moves ih => rw [walk, if_neg moves, if_pos rfl, ih walks]
  | case4 => cases walks
  | case5 here c moves down short => rwa [walk, if_neg moves, if_neg down, if_neg short, if_pos rfl]
  | case6 here c r moves down short further dir ih =>
    rw [walk, if_neg moves, if_neg down, if_neg short, if_neg further, ext.dir _ dir]
    exact ih walks
  | case7 => cases walks
  | case8 => cases walks

/-- A path leads to the same place in a tree that extends this one. -/
lemma locate_of_extends (finds : t.locate path = .ok l) (ext : t.Extends u) :
    u.locate path = .ok l := by
  unfold locate at finds ⊢
  rw [ext.base]
  split_ifs at finds ⊢ <;> exact walk_of_extends finds ext

/-! ### Directories -/

/-- Directories are only added. -/
lemma makeDirs_extends (makes : t.makeDirs here names = .ok t') : t.Extends t' := by
  fun_induction makeDirs t here names with
  | case1 t here =>
    obtain rfl := Except.ok.inj makes
    exact .refl t
  | case2 t here c r stays ih => exact ih makes
  | case3 t here r moves ih => exact ih makes
  | case4 => cases makes
  | case5 t here c r moves down short dir ih => exact ih makes
  | case6 => cases makes
  | case7 t here c r moves down short free ih =>
    have free : t.entry? (here ++ [c]) ≠ some .dir := by
      rw [free]
      nofun
    exact (extends_set free).trans (ih makes)

/-- Directories that were made need not be made again. -/
lemma makeDirs_of_extends (makes : t.makeDirs here names = .ok t') (ext : t'.Extends u) :
    u.makeDirs here names = .ok u := by
  fun_induction makeDirs t here names with
  | case1 t here => rfl
  | case2 t here c r stays ih => rw [makeDirs, if_pos stays, ih makes]
  | case3 t here r moves ih => rw [makeDirs, if_neg moves, if_pos rfl, ih makes]
  | case4 => cases makes
  | case5 t here c r moves down short dir ih =>
    have made : u.entry? (here ++ [c]) = some .dir := ((makeDirs_extends makes).trans ext).dir _ dir
    rw [makeDirs, if_neg moves, if_neg down, if_neg short, made]
    exact ih makes
  | case6 => cases makes
  | case7 t here c r moves down short free ih =>
    have new : entry? (t.set (here ++ [c]) .dir) (here ++ [c]) = some .dir :=
      entry?_set_self (by simp)
    have made : u.entry? (here ++ [c]) = some .dir := ((makeDirs_extends makes).trans ext).dir _ new
    rw [makeDirs, if_neg moves, if_neg down, if_neg short, made]
    exact ih makes

/-- A directory is created with those above it, and nothing else changes. -/
lemma createDir_extends (makes : t.createDir path = .ok t') : t.Extends t' := by
  unfold createDir at makes
  split_ifs at makes <;> exact makeDirs_extends makes

/-- A directory that is there need not be created. -/
lemma createDir_of_extends (makes : t.createDir path = .ok t') (ext : t'.Extends u) :
    u.createDir path = .ok u := by
  have base : u.base = t.base := ((createDir_extends makes).trans ext).base
  unfold createDir at makes ⊢
  rw [base]
  split_ifs at makes ⊢ <;> exact makeDirs_of_extends makes ext

/-! ### Files -/

/-- A file is written where a path leads to a place that is no directory, and nowhere else. -/
lemma write_eq_ok : t.write path bytes runnable = .ok t' ↔
    ∃ l, t.locate path = .ok l ∧ t.entry? l ≠ some .dir ∧ t' = t.set l (.file bytes runnable) := by
  unfold write
  rw [bind_eq_ok]
  refine exists_congr fun l => and_congr_right fun _ => ?_
  split
  · rename_i dir
    simp [dir]
  · rename_i free
    rw [Except.ok.injEq, eq_comm]
    exact ⟨fun eq => ⟨free, eq⟩, And.right⟩

/-- The directory of a path can be made, and no directory is in the way of a file. -/
def Writable (t : Tree) (path : String) : Prop :=
  ∃ made l, t.createDir (directory path) = .ok made ∧ made.locate path = .ok l ∧
    made.entry? l ≠ some .dir

/-- A file is put somewhere by creating its directory and writing it. -/
lemma put_eq_ok : t.put path bytes runnable = .ok t' ↔
    ∃ made l, t.createDir (directory path) = .ok made ∧ made.locate path = .ok l ∧
      made.entry? l ≠ some .dir ∧ t' = made.set l (.file bytes runnable) := by
  unfold put
  rw [bind_eq_ok]
  simp only [write_eq_ok, exists_and_left]

/-- Where a file can be put, putting one succeeds. -/
lemma Writable.put (w : t.Writable path) (bytes : ByteArray) (runnable : Bool) :
    ∃ t', t.put path bytes runnable = .ok t' := by
  obtain ⟨made, l, makes, finds, free⟩ := w
  exact ⟨_, put_eq_ok.2 ⟨made, l, makes, finds, free, rfl⟩⟩

/-- What was put at a path is read from there. -/
lemma read_of_put (puts : t.put path bytes runnable = .ok t') : t'.read path = .ok bytes := by
  obtain ⟨made, l, -, finds, free, rfl⟩ := put_eq_ok.1 puts
  unfold read
  refine bind_eq_ok.2 ⟨l, locate_of_extends finds (extends_set free), ?_⟩
  rw [entry?_set_self (ne_nil_of_entry?_ne free)]

/-- Where a file was put, another one can be put. -/
lemma writable_of_put (puts : t.put path bytes runnable = .ok t') : t'.Writable path := by
  obtain ⟨made, l, makes, finds, free, rfl⟩ := put_eq_ok.1 puts
  have ext : made.Extends (made.set l (.file bytes runnable)) := extends_set free
  refine ⟨_, l, createDir_of_extends makes ext, locate_of_extends finds ext, ?_⟩
  rw [entry?_set_self (ne_nil_of_entry?_ne free)]
  nofun

/-- Bytes of a text are read as that text. -/
lemma readText_of_read {s : String} (reads : t.read path = .ok s.toUTF8) :
    t.readText path = .ok s := by
  have valid : String.fromUTF8? s.toUTF8 = some s := dif_pos s.isValidUTF8
  unfold readText
  refine bind_eq_ok.2 ⟨s.toUTF8, reads, ?_⟩
  rw [valid]

end Fleet.Files.Tree
