import Fleet.Proofs.Files.Tree
import Fleet.Proofs.Text.Blank
import Fleet.Selection
import Mathlib.Data.List.Count
import Mathlib.Data.List.Nodup

/-!
# The stored selection

A name that is one trimmed line comes back from where it was stored, and every text holds such names
only (`ofText_toText`, `storable_of_mem_ofText`). So what was saved in a file is loaded again
(`load_of_save`), and only such names are (`load_save_iff`). What a toggle does to a text that names
a context more than once is the subject of `toggle_agrees_iff`.

`Storable` is the condition on one name, and three layers stand on it: the text codec, which reads
the names of several texts joined by line feeds one text after another (`ofText_lineFeed`); the
file, where a text that was put is read back; and the commands, which load, change and save. Each
layer is used by the next one through its equations only (`file_load_of_readText`,
`file_save_eq_ok`, `toggle_eq_ok`).
-/

namespace Fleet.Selection

/-- One line with something on it, and no blank character on either side. -/
structure Storable (name : String) : Prop where
  full : name ≠ ""
  oneLine : '\n' ∉ name.toList
  trimmed : Text.trim name = name

/-- Whether a name can be stored is decided by its characters. -/
instance (name : String) : Decidable (Storable name) :=
  decidable_of_iff (name ≠ "" ∧ '\n' ∉ name.toList ∧ Text.trim name = name)
    ⟨fun ⟨full, oneLine, trimmed⟩ => ⟨full, oneLine, trimmed⟩,
      fun ⟨full, oneLine, trimmed⟩ => ⟨full, oneLine, trimmed⟩⟩

variable {name : String} {names : List String}

/-! ### Names and texts -/

/-- Names are the trimmed pieces between line feeds that are not empty. -/
lemma ofText_eq (s : String) : ofText s = ((Text.split '\n' s).map Text.trim).filter (· ≠ "") :=
  Text.trimmed_lines s

/-- Every name read from a text can be stored. -/
lemma storable_of_mem_ofText {s : String} (mem : name ∈ ofText s) : Storable name := by
  rw [ofText_eq, List.mem_filter, List.mem_map] at mem
  obtain ⟨⟨piece, inside, rfl⟩, full⟩ := mem
  refine ⟨of_decide_eq_true full, fun feed => ?_, Text.trim_trim piece⟩
  unfold Text.trim at feed
  rw [String.toList_ofList] at feed
  exact Text.not_mem_of_mem_split inside (Text.trimChars_subset _ feed)

/-- Names that can be stored come back, in order and as often as they were stored. -/
lemma ofText_toText (storable : ∀ n ∈ names, Storable n) : ofText (toText names) = names := by
  cases some : names with
  | nil => rfl
  | cons n rest =>
    rw [← some]
    have pieces : Text.split '\n' (toText names) = names :=
      Text.split_join rfl (some ▸ List.cons_ne_nil n rest) fun n mem => (storable n mem).oneLine
    have trimmed : names.map Text.trim = names :=
      (List.map_congr_left fun n mem => (storable n mem).trimmed).trans (List.map_id names)
    rw [ofText_eq, pieces, trimmed]
    exact List.filter_eq_self.2 fun n mem => decide_eq_true (storable n mem).full

/-- A line feed separates what is read before it from what is read behind it. -/
lemma ofText_lineFeed (a b : String) : ofText (a ++ "\n" ++ b) = ofText a ++ ofText b := by
  have chars : (a ++ "\n" ++ b).toList = a.toList ++ '\n' :: b.toList := by simp
  have pieces : Text.split '\n' (a ++ "\n" ++ b) = Text.split '\n' a ++ Text.split '\n' b := by
    unfold Text.split
    rw [chars, Text.splitChars_eq_splitOn, List.splitOn_append_cons_self,
      Text.splitChars_eq_splitOn, Text.splitChars_eq_splitOn, List.map_append]
  rw [ofText_eq, ofText_eq, ofText_eq, pieces, List.map_append, List.filter_append]

/-- Stored names come back as what each of them alone comes back as. -/
lemma ofText_toText_eq_flatMap (names : List String) :
    ofText (toText names) = names.flatMap ofText := by
  unfold toText
  fun_induction Text.join "\n" names with
  | case1 => rfl
  | case2 n => exact (List.flatMap_singleton ofText n).symm
  | case3 n m rest ih =>
    rw [ofText_lineFeed, ih]
    exact List.flatMap_cons.symm

/-- Names come back unchanged exactly if all of them can be stored. -/
lemma ofText_toText_iff : ofText (toText names) = names ↔ ∀ n ∈ names, Storable n := by
  refine ⟨fun same n mem => ?_, ofText_toText⟩
  rw [← same] at mem
  exact storable_of_mem_ofText mem

/-! ### Names without repetitions -/

/-- Names without repetitions stay as they are. -/
lemma distinct_of_nodup (nodup : names.Nodup) : distinct names = names := by
  have more : ∀ (later front : List String), (front ++ later).Nodup →
      later.foldl (fun acc n => if acc.contains n then acc else acc ++ [n]) front =
        front ++ later := by
    intro later
    induction later with
    | nil => exact fun front _ => (List.append_nil front).symm
    | cons n later ih =>
      intro front nodup
      have free : n ∉ front := fun mem =>
        (List.nodup_append.1 nodup).2.2 n mem n List.mem_cons_self rfl
      rw [List.foldl_cons, if_neg (by simpa using free), ih (front ++ [n]) (by simpa using nodup)]
      simp
  exact more names [] nodup

/-! ### Toggled names -/

/-- A toggle says whether the name was absent. -/
lemma toggled_snd (names : List String) (name : String) :
    (toggled names name).2 = true ↔ name ∉ names := by
  unfold toggled
  split
  · rename_i mem
    simpa using mem
  · rename_i free
    simpa using free

/-- A toggle leaves all other names, in their order. -/
lemma filter_toggled (names : List String) (name : String) :
    (toggled names name).1.filter (· ≠ name) = names.filter (· ≠ name) := by
  unfold toggled
  split
  · have gone : (names.filter (· ≠ name)).erase name = names.filter (· ≠ name) :=
      List.erase_of_not_mem fun mem => of_decide_eq_true (List.mem_filter.1 mem).2 rfl
    rw [← List.erase_filter, gone]
  · simp

/-- After a toggle a name is absent exactly if it was there once. -/
lemma mem_toggled_iff (names : List String) (name : String) :
    name ∈ (toggled names name).1 ↔ names.count name ≠ 1 := by
  unfold toggled
  split
  · rename_i mem
    rw [List.contains_iff_mem] at mem
    have some : 0 < names.count name := List.count_pos_iff.2 mem
    rw [← List.count_pos_iff, List.count_erase_self]
    omega
  · rename_i free
    rw [List.contains_iff_mem] at free
    simp [List.count_eq_zero_of_not_mem free]

/-! ### The file -/

namespace Store

variable {t t' : Files.Tree} {path : String} {now : Bool}

/-- Loading reads the names of the text. -/
lemma file_load_of_readText {s : String} (reads : t.readText path = .ok s) :
    (file path).load t = .ok (ofText s) := by
  unfold file
  dsimp only
  rw [reads]

/-- A missing file holds no names. -/
lemma file_load_of_missing (reads : t.readText path = .error .missing) :
    (file path).load t = .ok [] := by
  unfold file
  dsimp only
  rw [reads]

/-- Saving puts the text of the names into the file. -/
lemma file_save_eq_ok :
    (file path).save t names = .ok t' ↔ t.put path (toText names).toUTF8 false = .ok t' := by
  change ofFiles (t.put path (toText names).toUTF8 false) = .ok t' ↔ _
  cases t.put path (toText names).toUTF8 false with
  | error e => exact ⟨nofun, nofun⟩
  | ok made => simp [ofFiles]

/-- What is loaded can be stored. -/
lemma storable_of_mem_load (loads : (file path).load t = .ok names) : ∀ n ∈ names, Storable n := by
  unfold file at loads
  dsimp only at loads
  split at loads
  · cases loads
    exact fun n => storable_of_mem_ofText
  · cases loads
    exact nofun
  · cases loads

/-- What was saved is loaded as it is read back from its text. -/
lemma load_of_save_eq (saves : (file path).save t names = .ok t') :
    (file path).load t' = .ok (ofText (toText names)) := by
  have reads : t'.read path = .ok (toText names).toUTF8 :=
    Files.Tree.read_of_put (file_save_eq_ok.1 saves)
  exact file_load_of_readText (Files.Tree.readText_of_read reads)

/-- Names that can be stored are loaded as they were saved. -/
lemma load_of_save (saves : (file path).save t names = .ok t')
    (storable : ∀ n ∈ names, Storable n) : (file path).load t' = .ok names := by
  rw [load_of_save_eq saves, ofText_toText storable]

/-- A toggle loads the names, changes them and saves them. -/
lemma toggle_of_load {σ : Type} {store : Store σ} {s : σ} (loads : store.load s = .ok names) :
    store.toggle s name =
      (store.save s (toggled names name).1).map fun s' => ((toggled names name).2, s') := by
  unfold toggle
  rw [loads]
  change (store.save s (toggled names name).1 >>= fun s' => .ok ((toggled names name).2, s')) = _
  cases store.save s (toggled names name).1 with
  | error e => rfl
  | ok s' => rfl

/-- A toggle succeeds exactly if loading and saving do. -/
lemma toggle_eq_ok {σ : Type} {store : Store σ} {s s' : σ} : store.toggle s name = .ok (now, s') ↔
    ∃ names, store.load s = .ok names ∧ (toggled names name).2 = now ∧
      store.save s (toggled names name).1 = .ok s' := by
  unfold toggle
  rw [bind_eq_ok]
  refine exists_congr fun names => and_congr_right fun _ => ?_
  rw [bind_eq_ok]
  constructor
  · rintro ⟨s'', saves, eq⟩
    obtain ⟨rfl, rfl⟩ := Prod.mk.inj (Except.ok.inj eq)
    exact ⟨rfl, saves⟩
  · rintro ⟨rfl, saves⟩
    exact ⟨s', saves, rfl⟩

/-- A toggle says whether a name was absent, and leaves the other names of the text as they are. The
name is selected afterwards as the toggle says exactly if the text did not name it twice, since only
its first occurrence is taken away. -/
theorem toggle_agrees_iff (storable : Storable name)
    (toggles : (file path).toggle t name = .ok (now, t')) :
    ∃ before after, (file path).load t = .ok before ∧ (file path).load t' = .ok after ∧
      (now = true ↔ name ∉ before) ∧ after.filter (· ≠ name) = before.filter (· ≠ name) ∧
      ((name ∈ after ↔ now = true) ↔ before.count name ≤ 1) := by
  obtain ⟨before, loads, rfl, saves⟩ := toggle_eq_ok.1 toggles
  have each : ∀ n ∈ (toggled before name).1, Storable n := by
    intro n mem
    by_cases same : n = name
    · exact same ▸ storable
    · have other : n ∈ before.filter (· ≠ name) := by
        rw [← filter_toggled]
        exact List.mem_filter.2 ⟨mem, decide_eq_true same⟩
      exact storable_of_mem_load loads n (List.mem_filter.1 other).1
  refine ⟨before, (toggled before name).1, loads, load_of_save saves each, toggled_snd before name,
    filter_toggled before name, ?_⟩
  rw [mem_toggled_iff, toggled_snd, ← List.count_eq_zero]
  omega

/-- Files with nothing but a stored text. -/
def holding (text : String) : Files.Tree := ⟨[], [(["selection"], .file text.toUTF8 false)]⟩

/-- The names of the only file are loaded. -/
lemma load_holding (text : String) :
    (file "selection").load (holding text) = .ok (ofText text) := by
  apply file_load_of_readText
  apply Files.Tree.readText_of_read
  rfl

/-- The only file can be replaced. -/
lemma writable_holding (text : String) : (holding text).Writable "selection" :=
  ⟨holding text, ["selection"], rfl, rfl, nofun⟩

/-- Any names can be saved where a file can be put. -/
lemma save_of_writable (writable : t.Writable path) (names : List String) :
    ∃ t', (file path).save t names = .ok t' := by
  obtain ⟨t', puts⟩ := writable.put (toText names).toUTF8 false
  exact ⟨t', file_save_eq_ok.2 puts⟩

/-- A toggle of a name in the only file succeeds. -/
lemma toggle_holding (text name : String) : ∃ t', (file "selection").toggle (holding text) name =
    .ok ((toggled (ofText text) name).2, t') := by
  obtain ⟨t', saves⟩ := save_of_writable (writable_holding text) (toggled (ofText text) name).1
  exact ⟨t', toggle_eq_ok.2 ⟨ofText text, load_holding text, rfl, saves⟩⟩

/-- A name with blanks around it, named once, is taken away, and one that is named twice stays
twice. -/
theorem toggle_agrees_padded : ∃ t', Storable "a" ∧
    (file "selection").toggle (holding " b \n\n\ta\r\nb\n") "a" = .ok (false, t') ∧
    ∃ after, (file "selection").load t' = .ok after ∧ after.filter (· ≠ "a") = ["b", "b"] ∧
      "a" ∉ after := by
  have storable : Storable "a" := by decide
  have names : ofText " b \n\n\ta\r\nb\n" = ["b", "a", "b"] := by decide
  obtain ⟨t', toggles⟩ := toggle_holding " b \n\n\ta\r\nb\n" "a"
  rw [names] at toggles
  obtain ⟨before, after, loads, loads', -, others, agree⟩ := toggle_agrees_iff storable toggles
  rw [load_holding, names] at loads
  obtain rfl := Except.ok.inj loads
  refine ⟨t', storable, toggles, after, loads', others, fun mem => ?_⟩
  exact absurd ((agree.2 (by decide)).1 mem) (by decide)

/-- Of a name that a text holds twice one is left, and the toggle denies it. -/
theorem toggle_denies_twice :
    Storable "a" ∧ (file "selection").load (holding "a\na") = .ok ["a", "a"] ∧
    ∃ t', (file "selection").toggle (holding "a\na") "a" = .ok (false, t') ∧
      (file "selection").load t' = .ok ["a"] ∧ ¬ ("a" ∈ ["a"] ↔ false = true) := by
  have names : ofText "a\na" = ["a", "a"] := by decide
  have loads : (file "selection").load (holding "a\na") = .ok ["a", "a"] := by
    rw [load_holding, names]
  obtain ⟨t', toggles⟩ := toggle_holding "a\na" "a"
  rw [names] at toggles
  obtain ⟨before, loads', -, saves⟩ := toggle_eq_ok.1 toggles
  obtain rfl := Except.ok.inj (loads.symm.trans loads')
  exact ⟨by decide, loads, t', toggles, load_of_save saves (by decide), by decide⟩

/-! ### Saving and loading again -/

/-- What was saved is loaded name by name, and comes back unchanged exactly if every name can be
stored. What is loaded from a text can be saved where files can be written, and comes back unchanged
whenever it was saved. -/
theorem load_save_iff (path : String) :
    (∀ t t' names, (file path).save t names = .ok t' →
      (file path).load t' = .ok (names.flatMap ofText) ∧
      ((file path).load t' = .ok names ↔ ∀ n ∈ names, Storable n)) ∧
    ∀ (t : Files.Tree) text, t.readText path = .ok text → ∃ names, (file path).load t = .ok names ∧
      (t.Writable path → ∃ t', (file path).save t names = .ok t') ∧
      ∀ t', (file path).save t names = .ok t' → (file path).load t' = .ok names := by
  refine ⟨fun t t' names saves => ⟨?_, ?_⟩, fun t text reads => ?_⟩
  · rw [load_of_save_eq saves, ofText_toText_eq_flatMap]
  · rw [load_of_save_eq saves, Except.ok.injEq, ofText_toText_iff]
  · refine ⟨ofText text, file_load_of_readText reads, fun writable => save_of_writable writable _,
      ?_⟩
    exact fun t' saves => load_of_save saves fun n => storable_of_mem_ofText

/-- A name with a carriage return inside comes back, names with blanks around them or a line feed
inside do not, and a text with blank lines is normal after one pass. -/
theorem load_save_iff_blanks :
    (∃ t', (file "selection").save (holding "") ["a\rb", "c d"] = .ok t' ∧
      (file "selection").load t' = .ok ["a\rb", "c d"]) ∧
    (∃ t', (file "selection").save (holding "") ["a\nb", "", "\u00a0c"] = .ok t' ∧
      (file "selection").load t' = .ok ["a", "b", "c"]) ∧
    (holding " b \n\n\ta\r\nb\n").readText "selection" = .ok " b \n\n\ta\r\nb\n" ∧
    ∃ t', (file "selection").save (holding " b \n\n\ta\r\nb\n") ["b", "a", "b"] = .ok t' ∧
      (file "selection").load t' = .ok ["b", "a", "b"] := by
  obtain ⟨saved, again⟩ := load_save_iff "selection"
  have reads : (holding " b \n\n\ta\r\nb\n").readText "selection" = .ok " b \n\n\ta\r\nb\n" :=
    Files.Tree.readText_of_read rfl
  refine ⟨?_, ?_, reads, ?_⟩
  · obtain ⟨t', saves⟩ := save_of_writable (writable_holding "") ["a\rb", "c d"]
    exact ⟨t', saves, (saved _ _ _ saves).2.2 (by decide)⟩
  · obtain ⟨t', saves⟩ := save_of_writable (writable_holding "") ["a\nb", "", "\u00a0c"]
    have pieces : ["a\nb", "", "\u00a0c"].flatMap ofText = ["a", "b", "c"] := by decide
    exact ⟨t', saves, pieces ▸ (saved _ _ _ saves).1⟩
  · obtain ⟨names, loads, saves, loads'⟩ := again _ _ reads
    have parts : ofText " b \n\n\ta\r\nb\n" = ["b", "a", "b"] := by decide
    rw [load_holding, parts] at loads
    obtain rfl := Except.ok.inj loads
    obtain ⟨t', saves⟩ := saves (writable_holding _)
    exact ⟨t', saves, loads' t' saves⟩

end Store

end Fleet.Selection
