import Fleet.Kubeconfig.Source
import Fleet.Proofs.Files.Path
import Fleet.Proofs.Files.Tree
import Fleet.Proofs.Kubeconfig.Merge
import Mathlib.Data.List.Nodup

/-!
# Configurations read from files

Files are read in order and merged (`readNext`). Where all files that are there can be used, what is
read is the first entry of each name, and every reference to a file is taken from the directory of
the file that makes it (`Merges.merge`, `Documents.readAll`); otherwise the first file that cannot
be used decides (`Offends.readAll`).

Two relations between files and paths make up what can be found, and one of both always holds
(`documents_or_offends`):
* `Documents t paths docs`: all files that are there hold documents, each given with its directory;
* `Offends t paths e`: the first file that cannot be used, and why; a malformed one shows its text.

`Merges docs k` is what a configuration made of documents is to be, without the order of merging:
`Collects` has the names in the order of first appearance and for each of them its first entry, and
a kept entry differs from the one in the document only by references, each rebased once. One more
document keeps that (`Merges.merge`), so a whole list does by induction.
-/

namespace Fleet.Kubeconfig

variable {t : Files.Tree} {path dir : String} {paths : List String}
  {docs : List (String × Kubeconfig)}
  {k acc : Kubeconfig} {e : Failure}

/-- Documents of the files that are there, in order: each as it is written, with the directory of
its file. -/
inductive Documents (t : Files.Tree) : List String → List (String × Kubeconfig) → Prop where
  | nil : Documents t [] []
  | missing {path : String} {paths : List String} {docs : List (String × Kubeconfig)} :
    t.readText path = .error .missing →
    Documents t paths docs →
    Documents t (path :: paths) docs
  | present {path text dir : String} {k : Kubeconfig} {paths : List String}
      {docs : List (String × Kubeconfig)} :
    t.readText path = .ok text →
    parse text = .ok k →
    Files.parent? path = some dir →
    Documents t paths docs →
    Documents t (path :: paths) ((dir, k) :: docs)

/-- The first file that is there but cannot be used, and why: it cannot be read, or its text is no
document. -/
inductive Offends (t : Files.Tree) : List String → Failure → Prop where
  | unreadable {path : String} {paths : List String} {e : Files.Error} :
    t.readText path = .error e →
    e ≠ .missing →
    Offends t (path :: paths) (.io e.message)
  | malformed {path text : String} {paths : List String} :
    t.readText path = .ok text →
    (∀ k, parse text ≠ .ok k) →
    Offends t (path :: paths) (.yaml text)
  | later {path : String} {paths : List String} {docs : List (String × Kubeconfig)} {e : Failure} :
    Documents t [path] docs →
    Offends t paths e →
    Offends t (path :: paths) e

/-! ### What is kept -/

/-- A reference to a file that a document in a directory makes, and how it is kept. -/
inductive Rebased (dir : String) : Option String → Option String → Prop where
  | none : Rebased dir none none
  | absolute {path : String} :
    Files.Tree.isAbsolute path →
    Rebased dir (some path) (some path)
  | relative {path joined : String} :
    ¬ Files.Tree.isAbsolute path →
    Files.Joined dir path joined →
    Rebased dir (some path) (some joined)

/-- A cluster of a document in a directory, and how it is kept. -/
structure KeepsCluster (dir : String) (c kept : Cluster.Entry) : Prop where
  same : kept = { c with authority := kept.authority }
  authority : Rebased dir c.authority kept.authority

/-- A user of a document in a directory, and how it is kept. -/
structure KeepsUser (dir : String) (u kept : User.Entry) : Prop where
  same : kept =
    { u with tokenFile := kept.tokenFile, certificate := kept.certificate, key := kept.key }
  tokenFile : Rebased dir u.tokenFile kept.tokenFile
  certificate : Rebased dir u.certificate kept.certificate
  key : Rebased dir u.key kept.key

/-- A context is kept as it is. -/
def KeepsContext (_ : String) (c kept : Context.Entry) : Prop := kept = c

/-- Of entries in several directories the first of each name is kept, in the order in which the
names appear. -/
structure Collects {α : Type} (keeps : String → α → α → Prop) (defined : List (String × Named α))
    (entries : List (Named α)) : Prop where
  nodup : (entries.map (·.name)).Nodup
  order : entries.map (·.name) = (defined.map (·.2.name)).eraseDups
  first : ∀ e ∈ entries, ∃ dir a,
    defined.find? (·.2.name = e.name) = some (dir, ⟨e.name, a⟩) ∧ keeps dir a e.entry

/-- Entries of one kind in documents, each with the directory of its file. -/
def defined {α : Type} (kind : Kubeconfig → List (Named α)) (docs : List (String × Kubeconfig)) :
    List (String × Named α) :=
  docs.flatMap fun d => (kind d.2).map (d.1, ·)

/-- What documents come to. -/
structure Merges (docs : List (String × Kubeconfig)) (k : Kubeconfig) : Prop where
  clusters : Collects KeepsCluster (defined clusters docs) k.clusters
  users : Collects KeepsUser (defined users docs) k.users
  contexts : Collects KeepsContext (defined contexts docs) k.contexts
  current : k.current = (docs.filterMap (·.2.current)).find? (· ≠ "")

/-! ### One entry more -/

/-- A reference under a directory is taken from there. -/
lemma rebased_under (dir : String) (o : Option String) :
    Rebased dir o (o.map (Files.under dir)) := by
  cases o with
  | none => exact .none
  | some path =>
    rw [Option.map_some]
    by_cases absolute : Files.Tree.isAbsolute path
    · rw [Files.under_of_isAbsolute absolute]
      exact .absolute absolute
    · exact .relative absolute (Files.joined_under absolute)

/-- An anchored cluster is kept as it is but for its references. -/
lemma keepsCluster_anchor (dir : String) (c : Cluster.Entry) :
    KeepsCluster dir c (anchorCluster dir c) :=
  ⟨rfl, rebased_under dir c.authority⟩

/-- An anchored user is kept as it is but for its references. -/
lemma keepsUser_anchor (dir : String) (u : User.Entry) : KeepsUser dir u (anchorUser dir u) :=
  ⟨rfl, rebased_under dir u.tokenFile, rebased_under dir u.certificate, rebased_under dir u.key⟩

section Collects

variable {α : Type} {keeps : String → α → α → Prop} {before : List (String × Named α)}
  {entries : List (Named α)}

/-- A name that is there adds nothing to the names without repetitions. -/
lemma eraseDups_concat_of_mem {names : List String} {name : String} (mem : name ∈ names) :
    (names ++ [name]).eraseDups = names.eraseDups := by
  have gone : [name].removeAll names = [] := by simp [List.removeAll, mem]
  rw [List.eraseDups_append, gone, List.eraseDups_nil, List.append_nil]

/-- A new name comes last among the names without repetitions. -/
lemma eraseDups_concat_of_not_mem {names : List String} {name : String} (new : name ∉ names) :
    (names ++ [name]).eraseDups = names.eraseDups ++ [name] := by
  have stays : [name].removeAll names = [name] := by simp [List.removeAll, new]
  rw [List.eraseDups_append, stays]
  rfl

/-- Nothing is collected of no entries. -/
lemma collects_nil : Collects keeps [] [] := ⟨List.nodup_nil, rfl, nofun⟩

/-- An entry is kept unless one of its name was defined before. -/
lemma Collects.push (collects : Collects keeps before entries) {a e : Named α}
    (name : e.name = a.name) (keep : keeps dir a.entry e.entry) :
    Collects keeps (before ++ [(dir, a)]) (Named.push entries e) := by
  have known : e.name ∈ entries.map (·.name) ↔ e.name ∈ before.map (·.2.name) := by
    rw [collects.order, List.mem_eraseDups]
  have names : (before ++ [(dir, a)]).map (·.2.name) = before.map (·.2.name) ++ [e.name] := by
    rw [List.map_append, name]
    rfl
  -- an entry that was the first of its name stays the first
  have stays : ∀ e ∈ entries, ∃ dir' b,
      (before ++ [(dir, a)]).find? (·.2.name = e.name) = some (dir', ⟨e.name, b⟩) ∧
        keeps dir' b e.entry := by
    intro e mem
    obtain ⟨dir', b, first, kept⟩ := collects.first e mem
    refine ⟨dir', b, ?_, kept⟩
    rw [List.find?_append, first]
    rfl
  by_cases there : e.name ∈ entries.map (·.name)
  · rw [Named.push_of_mem there]
    refine ⟨collects.nodup, ?_, stays⟩
    rw [names, eraseDups_concat_of_mem (known.1 there), collects.order]
  · rw [Named.push_of_not_mem there]
    have new : e.name ∉ before.map (·.2.name) := fun mem => there (known.2 mem)
    refine ⟨?_, ?_, ?_⟩
    · rw [List.map_append, List.map_singleton, ← List.concat_eq_append]
      exact collects.nodup.concat there
    · rw [names, eraseDups_concat_of_not_mem new, List.map_append, List.map_singleton,
        collects.order]
    · intro e' mem
      obtain old | last := List.mem_append.1 mem
      · exact stays e' old
      · obtain rfl := List.mem_singleton.1 last
        have none : before.find? (·.2.name = e'.name) = none := by
          rw [List.find?_eq_none]
          exact fun d mem same => new (List.mem_map.2 ⟨d, mem, of_decide_eq_true same⟩)
        refine ⟨dir, a.entry, ?_, keep⟩
        rw [List.find?_append, none, Option.none_or, name]
        simp

/-- The entries of a document are kept one after another. -/
lemma Collects.addNew (collects : Collects keeps before entries) (dir : String)
    (f : Named α → Named α) (name : ∀ a, (f a).name = a.name)
    (keep : ∀ a, keeps dir a.entry (f a).entry) (more : List (Named α)) :
    Collects keeps (before ++ more.map (dir, ·)) (Named.addNew entries (more.map f)) := by
  induction more using List.reverseRecOn with
  | nil =>
    rw [List.map_nil, List.append_nil]
    exact collects
  | append_singleton more a ih =>
    rw [List.map_append, List.map_append, ← List.append_assoc]
    change Collects keeps _ (Named.addNew entries (more.map f ++ [f a]))
    rw [Named.addNew_concat]
    exact ih.push (name a) (keep a)

end Collects

/-! ### One document more -/

/-- Entries of the last document come last, with its directory. -/
lemma defined_concat {α : Type} (kind : Kubeconfig → List (Named α))
    (docs : List (String × Kubeconfig)) (dir : String) (k : Kubeconfig) :
    defined kind (docs ++ [(dir, k)]) = defined kind docs ++ (kind k).map (dir, ·) := by
  unfold defined
  rw [List.flatMap_append, List.flatMap_singleton]

/-- The empty configuration is made of no documents. -/
lemma merges_nil : Merges [] empty := ⟨collects_nil, collects_nil, collects_nil, rfl⟩

/-- The current context of documents is the first one that is not empty. -/
lemma mergeCurrent_find? (named : List String) (more : Option String) :
    mergeCurrent (named.find? (· ≠ "")) more = (named ++ more.toList).find? (· ≠ "") := by
  have full : (named.find? (· ≠ "")).filter (· ≠ "") = named.find? (· ≠ "") := by
    cases first : named.find? (· ≠ "") with
    | none => rfl
    | some s => exact if_pos (List.find?_some first)
  rw [mergeCurrent_eq, full, List.find?_append]
  congr 1
  cases more with
  | none => rfl
  | some s =>
    rw [Option.toList_some, List.find?_singleton]
    rfl

/-- One more document is merged behind those before it, with its references taken from its
directory. -/
lemma Merges.merge (merges : Merges docs acc) (dir : String) (k : Kubeconfig) :
    Merges (docs ++ [(dir, k)]) (acc.merge (k.anchor dir)) := by
  constructor
  · rw [defined_concat]
    exact merges.clusters.addNew dir (fun c => { c with entry := anchorCluster dir c.entry })
      (fun _ => rfl)
      (fun c => keepsCluster_anchor dir c.entry) k.clusters
  · rw [defined_concat]
    exact merges.users.addNew dir (fun u => { u with entry := anchorUser dir u.entry })
      (fun _ => rfl)
      (fun u => keepsUser_anchor dir u.entry) k.users
  · have kept := merges.contexts.addNew dir id (fun _ => rfl) (fun _ => rfl) k.contexts
    rw [List.map_id] at kept
    rw [defined_concat]
    exact kept
  · have later : (docs ++ [(dir, k)]).filterMap (·.2.current) = docs.filterMap (·.2.current) ++
        k.current.toList := by
      rw [List.filterMap_append]
      cases current : k.current with
      | none => simp [current]
      | some s => simp [current]
    change mergeCurrent acc.current k.current = _
    rw [later, merges.current]
    exact mergeCurrent_find? _ k.current

/-! ### One file after another -/

/-- One more file read and merged into what the files before came to. -/
def readNext (t : Files.Tree) (acc : Kubeconfig) (path : String) : Except Failure Kubeconfig := do
  match ← readFile t path with
  | some k => return acc.merge k
  | none => return acc

/-- Files are read one after another. -/
lemma readAll_eq (t : Files.Tree) (paths : List String) :
    readAll t paths = paths.foldlM (readNext t) empty := rfl

/-- A missing file is passed over. -/
lemma readNext_of_missing (missing : t.readText path = .error .missing) (acc : Kubeconfig) :
    readNext t acc path = .ok acc := by
  unfold readNext readFile
  rw [missing]
  rfl

/-- A file that can be used is merged. -/
lemma readNext_of_parse {text : String} (reads : t.readText path = .ok text)
    (parses : parse text = .ok k) (parent : Files.parent? path = some dir) (acc : Kubeconfig) :
    readNext t acc path = .ok (acc.merge (k.anchor dir)) := by
  unfold readNext readFile
  rw [reads]
  dsimp only
  rw [parses, parent]
  rfl

/-- A file that is there and cannot be read ends it. -/
lemma readNext_of_unreadable {e : Files.Error} (fails : t.readText path = .error e)
    (there : e ≠ .missing) (acc : Kubeconfig) : readNext t acc path = .error (.io e.message) := by
  unfold readNext readFile
  rw [fails]
  cases e with
  | missing => exact absurd rfl there
  | _ => rfl

/-- A text that is no document fails as that text. -/
lemma parse_cases (text : String) :
    (∃ k, parse text = .ok k) ∨ parse text = .error (.yaml text) := by
  unfold parse
  split
  · exact .inl ⟨_, rfl⟩
  · dsimp only
    split
    · exact .inl ⟨_, rfl⟩
    · exact .inr rfl

/-- A file whose text is no document ends it, whatever the text. -/
lemma readNext_of_malformed {text : String} (reads : t.readText path = .ok text)
    (fails : ∀ k, parse text ≠ .ok k) (acc : Kubeconfig) :
    readNext t acc path = .error (.yaml text) := by
  have parses : parse text = .error (.yaml text) :=
    (parse_cases text).resolve_left fun ⟨k, parses⟩ => fails k parses
  unfold readNext readFile
  rw [reads]
  dsimp only
  rw [parses]
  rfl

/-- Files that can be used are merged behind the documents before them. -/
lemma Documents.foldlM_readNext (documents : Documents t paths docs)
    {before : List (String × Kubeconfig)} (merges : Merges before acc) :
    ∃ k, paths.foldlM (readNext t) acc = .ok k ∧ Merges (before ++ docs) k := by
  induction documents generalizing before acc with
  | nil => exact ⟨acc, rfl, (List.append_nil before).symm ▸ merges⟩
  | missing missing _ ih =>
    rw [List.foldlM_cons, readNext_of_missing missing]
    exact ih merges
  | @present path text dir k paths docs reads parses parent _ ih =>
    rw [List.foldlM_cons, readNext_of_parse reads parses parent, List.append_cons]
    exact ih (merges.merge dir k)

/-- Where all files that are there can be used, they are merged. -/
lemma Documents.readAll (documents : Documents t paths docs) :
    ∃ k, readAll t paths = .ok k ∧ Merges docs k :=
  documents.foldlM_readNext merges_nil

/-- A file that can be used is read. -/
lemma Documents.readNext (documents : Documents t [path] docs) (acc : Kubeconfig) :
    ∃ k, readNext t acc path = .ok k := by
  cases documents with
  | missing missing _ => exact ⟨_, readNext_of_missing missing acc⟩
  | present reads parses parent _ => exact ⟨_, readNext_of_parse reads parses parent acc⟩

/-- The first file that cannot be used ends it, whatever was read before. -/
lemma Offends.foldlM_readNext (offends : Offends t paths e) (acc : Kubeconfig) :
    paths.foldlM (readNext t) acc = .error e := by
  induction offends generalizing acc with
  | unreadable fails there =>
    rw [List.foldlM_cons, readNext_of_unreadable fails there]
    rfl
  | malformed reads fails =>
    rw [List.foldlM_cons, readNext_of_malformed reads fails]
    rfl
  | later documents _ ih =>
    obtain ⟨k, next⟩ := documents.readNext acc
    rw [List.foldlM_cons, next]
    exact ih k

/-- The first file that cannot be used decides. -/
lemma Offends.readAll (offends : Offends t paths e) : readAll t paths = .error e :=
  offends.foldlM_readNext empty

/-- Usable files one after another hold the documents of both groups. -/
lemma Documents.append {docs' : List (String × Kubeconfig)} {paths' : List String}
    (documents : Documents t paths docs) (more : Documents t paths' docs') :
    Documents t (paths ++ paths') (docs ++ docs') := by
  induction documents with
  | nil => exact more
  | missing missing _ ih => exact .missing missing ih
  | present reads parses parent _ ih => exact .present reads parses parent ih

/-- A file can be used, or it cannot. -/
lemma documents_or_offends_singleton (t : Files.Tree) (path : String) :
    (∃ docs, Documents t [path] docs) ∨ ∀ paths, ∃ e, Offends t (path :: paths) e := by
  cases reads : t.readText path with
  | error e =>
    by_cases missing : e = .missing
    · subst missing
      exact .inl ⟨[], .missing reads .nil⟩
    · exact .inr fun _ => ⟨_, .unreadable reads missing⟩
  | ok text =>
    obtain ⟨k, parses⟩ | fails := parse_cases text
    · obtain ⟨dir, parent⟩ := Files.exists_parent? reads
      exact .inl ⟨_, .present reads parses parent .nil⟩
    · refine .inr fun _ => ⟨_, .malformed reads fun k parses => ?_⟩
      rw [fails] at parses
      cases parses

/-- Files can be used up to the last one or there is a first one that cannot. -/
lemma documents_or_offends (t : Files.Tree) (paths : List String) :
    (∃ docs, Documents t paths docs) ∨ ∃ e, Offends t paths e := by
  induction paths with
  | nil => exact .inl ⟨[], .nil⟩
  | cons path paths ih =>
    obtain ⟨docs, first⟩ | offends := documents_or_offends_singleton t path
    · obtain ⟨docs', later⟩ | ⟨e, later⟩ := ih
      · exact .inl ⟨docs ++ docs', first.append later⟩
      · exact .inr ⟨e, .later first later⟩
    · exact .inr (offends paths)

/-- Reading fails for the reason of the first file that cannot be used, and for no other. -/
lemma readAll_eq_error_iff : readAll t paths = .error e ↔ Offends t paths e := by
  refine ⟨fun fails => ?_, fun offends => offends.readAll⟩
  obtain ⟨docs, documents⟩ | ⟨e', offends⟩ := documents_or_offends t paths
  · obtain ⟨k, reads, -⟩ := documents.readAll
    cases reads.symm.trans fails
  · cases offends.readAll.symm.trans fails
    exact offends

/-- Either all files that are there can be used, and what is read is the first entry of each name,
in the order in which the names appear, with every relative reference taken once from the directory
of the file that makes it and the first current context that is not empty; or there is a first file
that cannot be used, and reading fails for its reason. -/
theorem readAll_settled (t : Files.Tree) (paths : List String) :
    (∀ docs, Documents t paths docs → ∃ k, readAll t paths = .ok k ∧ Merges docs k) ∧
    (∀ e, Offends t paths e → readAll t paths = .error e) ∧
    ((∃ docs, Documents t paths docs) ∨ ∃ e, Offends t paths e) :=
  ⟨fun _ documents => documents.readAll, fun _ offends => offends.readAll,
    documents_or_offends t paths⟩

/-- A document with a relative reference. -/
def inland : String := "clusters: [{name: m, cluster: {server: s, certificate-authority: ca}}]"

/-- A document with the same name for something else. -/
def overseas : String :=
  "current-context: us\nclusters: [{name: n, cluster: {server: z}},{name: m, cluster: {server: z}}]"

/-- Both documents in directories of their own, and two files that are no documents. -/
def shelf : Files.Tree where
  base := ["work"]
  entries := [(["work", "kube"], .dir), (["work", "kube", "inland"], .file inland.toUTF8 false),
    (["etc"], .dir), (["etc", "overseas"], .file overseas.toUTF8 false),
    (["work", "broken"], .file "]".toUTF8 false), (["work", "torn"], .file "[".toUTF8 false)]

/-- Files that can be used, with a missing one and a repeated one among them; and files of which two
are no documents, the first of them being the reason. -/
theorem readAll_settled_shelf :
    let paths := ["kube/inland", "kube/none", "/etc/overseas", "kube/inland"]
    (∃ docs k, Documents shelf paths docs ∧ readAll shelf paths = .ok k ∧
      k.clusters.map (·.name) = ["m", "n"] ∧ k.current = some "us" ∧
      ∀ e ∈ k.clusters, e.name = "m" → ∃ file, e.entry.authority = some file ∧
        Files.steps file = ["kube", "ca"]) ∧
    readAll shelf ("kube/inland" :: "broken" :: "torn" :: paths) = .error (.yaml "]") := by
  intro paths
  have inlandRead : shelf.readText "kube/inland" = .ok inland := Files.Tree.readText_of_read rfl
  have overseasRead : shelf.readText "/etc/overseas" = .ok overseas :=
    Files.Tree.readText_of_read rfl
  have brokenRead : shelf.readText "broken" = .ok "]" := Files.Tree.readText_of_read rfl
  have noneRead : shelf.readText "kube/none" = .error .missing := rfl
  let bare (server : String) : Cluster.Entry := ⟨server, none, none, false⟩
  have inlandParsed :
      parse inland = .ok ⟨[⟨"m", { bare "s" with authority := some "ca" }⟩], [], [], none⟩ :=
    eq_ok_of_toOption (by decide +kernel)
  have overseasParsed :
      parse overseas = .ok ⟨[⟨"n", bare "z"⟩, ⟨"m", bare "z"⟩], [], [], some "us"⟩ :=
    eq_ok_of_toOption (by decide +kernel)
  obtain ⟨e, brokenParsed⟩ : ∃ e, parse "]" = .error e :=
    exists_error_of_toOption (by decide +kernel)
  have documents := Documents.present inlandRead inlandParsed rfl <| .missing noneRead <|
    .present overseasRead overseasParsed rfl <| .present inlandRead inlandParsed rfl .nil
  have offends : Offends shelf ("kube/inland" :: "broken" :: "torn" :: paths) (.yaml "]") := by
    refine .later (.present inlandRead inlandParsed rfl .nil)
      (.malformed brokenRead fun k parses => ?_)
    rw [brokenParsed] at parses
    cases parses
  obtain ⟨k, read, merges⟩ := (readAll_settled shelf paths).1 _ documents
  refine ⟨⟨_, k, documents, read, ?_, ?_, ?_⟩, (readAll_settled shelf _).2.1 _ offends⟩
  · exact merges.clusters.order.trans (by decide)
  · exact merges.current.trans (by decide)
  · rintro ⟨_, e⟩ mem rfl
    obtain ⟨dir, c, first, keeps⟩ := merges.clusters.first _ mem
    cases Option.some.inj first
    have kept : Rebased "kube" (some "ca") e.authority := keeps.authority
    generalize e.authority = authority at kept
    cases kept with
    | absolute root => exact absurd root (by decide)
    | relative _ joined => exact ⟨_, rfl, joined.steps⟩

end Fleet.Kubeconfig
