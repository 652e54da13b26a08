import Fleet.Cluster.Api
import Fleet.Cluster.Batch
import Fleet.Proofs.Url.Path

/-!
# What a request names

The segments of a request tell resource, namespace and object (`segments_injective`), and so does
its URL if all of them are added as they stand. Every other request shares its URL with one more
(`urls_distinct`).

The first half is a reading function (`ofSegments?`) and its law (`ofSegments?_segments`): the place
of a namespace is marked by a segment of its own, so nothing has to be assumed of the texts. On the
way to the text of a URL three things can lose a difference: a segment that means a directory,
characters that are dropped, and the path of the server itself. Literal targets have segments that
none of these touches (`Literal.added_eq`), and their segments are read off the text of the URL
(`added_eq_of_text_eq`).

The second half is a construction: `twinned` replaces every text that is not added as it stands by
another one that makes the same segment, so the request is another one with the same URL
(`url_twinned`).
-/

namespace Fleet.Cluster.Api

/-- What a request names: all objects of a resource, those of one namespace, or one object. -/
structure Target where
  resource : Resource
  scope : Option String
  object : Option String
  deriving DecidableEq

namespace Target

variable {t t' : Target} {c : Connection} {there : List String}

/-- URL of the request for a target. -/
def url (t : Target) (c : Connection) : Except Failure Url :=
  resourceUrl c t.resource t.scope t.object

/-- Texts that make up a target. -/
def texts (t : Target) : List String :=
  [t.resource.group, t.resource.version, t.resource.name] ++ t.scope.toList ++ t.object.toList

/-- Segments of a target. -/
def segments (t : Target) : List String := Api.segments t.resource t.scope t.object

/-- The resource has a version and a name, and no part of it holds a slash. -/
structure Sound (t : Target) : Prop where
  version : t.resource.version ≠ ""
  name : t.resource.name ≠ ""
  free : ∀ part ∈ [t.resource.group, t.resource.version, t.resource.name], '/' ∉ part.toList

/-- Every text of the target is added to a path as it stands. -/
def Literal (t : Target) : Prop := ∀ s ∈ t.texts, Url.Literal s

/-- Whether a target is literal is decided by its texts. -/
instance (t : Target) : Decidable t.Literal :=
  inferInstanceAs (Decidable (∀ s ∈ t.texts, Url.Literal s))

/-! ### Segments -/

/-- What segments after group and version name. -/
def ofRest? (group version : String) : List String → Option Target
  | [name] => some ⟨⟨group, version, name⟩, none, none⟩
  | [name, object] => some ⟨⟨group, version, name⟩, none, some object⟩
  | [_, scope, name] => some ⟨⟨group, version, name⟩, some scope, none⟩
  | [_, scope, name, object] => some ⟨⟨group, version, name⟩, some scope, some object⟩
  | _ => none

/-- What segments name. -/
def ofSegments? : List String → Option Target
  | "api" :: version :: rest => ofRest? "" version rest
  | "apis" :: group :: version :: rest => ofRest? group version rest
  | _ => none

/-- Segments of a namespace. -/
def place : Option String → List String
  | some n => ["namespaces", n]
  | none => []

/-- Segments of a target in the core group begin with `api`. -/
lemma segments_core (version name : String) (scope object : Option String) :
    segments ⟨⟨"", version, name⟩, scope, object⟩ =
      "api" :: version :: (place scope ++ name :: object.toList) := by
  cases scope <;> rfl

/-- Segments of a target in a named group begin with `apis` and the group. -/
lemma segments_group {group : String} (named : group ≠ "") (version name : String)
    (scope object : Option String) :
    segments ⟨⟨group, version, name⟩, scope, object⟩ =
      "apis" :: group :: version :: (place scope ++ name :: object.toList) := by
  have other : Resource.isCore ⟨group, version, name⟩ = false := beq_eq_false_iff_ne.2 named
  unfold segments Api.segments
  rw [other]
  cases scope <;> rfl

/-- What follows group and version tells name, scope and object. -/
lemma ofRest?_eq (group version name : String) (scope object : Option String) :
    ofRest? group version (place scope ++ name :: object.toList) =
      some ⟨⟨group, version, name⟩, scope, object⟩ := by
  cases scope <;> cases object <;> rfl

/-- A target is read back from its segments. -/
lemma ofSegments?_segments (t : Target) : ofSegments? t.segments = some t := by
  obtain ⟨⟨group, version, name⟩, scope, object⟩ := t
  by_cases core : group = ""
  · subst core
    rw [segments_core]
    exact ofRest?_eq ..
  · rw [segments_group core]
    exact ofRest?_eq ..

/-- The segments tell what is named. -/
lemma segments_injective : Function.Injective segments := by
  intro t t' same
  have names := congrArg ofSegments? same
  rw [ofSegments?_segments, ofSegments?_segments] at names
  exact Option.some.inj names

/-- A target is literal exactly if its resource, its scope and its object are. -/
lemma literal_iff : t.Literal ↔ (Url.Literal t.resource.group ∧ Url.Literal t.resource.version ∧
    Url.Literal t.resource.name) ∧ (∀ s ∈ t.scope, Url.Literal s) ∧
      ∀ s ∈ t.object, Url.Literal s := by
  unfold Literal texts
  rw [List.forall_mem_append, List.forall_mem_append, and_assoc]
  simp

/-- Segments of a literal target are literal. -/
lemma Literal.segments (literal : t.Literal) : ∀ s ∈ t.segments, Url.Literal s := by
  obtain ⟨⟨group, version, name⟩, scope, object⟩ := t
  obtain ⟨⟨group_lit, version_lit, name_lit⟩, scope_lit, object_lit⟩ := literal_iff.1 literal
  have placed : ∀ s ∈ place scope, Url.Literal s := by
    cases scope with
    | none => exact nofun
    | some n =>
      exact List.forall_mem_cons.2 ⟨by decide, List.forall_mem_singleton.2 (scope_lit n rfl)⟩
  have named : ∀ s ∈ object.toList, Url.Literal s :=
    fun s mem => object_lit s (Option.mem_toList.1 mem)
  have rest : ∀ s ∈ place scope ++ name :: object.toList, Url.Literal s :=
    List.forall_mem_append.2 ⟨placed, List.forall_mem_cons.2 ⟨name_lit, named⟩⟩
  by_cases core : group = ""
  · subst core
    rw [segments_core]
    exact List.forall_mem_cons.2 ⟨by decide, List.forall_mem_cons.2 ⟨version_lit, rest⟩⟩
  · rw [segments_group core]
    exact List.forall_mem_cons.2 ⟨by decide, List.forall_mem_cons.2 ⟨group_lit,
      List.forall_mem_cons.2 ⟨version_lit, rest⟩⟩⟩

/-- The first segment says whether the target is in the core group. -/
lemma exists_segments (t : Target) :
    ∃ first rest, t.segments = first :: rest ∧ (first = "api" ∨ first = "apis") := by
  obtain ⟨⟨group, version, name⟩, scope, object⟩ := t
  by_cases core : group = ""
  · subst core
    exact ⟨_, _, segments_core .., .inl rfl⟩
  · exact ⟨_, _, segments_group core .., .inr rfl⟩

/-! ### Paths -/

/-- Segments of the path of a target's URL on a server. -/
def path (special : Bool) (there : List String) (t : Target) : List String :=
  (t.segments.filterMap (Url.segment? special)).foldl Url.push (Url.opened there)

/-- The URL of a target is that of the server with the path of the target. -/
lemma url_eq (takes : c.server.path = .segments there) (t : Target) :
    t.url c =
      .ok { c.server with path := .segments (t.path (Url.isSpecial c.server.scheme) there) } := by
  unfold url resourceUrl endpoint Url.append?
  rw [takes]
  rfl

/-- The first segment is added as it stands. -/
lemma exists_added (special : Bool) (t : Target) : ∃ first rest,
    t.segments.filterMap (Url.segment? special) = first :: rest ∧ first ≠ "" ∧ first ≠ "." ∧
      first ≠ ".." := by
  obtain ⟨first, rest, eq, api | apis⟩ := t.exists_segments
  · subst api
    have added : Url.segment? special "api" = some "api" := by cases special <;> decide
    rw [eq, List.filterMap_cons_some added]
    exact ⟨_, _, rfl, by decide⟩
  · subst apis
    have added : Url.segment? special "apis" = some "apis" := by cases special <;> decide
    rw [eq, List.filterMap_cons_some added]
    exact ⟨_, _, rfl, by decide⟩

/-- The path of a target grows out of that of the server. -/
lemma grown_path (special : Bool) (there : List String) (t : Target) :
    Url.Grown (Url.root (Url.opened there)) (t.path special there) := by
  obtain ⟨first, rest, added, -, here, upper⟩ := t.exists_added special
  unfold path
  rw [added, List.foldl_cons, Url.push_of_plain here upper]
  exact Url.Grown.foldl_push ⟨[first], List.cons_ne_nil _ _, rfl⟩ rest

/-- All segments of a literal target are added, each as it is written. -/
lemma Literal.added_eq (literal : t.Literal) (special : Bool) :
    t.segments.filterMap (Url.segment? special) = t.segments.map (Url.written special) := by
  rw [← List.filterMap_eq_map]
  exact List.filterMap_congr fun s mem => (literal.segments s mem).segment?_eq

/-- Texts that are added as they stand end the path. -/
lemma Literal.path_eq (literal : t.Literal) (special : Bool) (there : List String) :
    t.path special there = Url.root (Url.opened there) ++
      t.segments.filterMap (Url.segment? special) := by
  have plain : ∀ s ∈ t.segments.filterMap (Url.segment? special), s ≠ "." ∧ s ≠ ".." := by
    intro s mem
    rw [literal.added_eq] at mem
    obtain ⟨s, inside, rfl⟩ := List.mem_map.1 mem
    exact (literal.segments s inside).written_ne
  obtain ⟨first, rest, added, some, here, upper⟩ := t.exists_added special
  have more : Url.root (Url.opened there) ++ [first] ≠ [""] := Url.append_ne_empty (.inr some)
  unfold path
  rw [added, List.forall_mem_cons] at plain
  rw [added, List.foldl_cons, Url.push_of_plain here upper,
    Url.foldl_push_eq (List.append_ne_nil_of_right_ne_nil _ (List.cons_ne_nil _ _)) more plain.2,
    List.append_assoc]
  rfl

/-! ### Texts of URLs -/

/-- Nothing stands before a path without a host that begins with a segment. -/
lemma authority_eq_empty {u : Url} (bare : u.host = none) {first : String} (some : first ≠ "")
    (rest : List String) : Url.authority { u with path := .segments (first :: rest) } = "" := by
  unfold Url.authority
  rw [bare]
  dsimp only
  split
  · rename_i same
    cases same
    exact absurd rfl some
  · rfl

/-- What stands before a path does not depend on what was added, as long as the first segment that
was is not empty. -/
lemma authority_eq (u : Url) (base : List String) {first first' : String} (some : first ≠ "")
    (some' : first' ≠ "") (rest rest' : List String) :
    Url.authority { u with path := .segments (base ++ first :: rest) } =
      Url.authority { u with path := .segments (base ++ first' :: rest') } := by
  obtain hosted | ⟨h, hosted⟩ := u.host.eq_none_or_eq_some
  · cases base with
    | nil =>
      exact (authority_eq_empty hosted some rest).trans
        (authority_eq_empty hosted some' rest').symm
    | cons b base =>
      by_cases root : b = ""
      · subst root
        unfold Url.authority
        simp only [hosted]
        cases base <;> rfl
      · exact (authority_eq_empty hosted root _).trans (authority_eq_empty hosted root _).symm
  · unfold Url.authority
    simp only [hosted]
    rfl

/-- The text of a URL tells the segments that were added. -/
lemma added_eq_of_text_eq {u : Url} {base ps qs : List String} {first first' : String}
    (some : first ≠ "") (some' : first' ≠ "") (free : ∀ p ∈ first :: ps, '/' ∉ p.toList)
    (free' : ∀ q ∈ first' :: qs, '/' ∉ q.toList)
    (same : Url.text { u with path := .segments (base ++ first :: ps) } =
      Url.text { u with path := .segments (base ++ first' :: qs) }) : first :: ps =
        first' :: qs := by
  unfold Url.text at same
  rw [authority_eq u base some some' ps qs, String.append_left_inj, String.append_left_inj,
    String.append_right_inj, Url.text_append, Url.text_append, String.append_right_inj] at same
  exact Url.segments_eq_of_text_eq free free' same

/-- Targets whose texts are added as they stand can be told apart by their URLs. -/
lemma Literal.eq_of_text_eq (literal : t.Literal) (literal' : t'.Literal)
    (takes : c.server.path = .segments there) {u u' : Url} (url : t.url c = .ok u)
    (url' : t'.url c = .ok u') (same : u.text = u'.text) : t = t' := by
  rw [url_eq takes] at url url'
  cases url
  cases url'
  rw [literal.path_eq, literal'.path_eq] at same
  have free {t : Target} (literal : t.Literal) :
      ∀ s ∈ t.segments.filterMap (Url.segment? (Url.isSpecial c.server.scheme)),
        '/' ∉ s.toList := by
    intro s mem
    rw [literal.added_eq] at mem
    obtain ⟨s, -, rfl⟩ := List.mem_map.1 mem
    exact Url.slash_not_mem_written _ s
  obtain ⟨first, rest, added, some, -⟩ := t.exists_added (Url.isSpecial c.server.scheme)
  obtain ⟨first', rest', added', some', -⟩ := t'.exists_added (Url.isSpecial c.server.scheme)
  have segments : t.segments.filterMap (Url.segment? (Url.isSpecial c.server.scheme)) =
      t'.segments.filterMap (Url.segment? (Url.isSpecial c.server.scheme)) := by
    have apart := free literal
    have apart' := free literal'
    rw [added] at apart same ⊢
    rw [added'] at apart' same ⊢
    exact added_eq_of_text_eq some some' apart apart' same
  rw [literal.added_eq, literal'.added_eq] at segments
  exact segments_injective (List.map_injective_iff.2 (Url.written_injective _) segments)

/-! ### One object and all of them -/

/-- The object is the last segment. -/
lemma segments_object (r : Resource) (scope : Option String) (n : String) :
    segments ⟨r, scope, some n⟩ = segments ⟨r, scope, none⟩ ++ [n] := by
  unfold segments Api.segments
  rw [List.append_assoc _ (r.name :: _) [n]]
  rfl

/-- The name of the resource ends the segments where no object is named. -/
lemma exists_segments_concat (r : Resource) (scope : Option String) :
    ∃ front, segments ⟨r, scope, none⟩ = front ++ [r.name] := ⟨_, rfl⟩

/-- The request for an object is the one for all objects exactly if its name leads nowhere else. -/
lemma Literal.url_object_eq_iff {r : Resource} {scope : Option String}
    (literal : Literal ⟨r, scope, none⟩) (named : r.name ≠ "")
    (takes : c.server.path = .segments there) (n : String) :
    url ⟨r, scope, some n⟩ c = url ⟨r, scope, none⟩ c ↔ n = "." ∨ n = ".." := by
  have urls : url ⟨r, scope, some n⟩ c = url ⟨r, scope, none⟩ c ↔
      path (Url.isSpecial c.server.scheme) there ⟨r, scope, some n⟩ =
        path (Url.isSpecial c.server.scheme) there ⟨r, scope, none⟩ := by
    rw [url_eq takes, url_eq takes]
    simp
  rw [urls]
  generalize Url.isSpecial c.server.scheme = special
  by_cases dots : n = "." ∨ n = ".."
  · have gone : Url.segment? special n = none := if_pos dots
    refine ⟨fun _ => dots, fun _ => ?_⟩
    unfold path
    rw [segments_object, List.filterMap_append, List.filterMap_cons_none gone, List.filterMap_nil,
      List.append_nil]
  · refine ⟨fun same => absurd same ?_, fun both => absurd both dots⟩
    have added : Url.segment? special n = some (Url.segmentText special n) := if_neg dots
    have longer : path special there ⟨r, scope, some n⟩ =
        Url.push (path special there ⟨r, scope, none⟩) (Url.segmentText special n) := by
      unfold path
      rw [segments_object, List.filterMap_append, List.filterMap_cons_some added,
        List.filterMap_nil, List.foldl_concat]
    obtain ⟨front, segments⟩ := exists_segments_concat r scope
    have some : Url.written special r.name ≠ "" :=
      fun none => named (Url.written_eq_empty_iff.1 none)
    rw [longer, literal.path_eq, literal.added_eq, segments, List.map_append, ← List.append_assoc]
    exact Url.push_ne some _

/-! ### Twins -/

/-- The target with a twin in the place of every text. -/
def twinned (t : Target) : Target :=
  ⟨⟨Url.twin t.resource.group, Url.twin t.resource.version, Url.twin t.resource.name⟩,
    t.scope.map Url.twin, t.object.map Url.twin⟩

/-- Exactly the literal targets have no twin but themselves. -/
lemma twinned_eq_self_iff : t.twinned = t ↔ t.Literal := by
  obtain ⟨⟨group, version, name⟩, scope, object⟩ := t
  have optional (part : Option String) : part.map Url.twin = part ↔ ∀ s ∈ part, Url.Literal s := by
    cases part with
    | none => exact ⟨fun _ => nofun, fun _ => rfl⟩
    | some s => simp [Url.twin_eq_self_iff]
  rw [literal_iff]
  simp [twinned, Url.twin_eq_self_iff, optional, and_assoc]

/-- Segments of the twin are the twins of the segments. -/
lemma segments_twinned (t : Target) : t.twinned.segments = t.segments.map Url.twin := by
  obtain ⟨⟨group, version, name⟩, scope, object⟩ := t
  have rest : place (scope.map Url.twin) ++ Url.twin name :: (object.map Url.twin).toList =
      (place scope ++ name :: object.toList).map Url.twin := by
    cases scope <;> cases object <;> rfl
  by_cases core : group = ""
  · subst core
    have twins : twinned ⟨⟨"", version, name⟩, scope, object⟩ =
        ⟨⟨"", Url.twin version, Url.twin name⟩, scope.map Url.twin, object.map Url.twin⟩ := rfl
    rw [twins, segments_core, segments_core, rest]
    rfl
  · have named : Url.twin group ≠ "" := fun none => core (Url.twin_eq_empty_iff.1 none)
    unfold twinned
    rw [segments_group named, segments_group core, rest]
    rfl

/-- Twins have one URL. -/
lemma url_twinned (t : Target) (c : Connection) : t.twinned.url c = t.url c := by
  have added (special : Bool) :
      t.twinned.segments.filterMap (Url.segment? special) =
        t.segments.filterMap (Url.segment? special) := by
    rw [segments_twinned, List.filterMap_map]
    exact List.filterMap_congr fun s _ => Url.segment?_twin special s
  have appended (u : Url) : u.append? t.twinned.segments = u.append? t.segments := by
    unfold Url.append?
    rw [added]
  have ends : endpoint c t.twinned.segments = endpoint c t.segments := by
    unfold endpoint
    rw [appended]
  exact ends

/-- The twin of a sound target is sound. -/
lemma Sound.twinned (sound : t.Sound) : t.twinned.Sound where
  version none := sound.version (Url.twin_eq_empty_iff.1 none)
  name none := sound.name (Url.twin_eq_empty_iff.1 none)
  free part mem := by
    obtain ⟨s, inside, rfl⟩ : ∃ s ∈ [t.resource.group, t.resource.version, t.resource.name],
        Url.twin s = part :=
      List.mem_map.1 mem
    exact Url.slash_not_mem_twin (sound.free s inside)

/-- On a server whose URL takes segments, every target has a URL, and the path of the server stays
in front of its path unless it has nothing but two empty segments. Targets whose texts are added as
they stand can be told apart by the texts of their URLs. The request for an object is the one for
all of them exactly if the object is called `.` or `..`, and every target with a text that is not
added as it stands shares its URL with another one. -/
theorem urls_distinct (takes : c.server.path = .segments there) :
    (∀ t : Target, ∃ path, t.url c = .ok { c.server with path := .segments path } ∧
      (there ≠ ["", ""] →
        (Url.Path.segments there).text.toList <+: (Url.Path.segments path).text.toList)) ∧
    (∀ (t t' : Target) (u u' : Url), t.Literal → t'.Literal → t.url c = .ok u → t'.url c = .ok u' →
      u.text = u'.text → t = t') ∧
    (∀ (r : Resource) (scope : Option String) (n : String), Literal ⟨r, scope, none⟩ → r.name ≠ "" →
      (url ⟨r, scope, some n⟩ c = url ⟨r, scope, none⟩ c ↔ n = "." ∨ n = "..")) ∧
    ∀ t : Target, t.Sound → ¬ t.Literal → ∃ t' : Target, t'.Sound ∧ t' ≠ t ∧
      t'.url c = t.url c := by
  refine ⟨fun t => ⟨_, url_eq takes t, (t.grown_path _ there).prefix_text⟩, ?_, ?_, ?_⟩
  · intro t t' u u' literal literal' url url' same
    exact literal.eq_of_text_eq literal' takes url url' same
  · intro r scope n literal named
    exact literal.url_object_eq_iff named takes n
  · intro t sound other
    exact ⟨t.twinned, sound.twinned, fun same => other (twinned_eq_self_iff.1 same),
      t.url_twinned c⟩

/-- A connection to a server behind a path. -/
def proxied : Connection where
  context := "prod"
  server :=
    ⟨"https", "", "", some "rancher.example.com", none, .segments ["k8s", "clusters", ""], none,
    none⟩
  authority := none
  insecure := false
  auth := .none
  identity := none
  ns := none

/-- One pod. -/
def pod (scope : Option String) (name : String) : Target := ⟨.core "pods", scope, some name⟩

/-- All pods. -/
def pods (scope : Option String) : Target := ⟨.core "pods", scope, none⟩

/-- Behind a proxy with a path, slashes and an empty name make URLs of their own; an object called
`..` has the URL of the collection, and one with a tab in its name shares its URL with another
target. -/
theorem urls_distinct_proxied :
    (pod (some "a/b") "é").url proxied ≠ (pod (some "a") "b/é").url proxied ∧
    (pod (some "x") "").url proxied ≠ (pods (some "x")).url proxied ∧
    (pod none "..").url proxied = (pods none).url proxied ∧
    ∃ t, t.Sound ∧ t ≠ pod (some "default") "web\t" ∧
      t.url proxied = (pod (some "default") "web\t").url proxied := by
  have takes : proxied.server.path = .segments ["k8s", "clusters", ""] := rfl
  obtain ⟨paths, apart, objects, shared⟩ := urls_distinct takes
  have distinct {t t' : Target} (literal : t.Literal) (literal' : t'.Literal) (other : t ≠ t') :
      t.url proxied ≠ t'.url proxied := by
    intro same
    obtain ⟨path, url, -⟩ := paths t
    exact other (apart t t' _ _ literal literal' url (same.symm.trans url) rfl)
  refine ⟨distinct (by decide) (by decide) (by decide),
    distinct (by decide) (by decide) (by decide), ?_, ?_⟩
  · exact (objects (.core "pods") none ".." (by decide) (by decide)).2 (.inr rfl)
  · exact shared (pod (some "default") "web\t") ⟨by decide, by decide, by decide⟩ (by decide)

/-- The URL of the pod that a row calls `.` is that of all pods. -/
theorem not_urls_distinct_dot :
    Cluster.pathParts "default/." = (some "default", ".") ∧
    (pod (some "default") ".").Sound ∧ (pods (some "default")).Sound ∧
    pod (some "default") "." ≠ pods (some "default") ∧
    (pod (some "default") ".").url proxied = (pods (some "default")).url proxied := by
  exact ⟨by decide, ⟨by decide, by decide, by decide⟩, ⟨by decide, by decide, by decide⟩, by decide,
    by decide⟩

end Target

end Fleet.Cluster.Api
