import Fleet.Proofs.Cli.Answer
import Fleet.Proofs.Cluster.Registry
import Fleet.Proofs.Kubeconfig.Source

/-!
# Sessions read again

Reading the configuration of a session again takes several steps: one file is read after another,
then what they hold takes the place of what they held before, and last all clients are dropped
(`Cli.Answer.reload`). Nothing is changed before all files are read, and nothing fails from then on
(`Cli.Answer.outcome_reload`), so a session is renewed as a whole or stays as it was
(`Session.reload_allOrNothing`).

The steps are spelled out as an answer of their own, so that a failure between any two of them is
among the cases, and shown to come to what the session computes at once.

Two notions relate sessions:
* `Later s s'`: look-ups of clients and changes of files lead from the one to the other. Neither
  touches where contexts come from, so a session that was built on files stays backed by them
  (`FileBacked.later`);
* `Renewed s fresh`: the session has the contexts of a session built afresh and keeps no client, so
  each one that it yields from then on, after whatever look-ups, is made from the fresh
  configuration.
-/

namespace Fleet

namespace Cli.Answer

/-- One more file read, as it is now, and merged into what the files before came to. -/
def readNext (acc : Kubeconfig) (path : String) : Answer Kubeconfig := do
  ofExcept (Kubeconfig.readNext (← session).files acc path)

/-- All files of a source read, and then what they hold in the place of what they held before;
without files nothing is done. -/
def reread (source : Kubeconfig.Source) (transport : Cluster.Api.Transport) : Answer Unit :=
  if source.paths = [] then pure () else do
    let config ← source.paths.foldlM readNext .empty
    setSession { ← session with origin := .files ⟨source.paths, config⟩ transport }

/-- Contexts read again where they come from. -/
def rereadOrigin : Session.Origin → Answer Unit
  | .files source transport => reread source transport
  | .scripted _ => pure ()

/-- All clients dropped. -/
def dropClients : Answer Unit := do
  setRegistry (← session).registry.reset

/-- Configuration read again, and then all clients dropped. -/
def reload : Answer Unit := do
  rereadOrigin (← session).origin
  dropClients

variable {p : Progress}

/-- A result with which a command goes on, or stops. -/
def halted {α : Type} (r : Except Failure α) : Except Halt α := r.mapError .failed

/-- A result that is handed on leaves the progress as it is. -/
lemma outcome_ofExcept {α : Type} (r : Except Failure α) (p : Progress) :
    (ofExcept r).outcome p = (halted r, p) := by
  cases r with
  | ok => rfl
  | error => rfl

/-- Reading files changes nothing. -/
lemma outcome_foldlM_readNext (paths : List String) (acc : Kubeconfig) (p : Progress) :
    (paths.foldlM readNext acc).outcome p =
      (halted (paths.foldlM (Kubeconfig.readNext p.session.files) acc), p) := by
  induction paths generalizing acc with
  | nil => rfl
  | cons path paths ih =>
    have next : (readNext acc path).outcome p =
        (halted (Kubeconfig.readNext p.session.files acc path), p) :=
      (outcome_bind_ok (outcome_session p)).trans (outcome_ofExcept _ p)
    rw [List.foldlM_cons, List.foldlM_cons]
    cases reads : Kubeconfig.readNext p.session.files acc path with
    | error e =>
      rw [reads] at next
      exact outcome_bind_error next
    | ok k =>
      rw [reads] at next
      exact (outcome_bind_ok next).trans (ih k)

/-- What reading a source again comes to, and where it leaves the session. -/
lemma outcome_reread (source : Kubeconfig.Source) (transport : Cluster.Api.Transport)
    (origin : p.session.origin = .files source transport) :
    (∃ source', source.reload p.session.files = .ok source' ∧ (reread source transport).outcome p =
      (.ok (), { p with session := { p.session with origin := .files source' transport } })) ∨
    ∃ e, source.reload p.session.files = .error e ∧
      (reread source transport).outcome p = (.error (.failed e), p) := by
  unfold Kubeconfig.Source.reload reread
  split_ifs with unbacked
  · exact .inl ⟨source, rfl, by rw [← origin]; rfl⟩
  · have all := outcome_foldlM_readNext source.paths .empty p
    rw [← Kubeconfig.readAll_eq] at all
    unfold Kubeconfig.Source.load
    cases reads : Kubeconfig.readAll p.session.files source.paths with
    | ok k =>
      rw [reads] at all
      exact .inl ⟨_, rfl, outcome_bind_ok all⟩
    | error e =>
      rw [reads] at all
      exact .inr ⟨e, rfl, outcome_bind_error all⟩

/-- What reading contexts again comes to, and where it leaves the session. -/
lemma outcome_rereadOrigin (p : Progress) :
    (∃ origin, p.session.origin.reload p.session.files = .ok origin ∧
      (rereadOrigin p.session.origin).outcome p =
      (.ok (), { p with session := { p.session with origin } })) ∨
    ∃ e, p.session.origin.reload p.session.files = .error e ∧
      (rereadOrigin p.session.origin).outcome p = (.error (.failed e), p) := by
  cases origin : p.session.origin with
  | scripted roster =>
    have same : { p with session := { p.session with origin := .scripted roster } } = p := by
      rw [← origin]
    exact .inl ⟨_, rfl, by rw [same]; rfl⟩
  | files source transport =>
    unfold Session.Origin.reload rereadOrigin
    dsimp only
    obtain ⟨source', again, outcome⟩ | ⟨e, fails, outcome⟩ := outcome_reread source transport origin
    · exact .inl ⟨.files source' transport, by rw [again]; rfl, outcome⟩
    · exact .inr ⟨e, by rw [fails]; rfl, outcome⟩

/-- Where reading again succeeds, the session is the one that it leads to, and where it fails, the
session is as it was. -/
lemma outcome_reload (p : Progress) :
    (∃ s, p.session.reload = .ok s ∧ reload.outcome p = (.ok (), { p with session := s })) ∨
    ∃ e, p.session.reload = .error e ∧ reload.outcome p = (.error (.failed e), p) := by
  unfold Session.reload reload
  rw [outcome_bind_ok (outcome_session p)]
  obtain ⟨origin, again, outcome⟩ | ⟨e, fails, outcome⟩ := outcome_rereadOrigin p
  · exact .inl ⟨{ p.session with origin, registry := p.session.registry.reset }, by rw [again]; rfl,
      (outcome_bind_ok outcome).trans rfl⟩
  · exact .inr ⟨e, by rw [fails]; rfl, outcome_bind_error outcome⟩

end Cli.Answer

namespace Session

variable {env : Environment} {transport : Cluster.Api.Transport} {s s' fresh : Session}

/-- Parameters of a context by the configuration files of a session. -/
def resolve? (s : Session) (context : String) : Option (Except Failure Connection) :=
  match s.origin with
  | .files source _ => some (source.config.resolve s.files context)
  | .scripted _ => none

/-- A session whose contexts come from the files that its settings name. -/
def FileBacked (env : Environment) (transport : Cluster.Api.Transport) (s : Session) : Prop :=
  ∃ config, s.origin = .files ⟨s.settings.kubeconfigPaths env, config⟩ transport

/-- Sessions that look-ups of clients and changes of files lead to. -/
inductive Later (s : Session) : Session → Prop where
  | refl : Later s s
  | client {s' : Session} (context : String) : Later s s' → Later s (s'.client context).2
  | files {s' : Session} (files : Files.Tree) : Later s s' → Later s { s' with files }

/-- A session that has the contexts of a fresh one and keeps no client, so that every client it
yields from then on is made from the configuration of the fresh one. -/
structure Renewed (s fresh : Session) : Prop where
  contextNames : s.contextNames = fresh.contextNames
  current : s.origin.current = fresh.origin.current
  resolve : ∀ context, s.resolve? context = fresh.resolve? context
  empty : s.registry.entries = []
  clients : ∀ contexts,
    (s.registry.getAll s.factory contexts).1.map (·.map (·.client)) = contexts.map fresh.factory
  later : ∀ s', Later s s' → ∀ context h, (s'.client context).1 = .ok h →
    ∃ files, fresh.origin.factory fresh.settings.client files context = .ok h.client

/-! ### What stays with look-ups and changes of files -/

/-- What is asked of clients leaves where contexts come from. -/
lemma Later.origin (later : Later s s') : s'.origin = s.origin := by
  induction later with
  | refl => rfl
  | client _ _ ih => exact ih
  | files _ _ ih => exact ih

/-- What is asked of clients leaves the settings. -/
lemma Later.settings (later : Later s s') : s'.settings = s.settings := by
  induction later with
  | refl => rfl
  | client _ _ ih => exact ih
  | files _ _ ih => exact ih

/-- A session stays backed by files while clients are asked and files change. -/
lemma FileBacked.later (backed : s.FileBacked env transport) (later : Later s s') :
    s'.FileBacked env transport := by
  unfold FileBacked
  rw [later.origin, later.settings]
  exact backed

/-- Where no client was kept, all that are kept later are made from the same configuration. -/
lemma Later.made (later : Later s s') (empty : s.registry.entries = []) {context : String}
    {h : Cluster.Handle} (kept : s'.registry.find? context = some h) :
    ∃ files, s.origin.factory s.settings.client files context = .ok h.client := by
  induction later with
  | refl =>
    unfold Cluster.Registry.find? at kept
    rw [empty] at kept
    cases kept
  | @client s' other later ih =>
    obtain before | ⟨rfl, -, made⟩ := Cluster.Registry.find?_of_find?_get kept
    · exact ih before
    · refine ⟨s'.files, ?_⟩
      rw [← later.origin, ← later.settings]
      exact made
  | files _ _ ih => exact ih kept

/-- A session with the origin, settings and files of a fresh one and no client is renewed by it. -/
lemma renewed_of_origin (origin : s.origin = fresh.origin) (settings : s.settings = fresh.settings)
    (files : s.files = fresh.files) (empty : s.registry.entries = []) : s.Renewed fresh := by
  constructor
  case contextNames => exact congrArg Origin.names origin
  case current => rw [origin]
  case resolve =>
    unfold resolve?
    rw [origin, files]
    exact fun _ => rfl
  case empty => exact empty
  case clients =>
    intro contexts
    have same : s.factory = fresh.factory := by
      unfold factory
      rw [origin, settings, files]
    rw [Cluster.Registry.map_client_getAll, same]
    congr 1
    funext context
    rw [Cluster.Registry.clientOf_eq]
    unfold Cluster.Registry.find?
    rw [empty]
    rfl
  case later =>
    intro s' later context h found
    rw [← origin, ← settings]
    exact (later.client context).made empty (Cluster.Registry.find?_get found)

/-! ### Reading again -/

/-- There is always a file to look for. -/
lemma kubeconfigPaths_ne_nil (settings : Settings) (env : Environment) :
    settings.kubeconfigPaths env ≠ [] := by
  unfold Settings.kubeconfigPaths
  cases settings.kubeconfig with
  | some path => exact List.cons_ne_nil _ _
  | none =>
    unfold Environment.defaultKubeconfigs
    dsimp only
    split_ifs with unlisted
    · exact List.cons_ne_nil _ _
    · exact unlisted

/-- A session built on files holds what the files hold. -/
lemma build_eq (env : Environment) (settings : Settings) (transport : Cluster.Api.Transport)
    (files : Files.Tree) :
    build env settings transport files =
      (Kubeconfig.readAll files (settings.kubeconfigPaths env)).map fun config =>
        { settings, selection := .file (settings.selectionPath env), registry := .empty, files
          origin := .files ⟨settings.kubeconfigPaths env, config⟩ transport
          runner := fun t => Cluster.Executable.runner t settings.kubectl } := by
  unfold build Kubeconfig.Source.load
  cases Kubeconfig.readAll files (settings.kubeconfigPaths env) with
  | error => rfl
  | ok => rfl

/-- All that is so of a session built on files. -/
lemma build_inv {settings : Settings} {files : Files.Tree}
    (builds : build env settings transport files = .ok s) :
    s.FileBacked env transport ∧ s.settings = settings ∧ s.files = files := by
  rw [build_eq] at builds
  cases reads : Kubeconfig.readAll files (settings.kubeconfigPaths env) with
  | error =>
    rw [reads] at builds
    cases builds
  | ok config =>
    rw [reads] at builds
    cases builds
    exact ⟨⟨config, rfl⟩, rfl, rfl⟩

/-- Reading again takes over the contexts of a session built from the files as they are. -/
lemma FileBacked.reload_eq (backed : s.FileBacked env transport) :
    s.reload = (build env s.settings transport s.files).map fun fresh =>
      { s with origin := fresh.origin, registry := s.registry.reset } := by
  obtain ⟨config, origin⟩ := backed
  unfold reload
  rw [origin, build_eq]
  unfold Origin.reload Kubeconfig.Source.reload Kubeconfig.Source.load
  dsimp only
  rw [if_neg (kubeconfigPaths_ne_nil s.settings env)]
  cases Kubeconfig.readAll s.files (s.settings.kubeconfigPaths env) with
  | error => rfl
  | ok => rfl

/-- A session cannot be built exactly if some file cannot be used, and for the reason of the first
such file. -/
lemma build_eq_error_iff {settings : Settings} {files : Files.Tree} {e : Failure} :
    build env settings transport files = .error e ↔
      Kubeconfig.Offends files (settings.kubeconfigPaths env) e := by
  rw [build_eq, ← Kubeconfig.readAll_eq_error_iff]
  cases Kubeconfig.readAll files (settings.kubeconfigPaths env) with
  | error =>
    constructor
    · rintro ⟨⟩
      rfl
    · rintro ⟨⟩
      rfl
  | ok => exact ⟨nofun, nofun⟩

/-- Where a session can be built from the files as they are, reading again takes over its
contexts. -/
lemma FileBacked.outcome_of_build (backed : s.FileBacked env transport)
    (builds : build env s.settings transport s.files = .ok fresh) (said : List Console.Message) :
    s.reload = .ok { s with origin := fresh.origin, registry := s.registry.reset } ∧
      Cli.Answer.reload.outcome ⟨s, said⟩ =
        (.ok (), ⟨{ s with origin := fresh.origin, registry := s.registry.reset }, said⟩) := by
  have reload := backed.reload_eq
  rw [builds] at reload
  obtain ⟨s', again, outcome⟩ | ⟨e, fails, -⟩ := Cli.Answer.outcome_reload ⟨s, said⟩
  · obtain rfl := Except.ok.inj (again.symm.trans reload)
    exact ⟨again, outcome⟩
  · cases fails.symm.trans reload

/-- Where no session can be built from the files as they are, reading again fails for the same
reason and changes nothing. -/
lemma FileBacked.outcome_of_error {e : Failure} (backed : s.FileBacked env transport)
    (fails : build env s.settings transport s.files = .error e) (said : List Console.Message) :
    s.reload = .error e ∧ Cli.Answer.reload.outcome ⟨s, said⟩ =
      (.error (.failed e), ⟨s, said⟩) := by
  have reload := backed.reload_eq
  rw [fails] at reload
  obtain ⟨s', again, -⟩ | ⟨e', failed, outcome⟩ := Cli.Answer.outcome_reload ⟨s, said⟩
  · cases again.symm.trans reload
  · obtain rfl := Except.error.inj (failed.symm.trans reload)
    exact ⟨failed, outcome⟩

/-- Reading the configuration of a session again happens as a whole or not at all. It fails where
some file cannot be used, and then the session is as it was, with all that its configuration says
and all clients it keeps; otherwise the session is renewed, and its configuration can be read again
like before. -/
theorem reload_allOrNothing (backed : s.FileBacked env transport) (said : List Console.Message) :
    (∀ h q, Cli.Answer.reload.outcome ⟨s, said⟩ = (.error h, q) →
      (∃ e, h = .failed e ∧ s.reload = .error e) ∧ q.session = s) ∧
    (∀ q, Cli.Answer.reload.outcome ⟨s, said⟩ = (.ok (), q) →
      s.reload = .ok q.session ∧ q.session.FileBacked env transport ∧
      ∃ fresh, build env s.settings transport s.files = .ok fresh ∧ q.session.Renewed fresh) ∧
    ∀ e, (Cli.Answer.reload.outcome ⟨s, said⟩).1 = .error (.failed e) ↔
      Kubeconfig.Offends s.files (s.settings.kubeconfigPaths env) e := by
  cases builds : build env s.settings transport s.files with
  | ok fresh =>
    obtain ⟨again, outcome⟩ := backed.outcome_of_build builds said
    rw [outcome]
    refine ⟨fun h q same => ?_, fun q same => ?_, fun e => ⟨nofun, fun offends => ?_⟩⟩
    · cases congrArg Prod.fst same
    · obtain rfl := congrArg Prod.snd same
      obtain ⟨⟨config, origin⟩, settings, files⟩ := build_inv builds
      have renewed :
          Renewed { s with origin := fresh.origin, registry := s.registry.reset } fresh :=
        renewed_of_origin rfl settings.symm files.symm rfl
      rw [settings] at origin
      exact ⟨again, ⟨config, origin⟩, fresh, rfl, renewed⟩
    · cases builds.symm.trans (build_eq_error_iff.2 offends)
  | error e =>
    obtain ⟨fails, outcome⟩ := backed.outcome_of_error builds said
    rw [outcome]
    refine ⟨fun h q same => ?_, fun q same => ?_, fun e' => ⟨fun same => ?_, fun offends => ?_⟩⟩
    · obtain rfl := Except.error.inj (congrArg Prod.fst same)
      obtain rfl := congrArg Prod.snd same
      exact ⟨⟨e, rfl, fails⟩, rfl⟩
    · cases congrArg Prod.fst same
    · cases same
      exact build_eq_error_iff.1 builds
    · cases builds.symm.trans (build_eq_error_iff.2 offends)
      rfl

/-- Configuration in two files. -/
def household : Environment := ⟨[("KUBECONFIG", "home:away")], none⟩

/-- Files in the root directory. -/
def drawer (files : List (String × String)) : Files.Tree where
  base := []
  entries := files.map fun f => ([f.1], .file f.2.toUTF8 false)

/-- A document with one context and its cluster. -/
def contextFile (name : String) : String :=
  "contexts:\n- name: " ++ name ++ "\n  context:\n    cluster: c\n" ++
    "clusters:\n- name: c\n  cluster:\n    server: http://s\n"

/-- What such a document holds. -/
def contextConfig (name : String) : Kubeconfig where
  clusters :=
    [⟨"c", { server := "http://s", authorityData := none, authority := none, insecure := false }⟩]
  users := []
  contexts := [⟨name, { cluster := "c", user := "", ns := none }⟩]
  current := none

/-- The first file has changed, and the second one is no document. -/
def torn : Files.Tree := drawer [("home", contextFile "n"), ("away", "]")]

/-- The first file has changed. -/
def mended : Files.Tree := drawer [("home", contextFile "n")]

/-- The first of two files has changed, and a second one has turned up that is malformed: reading
again fails, and nothing of the change is taken over. Without the second file the changed contexts
take the place of the old ones, and no client is kept. -/
theorem reload_allOrNothing_torn :
    ∃ opened s, build household .default Cluster.Api.offline (drawer [("home", contextFile "h")]) =
      .ok opened ∧
      Later opened s ∧ s.contextNames = ["h"] ∧ (s.registry.find? "h").isSome ∧
      (∃ q, Cli.Answer.reload.outcome ⟨{ s with files := torn }, []⟩ =
        (.error (.failed (.yaml "]")), q) ∧
        q.session.contextNames = ["h"] ∧ q.session.registry = s.registry) ∧
      ∃ q, Cli.Answer.reload.outcome ⟨{ s with files := mended }, []⟩ = (.ok (), q) ∧
        q.session.contextNames = ["n"] ∧ q.session.registry.entries = [] := by
  have paths : Settings.default.kubeconfigPaths household = ["home", "away"] := by decide +kernel
  have reads : Kubeconfig.readAll (drawer [("home", contextFile "h")]) ["home", "away"] =
      .ok (contextConfig "h") :=
    eq_ok_of_toOption (by decide +kernel)
  have rereads : Kubeconfig.readAll mended ["home", "away"] = .ok (contextConfig "n") :=
    eq_ok_of_toOption (by decide +kernel)
  have fails : Kubeconfig.readAll torn ["home", "away"] = .error (.yaml "]") := by decide +kernel
  have opens := build_eq household .default Cluster.Api.offline (drawer [("home", contextFile "h")])
  have reopens := build_eq household .default Cluster.Api.offline mended
  rw [paths, reads] at opens
  rw [paths, rereads] at reopens
  obtain ⟨opened, s, opens, later, settings, names, kept⟩ : ∃ opened s,
      build household .default Cluster.Api.offline (drawer [("home", contextFile "h")]) =
        .ok opened ∧
      Later opened s ∧ s.settings = .default ∧ s.contextNames = ["h"] ∧
        (s.registry.find? "h").isSome :=
    ⟨_, _, opens, .client "h" .refl, rfl, rfl, by decide +kernel⟩
  have backed (files : Files.Tree) : FileBacked household Cluster.Api.offline { s with files } :=
    (build_inv opens).1.later (.files files later)
  refine ⟨opened, s, opens, later, names, kept, ?_, ?_⟩
  · obtain ⟨keeps, -, reason⟩ := reload_allOrNothing (backed torn) []
    have offends := Kubeconfig.readAll_eq_error_iff.1 fails
    rw [← paths, ← settings] at offends
    have failed := (reason _).2 offends
    obtain ⟨-, same⟩ := keeps _ _ (Prod.ext failed rfl)
    exact ⟨_, Prod.ext failed rfl, by rw [same]; exact names, by rw [same]⟩
  · obtain ⟨keeps, renews, reason⟩ := reload_allOrNothing (backed mended) []
    have fine : (Cli.Answer.reload.outcome ⟨{ s with files := mended }, []⟩).1 = .ok () := by
      cases result : (Cli.Answer.reload.outcome ⟨{ s with files := mended }, []⟩).1 with
      | ok => rfl
      | error h =>
        obtain ⟨⟨e, rfl, -⟩, -⟩ := keeps h _ (Prod.ext result rfl)
        have offends := (reason e).1 result
        change Kubeconfig.Offends mended (s.settings.kubeconfigPaths household) e at offends
        rw [settings, paths] at offends
        cases offends.readAll.symm.trans rereads
    obtain ⟨-, -, fresh, builds, renewed⟩ := renews _ (Prod.ext fine rfl)
    change build household s.settings Cluster.Api.offline mended = _ at builds
    rw [settings] at builds
    obtain rfl := Except.ok.inj (builds.symm.trans reopens)
    exact ⟨_, Prod.ext fine rfl, renewed.contextNames, renewed.empty⟩

end Session

end Fleet
