import Fleet.Files.Tree

/-!
# Cluster configuration

Clusters, users and contexts by name. Documents are merged in order: what an earlier one names, a
later one does not change.

References to files are relative to the directory of the document that makes them; `anchor` replaces
them by paths from there, before a document is merged. The current context is the first one that is
not empty (`mergeCurrent`).
-/

namespace Fleet

/-- Where a cluster is and whom it trusts. -/
structure Cluster.Entry where
  server : String
  authority : Option String
  authorityData : Option String
  insecure : Bool
  deriving Repr, DecidableEq

/-- What a user shows to a cluster. -/
structure User.Entry where
  token : Option String
  tokenFile : Option String
  username : Option String
  password : Option String
  certificate : Option String
  certificateData : Option String
  key : Option String
  keyData : Option String
  /-- Credentials come from a program. -/
  plugin : Bool
  deriving Repr, DecidableEq

/-- A user without credentials. -/
def User.Entry.none : User.Entry :=
  ⟨.none, .none, .none, .none, .none, .none, .none, .none, false⟩

/-- A cluster, a user and a namespace. -/
structure Context.Entry where
  cluster : String
  user : String
  ns : Option String
  deriving Repr, DecidableEq

/-- An entry under a name. -/
structure Named (α : Type) where
  name : String
  entry : α
  deriving Repr, DecidableEq

/-- One document, or several merged. -/
structure Kubeconfig where
  clusters : List (Named Cluster.Entry)
  users : List (Named User.Entry)
  contexts : List (Named Context.Entry)
  current : Option String
  deriving Repr, DecidableEq

/-- The first entry of a name. -/
def Named.find? {α : Type} (entries : List (Named α)) (name : String) : Option α :=
  (entries.find? (·.name = name)).map (·.entry)

/-- Entries added whose names are not there yet. -/
def Named.addNew {α : Type} (entries more : List (Named α)) : List (Named α) :=
  more.foldl (fun acc e => if acc.any (·.name = e.name) then acc else acc ++ [e]) entries

namespace Kubeconfig

/-- No entries. -/
def empty : Kubeconfig := ⟨[], [], [], none⟩

/-- The current context that is not empty, the earlier one first. -/
def mergeCurrent (a b : Option String) : Option String :=
  if (a.getD "") = "" then b.filter (· ≠ "") else a

/-- Both documents; what the first names stays. -/
def merge (a b : Kubeconfig) : Kubeconfig :=
  { clusters := Named.addNew a.clusters b.clusters
    users := Named.addNew a.users b.users
    contexts := Named.addNew a.contexts b.contexts
    current := mergeCurrent a.current b.current }

/-- Files that a cluster refers to, taken relative to a directory. -/
def anchorCluster (dir : String) (c : Cluster.Entry) : Cluster.Entry :=
  { c with authority := c.authority.map (Files.under dir) }

/-- Files that a user refers to, taken relative to a directory. -/
def anchorUser (dir : String) (u : User.Entry) : User.Entry :=
  { u with
    tokenFile := u.tokenFile.map (Files.under dir)
    certificate := u.certificate.map (Files.under dir)
    key := u.key.map (Files.under dir) }

/-- All files that a document refers to, taken relative to a directory. -/
def anchor (dir : String) (k : Kubeconfig) : Kubeconfig :=
  { k with
    clusters := k.clusters.map fun c => { c with entry := anchorCluster dir c.entry }
    users := k.users.map fun u => { u with entry := anchorUser dir u.entry } }

/-- Files that a document refers to. -/
def references (k : Kubeconfig) : List String :=
  k.clusters.flatMap (fun c => c.entry.authority.toList) ++
    k.users.flatMap fun u =>
      u.entry.tokenFile.toList ++ u.entry.certificate.toList ++ u.entry.key.toList

/-- Names of the contexts. -/
def contextNames (k : Kubeconfig) : List String := k.contexts.map (·.name)

end Kubeconfig

end Fleet
