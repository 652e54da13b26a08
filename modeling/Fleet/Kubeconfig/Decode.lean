import Fleet.Failure
import Fleet.Kubeconfig.Basic
import Fleet.Text.Blank
import Fleet.Yaml.Value

/-!
# Cluster configuration from a document

A text of blanks only has no entries. Keys that are not known are passed over.

A document is decoded field by field, and a field of the wrong shape makes the whole document
malformed. A cluster or user is kept under its name with the fields that connections are made of; a
user with a plugin is remembered as such, since no connection can be made for it.
-/

namespace Fleet.Kubeconfig

open Yaml (Document Node)

/-- A text that may be left out. -/
def textEntry (d : Document) (fields : List (String × Node)) (key : String) :
    Option (Option String) :=
  Document.entryOr? fields key none (d.optional? d.text?)

/-- A value of any form that may be left out; whether it is there. The value stands `depth` levels
below the root. -/
def anyEntry (d : Document) (depth : Nat) (fields : List (String × Node)) (key : String) :
    Option Bool :=
  Document.entryOr? fields key false fun n =>
    (d.optional? (fun n => if d.isValue depth n then some () else none) n).map Option.isSome

/-- A cluster. -/
def decodeCluster (d : Document) (n : Node) : Option Cluster.Entry := do
  let fs ← d.fields?
    ["server", "certificate-authority", "certificate-authority-data", "insecure-skip-tls-verify"] n
  let server ← Document.required? fs "server" d.text?
  let authority ← textEntry d fs "certificate-authority"
  let authorityData ← textEntry d fs "certificate-authority-data"
  let insecure ← Document.entryOr? fs "insecure-skip-tls-verify" false d.flag?
  some { server, authority, authorityData, insecure }

/-- A user. -/
def decodeUser (d : Document) (n : Node) : Option User.Entry := do
  let fs ← d.fields? ["token", "tokenFile", "username", "password", "client-certificate",
    "client-certificate-data", "client-key", "client-key-data", "exec", "auth-provider"] n
  let token ← textEntry d fs "token"
  let tokenFile ← textEntry d fs "tokenFile"
  let username ← textEntry d fs "username"
  let password ← textEntry d fs "password"
  let certificate ← textEntry d fs "client-certificate"
  let certificateData ← textEntry d fs "client-certificate-data"
  let key ← textEntry d fs "client-key"
  let keyData ← textEntry d fs "client-key-data"
  let exec ← anyEntry d 4 fs "exec"
  let provider ← anyEntry d 4 fs "auth-provider"
  some { token, tokenFile, username, password, certificate, certificateData, key, keyData,
         plugin := exec || provider }

/-- A context. -/
def decodeContext (d : Document) (n : Node) : Option Context.Entry := do
  let fs ← d.fields? ["cluster", "user", "namespace"] n
  let cluster ← Document.required? fs "cluster" d.text?
  let user ← Document.entryOr? fs "user" "" d.text?
  let ns ← textEntry d fs "namespace"
  some { cluster, user, ns }

/-- An entry under its name; `missing` is for an entry that is left out, if it may be. -/
def decodeNamed {α : Type} (d : Document) (field : String) (missing : Option α)
    (decode : Node → Option α) (n : Node) : Option (Named α) := do
  let fs ← d.fields? ["name", field] n
  let name ← Document.required? fs "name" d.text?
  let entry ← match missing with
    | some a => Document.entryOr? fs field a decode
    | none => Document.required? fs field decode
  some ⟨name, entry⟩

/-- A document's root. -/
def decodeRoot (d : Document) (n : Node) : Option Kubeconfig := do
  let fs ← d.fields? ["clusters", "users", "contexts", "current-context"] n
  let clusters ← Document.entryOr? fs "clusters" []
    (d.list? (decodeNamed d "cluster" none (decodeCluster d)))
  let users ← Document.entryOr? fs "users" []
    (d.list? (decodeNamed d "user" (some .none) (decodeUser d)))
  let contexts ← Document.entryOr? fs "contexts" []
    (d.list? (decodeNamed d "context" none (decodeContext d)))
  let current ← textEntry d fs "current-context"
  some { clusters, users, contexts, current }

/-- Configuration of a text. -/
def parse (s : String) : Except Failure Kubeconfig :=
  if Text.isAllBlank s then .ok .empty
  else
    let decoded := do
      let d ← Document.parse? s
      match d.root with
      | none => some .empty
      | some n => decodeRoot d n
    match decoded with
    | some k => .ok k
    | none => .error (.yaml s)

end Fleet.Kubeconfig
