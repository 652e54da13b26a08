import Fleet.Base64
import Fleet.Failure
import Fleet.Kubeconfig.Basic
import Fleet.Text.Blank
import Fleet.Url.Parse

/-!
# Connection parameters

A context names a cluster and perhaps a user; from these, and from the files they refer to, come the
parameters of a connection.

Each step may fail with a reason of its own, in this order: the context, the cluster, the user, the
plugin, the server's URL, and then the material, which may be written into the document or in a file
(`material`). A token that is written down goes before one in a file, and both before a name with a
password.
-/

namespace Fleet

/-- What is shown to a cluster. -/
inductive Auth where
  | none
  | bearer (token : String)
  | basic (username password : String)
  deriving Repr, DecidableEq

/-- All that a client of one context needs. -/
structure Connection where
  context : String
  server : Url
  authority : Option (List UInt8)
  insecure : Bool
  auth : Auth
  /-- Certificate and key, one after the other. -/
  identity : Option (List UInt8)
  ns : Option String
  deriving Repr, DecidableEq

namespace Kubeconfig

/-- Bytes written into the configuration, or else those of a file. -/
def material (t : Files.Tree) (data path : Option String) : Except String (Option (List UInt8)) :=
  match data.filter (· ≠ "") with
  | some d =>
    match Base64.decode ((Text.trim d).toUTF8.toList.map (·.toNat)) with
    | .ok bytes => .ok (some (bytes.map UInt8.ofNat))
    | .error e => .error ("invalid base64 data: " ++ e.message)
  | none =>
    match path with
    | none => .ok none
    | some p =>
      match t.read p with
      | .ok bytes => .ok (some bytes.toList)
      | .error e => .error (p ++ ": " ++ e.message)

/-- What a user shows: a token, the token of a file, a name and a password, or nothing. -/
def authOf (t : Files.Tree) (u : User.Entry) : Except String Auth :=
  match u.token.filter (· ≠ ""), u.tokenFile with
  | some token, _ => .ok (.bearer token)
  | none, some p =>
    match t.readText p with
    | .ok s => .ok (.bearer (Text.trim s))
    | .error e => .error ("token file " ++ p ++ ": " ++ e.message)
  | none, none =>
    match u.username, u.password with
    | some name, some password => .ok (.basic name password)
    | _, _ => .ok .none

/-- Certificate and key, with a line end between them; both or neither. -/
def identityOf (certificate key : Option (List UInt8)) : Except String (Option (List UInt8)) :=
  match certificate, key with
  | some c, some k => .ok (some (c ++ (if c.getLast? = some 10 then [] else [10]) ++ k))
  | none, none => .ok none
  | _, _ => .error "client certificate and key must be set together"

/-- The user of a context; an empty name stands for none. -/
def userOf (k : Kubeconfig) (name : String) : Except String User.Entry :=
  if name = "" then .ok .none
  else match Named.find? k.users name with
    | some u => .ok u
    | none => .error ("user " ++ Text.quoted name ++ " not found")

/-- Parameters of a context, or the reason why there are none. -/
def connection (k : Kubeconfig) (t : Files.Tree) (name : String) : Except String Connection := do
  let c ← match Named.find? k.contexts name with
    | some c => pure c
    | none => throw "context not found"
  let cluster ← match Named.find? k.clusters c.cluster with
    | some e => pure e
    | none => throw ("cluster " ++ Text.quoted c.cluster ++ " not found")
  let user ← k.userOf c.user
  if user.plugin then throw "exec and auth-provider credential plugins are not supported"
  let server ← match Url.parse cluster.server with
    | .ok u => pure u
    | .error e => throw ("invalid server " ++ Text.quoted cluster.server ++ ": " ++ e.message)
  let authority ← material t cluster.authorityData cluster.authority
  let auth ← authOf t user
  let certificate ← material t user.certificateData user.certificate
  let key ← material t user.keyData user.key
  let identity ← identityOf certificate key
  return { context := name, server, authority, insecure := cluster.insecure, auth, identity,
           ns := c.ns }

/-- Parameters of a context. -/
def resolve (k : Kubeconfig) (t : Files.Tree) (name : String) : Except Failure Connection :=
  match k.connection t name with
  | .ok c => .ok c
  | .error reason => .error (.unresolved name reason)

end Kubeconfig

end Fleet
