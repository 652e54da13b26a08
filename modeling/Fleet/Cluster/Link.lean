import Fleet.Cluster.Api
import Fleet.Limiter
import Fleet.Settings.Basic

/-!
# Links to clusters

A link is a connection with a bucket of tokens and a time limit. A request first takes a token, and
waits for one if there is none; from then on its reply has the time limit. The bucket that a request
leaves is the one that the next request finds. A call whose URL cannot be made takes no token.

The clock of a link counts the milliseconds since it was made.
-/

namespace Fleet.Cluster.Api

/-- A connection, the tokens for its requests, and the milliseconds that a reply may take. -/
structure Link where
  connection : Connection
  bucket : Limiter.Bucket Double
  timeout : Option Nat

/-- Attempts that are enough for a token: one that fails is followed by a sleep of a millisecond or
more, and a bucket gains a token or more in a second. -/
def attempts : Nat := 1002

namespace Link

/-- Link of a connection that was just made. -/
def new (settings : Throttle) (c : Connection) : Link :=
  { connection := c, bucket := .new settings.qps settings.burst ⟨0⟩,
    timeout := settings.requestTimeout }

variable {α : Type} (transport : Transport) (now : Nat)

/-- The value of a URL, asked for at an instant, and the link after that. -/
def send (decode? : ByteArray → Option α) (url : Except Failure Url) (l : Link) : Call α × Link :=
  match url with
  | .error e => (⟨some 0, .error e⟩, l)
  | .ok u =>
    let (sent, bucket) := l.bucket.acquire attempts now
    let call := fetch transport l.timeout l.connection decode? u
    ({ call with delay := call.delay.map (sent - now + ·) }, { l with bucket })

/-- Objects of a resource. -/
def list (r : Resource) (ns selector : Option String) (l : Link) : Call (List Json) × Link :=
  l.send transport now itemsOf? (listUrl l.connection r ns selector)

/-- One object. -/
def get (r : Resource) (ns : Option String) (name : String) (l : Link) : Call Json × Link :=
  l.send transport now (fun b => (written? b).map Json.canonical)
    (resourceUrl l.connection r ns (some name))

/-- Version of the server. -/
def version (l : Link) : Call String × Link :=
  l.send transport now versionOf? (endpoint l.connection ["version"])

/-- Client of a link at an instant: what each call comes to that is made then. -/
def client (l : Link) : Client :=
  { context := l.connection.context
    list := fun r ns selector => (l.list transport now r ns selector).1
    get := fun r ns name => (l.get transport now r ns name).1
    version := (l.version transport now).1 }

end Link

/-- Link of a connection whose key material is usable. -/
def connect (settings : Throttle) (c : Connection) : Except Failure Link :=
  if (c.identity.map Pem.isIdentity) = some false then
    .error (.unconnected c.context "client certificate: builder error")
  else if (c.authority.map Pem.isAuthority) = some false ∨
      (c.identity.map Pem.isSound) = some false then
    .error (.unconnected c.context "builder error")
  else .ok (.new settings c)

/-- Link of a context of a configuration. -/
def linkOf (settings : Throttle) (k : Kubeconfig) (t : Files.Tree) (context : String) :
    Except Failure Link := do
  connect settings (← k.resolve t context)

/-- Makes clients of the contexts of a configuration, each on a link of its own. -/
def factory (settings : Throttle) (transport : Transport) (k : Kubeconfig) (t : Files.Tree) :
    Factory :=
  fun context => do return (← linkOf settings k t context).client transport 0

end Fleet.Cluster.Api
