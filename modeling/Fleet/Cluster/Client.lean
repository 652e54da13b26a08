import Fleet.Failure
import Fleet.Resource

/-!
# Clients of a cluster

A client answers calls for one context. A call takes some time, or forever, and then yields a value
or fails.

A client is made of what it answers to each kind of call. Whatever state it has behind that is not
seen here: a scripted client has none, and that of a link is the subject of the links. A factory
makes the client of a context or says why it cannot.
-/

namespace Fleet.Cluster

/-- A call: the milliseconds until it ends, none when it never does, and how it ends. -/
structure Call (α : Type) where
  delay : Option Nat
  ending : Except Failure α
  deriving Repr

/-- Calls that a context answers. -/
structure Client where
  context : String
  /-- Objects of a resource in a namespace, or in all, that match a label selector. -/
  list : Resource → Option String → Option String → Call (List Json)
  /-- One object by namespace and name. -/
  get : Resource → Option String → String → Call Json
  version : Call String

/-- Makes the client of a context. -/
abbrev Factory := String → Except Failure Client

end Fleet.Cluster
