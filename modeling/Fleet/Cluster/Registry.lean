import Fleet.Cluster.Client

/-!
# Registry of clients

Clients are made on first use and kept by context name until a reset. Every client made gets a
serial number; a failure to make one changes nothing.

`get` is the only operation by which the program obtains clients: it yields the one that is kept or
makes one. `make` always makes one and keeps it in the place of the other. The history of contexts
for which clients were made is kept with the entries, since a reset drops the entries and does not
start the numbers over.
-/

namespace Fleet.Cluster

/-- A client and its serial number. -/
structure Handle where
  serial : Nat
  client : Client

/-- Kept clients, and the contexts of all clients ever made. -/
structure Registry where
  entries : List (String × Handle)
  made : List String

namespace Registry

/-- Nothing kept, nothing made. -/
def empty : Registry := ⟨[], []⟩

/-- Client kept for a context. -/
def find? (r : Registry) (context : String) : Option Handle :=
  (r.entries.find? (·.1 = context)).map (·.2)

/-- A client is kept for the context. -/
def contains (r : Registry) (context : String) : Bool := (r.find? context).isSome

/-- Number of kept clients. -/
def size (r : Registry) : Nat := r.entries.length

/-- A client made without being kept. -/
def make (r : Registry) (factory : Factory) (context : String) : Except Failure Handle × Registry :=
  match factory context with
  | .error e => (.error e, r)
  | .ok c => (.ok ⟨r.made.length, c⟩, { r with made := r.made ++ [context] })

/-- The kept client, or a new one that is kept from now on. -/
def get (r : Registry) (factory : Factory) (context : String) : Except Failure Handle × Registry :=
  match r.find? context with
  | some h => (.ok h, r)
  | none =>
    match r.make factory context with
    | (.error e, r) => (.error e, r)
    | (.ok h, r) => (.ok h, { r with entries := r.entries ++ [(context, h)] })

/-- Look-ups of several contexts one after another. -/
def getAll (r : Registry) (factory : Factory) : List String →
    List (Except Failure Handle) × Registry
  | [] => ([], r)
  | c :: cs =>
    let (h, r) := r.get factory c
    let (hs, r) := r.getAll factory cs
    (h :: hs, r)

/-- No kept clients. -/
def reset (r : Registry) : Registry := { r with entries := [] }

/-- How many clients were made for a context. -/
def madeFor (r : Registry) (context : String) : Nat := r.made.count context

end Registry

end Fleet.Cluster
