import Fleet.Cli.Answer
import Fleet.Cli.Arguments
import Fleet.Console.Table

/-!
# Listings

Objects of several contexts in one table. The identifier of a row names its context if there is more
than one.

A listing is fetched first and printed then. The kept clients change by the fetch alone, so a
failure to print or an interruption has no part in it. In JSON mode the rows go into one result,
with an identifier for each; otherwise they make a table whose first column is the context where
there are several.
-/

namespace Fleet.Cli

namespace Listing

/-- Identifier of an object's row. -/
def rowId (o : ContextObject) (isMulti : Bool) : String :=
  if isMulti then Row.join o.context o.path else o.path

/-- Columns. -/
def header : List String := ["CONTEXT", "NAMESPACE", "NAME", "AGE", "ID"]

/-- Row of an object. -/
def row (isMulti : Bool) (now : Time.Stamp) (o : ContextObject) : List String :=
  [o.context, o.namespace?.getD "-", o.name, Time.age o.created? now, rowId o isMulti]

/-- Table of objects. -/
def table (isMulti : Bool) (now : Time.Stamp) (os : List ContextObject) : String :=
  Console.Table.text header (os.map (row isMulti now))

/-- Object of a listing for programs. -/
def item (isMulti : Bool) (o : ContextObject) : Json :=
  .object [("context", .str o.context), ("id", .str (rowId o isMulti)), ("object", o.object)]

/-- More than one context. -/
def isMulti (contexts : List String) : Bool := 1 < contexts.length

/-- Listing of a query in some contexts. -/
def fetch (s : Session) (contexts : List String) (q : Query) :
    Cluster.Outcome (List Json) × Cluster.Registry :=
  Cluster.listAll s.policy s.factory s.registry contexts q.resource q.ns q.selector

end Listing

namespace Answer

/-- Objects of all contexts of a query. -/
def list (scene : Scene) (q : Query) : Answer Unit := do
  let s ← session
  let contexts ← ofExcept (s.batchContexts q.contexts)
  if contexts = [] then
    warnNoContext
    say (.hint "select contexts with `kubefan contexts select <name>...`")
  else
    let (outcome, registry) := Listing.fetch s contexts q
    setRegistry registry
    await outcome.elapsed
    let objects := Cluster.tagged outcome.slots
    let isMulti := Listing.isMulti contexts
    if scene.mode.isJson then
      sayResult "list" [("resource", .str q.resource.text), ("contexts", .strings contexts),
        ("items", .arr (objects.map (Listing.item isMulti)))]
    else if objects.isEmpty then say (.note ("No " ++ q.resource.name ++ " found"))
    else say (.raw (Listing.table isMulti scene.now objects ++ "\n"))

end Answer

end Fleet.Cli
