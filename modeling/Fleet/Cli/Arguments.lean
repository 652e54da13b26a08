import Fleet.Cli.Grammar

/-!
# Arguments of the program

The program's grammar, and what the arguments of a run ask for.

Options that hold for the whole program may stand before or after a subcommand (`globals`). The
subcommands that list and watch share their options (`queryOptions`). From what was given at each
level, innermost first, comes a `Request`; a resource is read from its text here, so that a
malformed one counts as a mistake in the arguments.
-/

namespace Fleet.Cli

/-- When to use colors. -/
inductive ColorChoice where
  | auto
  | always
  | never
  deriving Repr, DecidableEq

/-- Which objects a listing shows, and of which contexts; no names stand for the selection. -/
structure Query where
  resource : Resource
  ns : Option String
  selector : Option String
  contexts : List String
  deriving Repr, DecidableEq

/-- Changes of the selection, and its listing. -/
inductive SelectionRequest where
  | list
  | select (names : List String)
  | deselect (names : List String)
  | toggle (name : String)
  | all
  | clear
  deriving Repr, DecidableEq

/-- What a run is to do. -/
inductive Request where
  | list (query : Query)
  | versions (contexts : List String)
  | exec (args : List String) (maxParallel : Option Nat) (contexts : List String)
  | describe (resource : Resource) (row : String)
  | contexts (request : SelectionRequest)
  | watch (query : Query) (interval : Nat)
  deriving Repr, DecidableEq

/-- What the arguments of a run ask for. -/
structure Arguments where
  color : ColorChoice
  isJson : Bool
  isQuiet : Bool
  verbosity : Nat
  config : Option String
  request : Request
  deriving Repr, DecidableEq

namespace Arguments

/-- An option without value. -/
def switch (name : String) (short : Option Char) (action : Action) : Arg :=
  ⟨name, some name, short, action, .any, false, false⟩

/-- An option with one value. -/
def option (name : String) (short : Option Char) (check : Check) : Arg :=
  ⟨name, some name, short, .single, check, false, false⟩

/-- A positional argument. -/
def positional (name : String) (action : Action) (check : Check) : Arg :=
  ⟨name, none, none, action, check, false, false⟩

/-- Options of all commands. -/
def globals : List Arg :=
  [option "color" none (.oneOf ["auto", "always", "never"]), switch "json" none .flag,
    switch "quiet" (some 'q') .flag, switch "verbose" (some 'v') .count,
    option "config" none .filled, switch "help" (some 'h') .help]

/-- Contexts to work on. -/
def contextOption : Arg := ⟨"context", some "context", none, .many, .any, true, false⟩

/-- Options of listings. -/
def queryOptions : List Arg :=
  [option "namespace" (some 'n') .any, option "selector" (some 'l') .any, contextOption]

/-- Command without subcommands. -/
def leaf (options positionals : List Arg) : Grammar := .mk (globals ++ options) positionals []

/-- Grammar of the selection commands. -/
def contextsGrammar : Grammar :=
  .mk globals [] [("list", leaf [] []), ("select", leaf [] [positional "names" .many .any]),
    ("deselect", leaf [] [positional "names" .many .any]),
    ("toggle", leaf [] [positional "name" .single .any]), ("all", leaf [] []),
    ("clear", leaf [] [])]

/-- Grammar of the program. -/
def grammar : Grammar :=
  .mk (globals ++ [switch "version" (some 'V') .version]) []
    [("list", leaf queryOptions [positional "resource" .single .resource]),
      ("versions", leaf [contextOption] []),
      ("exec", leaf [option "max-parallel" none .number, contextOption]
        [⟨"args", none, none, .many, .any, false, true⟩]),
      ("describe", leaf [] [positional "resource" .single .resource, positional "id" .single .any]),
      ("contexts", contextsGrammar),
      ("watch", leaf (queryOptions ++ [option "interval" none .number])
        [positional "resource" .single .resource])]

/-- Values given for an argument, in order. -/
def valuesOf (l : Level) (name : String) : List String :=
  (l.found.filter (·.1 = name)).flatMap (·.2)

/-- The value given for an argument. -/
def valueOf? (l : Level) (name : String) : Option String := (valuesOf l name).head?

/-- The innermost level at which an argument is given. -/
def innermost? (levels : List (String × Level)) (name : String) : Option Level :=
  (levels.reverse.find? (·.2.has name)).map (·.2)

/-- Resource that a level names. -/
def resourceOf (l : Level) : Resource :=
  ((valueOf? l "resource").bind fun s => (Resource.parse s).toOption).getD default

/-- Objects that a level asks for. -/
def queryOf (l : Level) : Query :=
  ⟨resourceOf l, valueOf? l "namespace", valueOf? l "selector", valuesOf l "context"⟩

/-- Seconds between the passes of a watch. -/
def defaultInterval : Nat := 5

/-- What a change of the selection asks for. -/
def selectionRequest? (name : String) (l : Level) : Option SelectionRequest :=
  match name with
  | "list" => some .list
  | "select" => some (.select (valuesOf l "names"))
  | "deselect" => some (.deselect (valuesOf l "names"))
  | "toggle" => (valueOf? l "name").map .toggle
  | "all" => some .all
  | "clear" => some .clear
  | _ => none

/-- What the levels below the program's own ask for. -/
def request? : List (String × Level) → Option Request
  | [("list", l)] => some (.list (queryOf l))
  | [("versions", l)] => some (.versions (valuesOf l "context"))
  | [("exec", l)] =>
    some (.exec (valuesOf l "args") ((valueOf? l "max-parallel").bind number?)
      (valuesOf l "context"))
  | [("describe", l)] => (valueOf? l "id").map (.describe (resourceOf l))
  | [("contexts", _), (name, l)] => (selectionRequest? name l).map .contexts
  | [("watch", l)] =>
    some (.watch (queryOf l) (((valueOf? l "interval").bind number?).getD defaultInterval))
  | _ => none

/-- Color choice of a value. -/
def colorOf : Option String → ColorChoice
  | some "always" => .always
  | some "never" => .never
  | _ => .auto

/-- Highest verbosity. -/
def maxVerbosity : Nat := 255

/-- Arguments of a run. An option of all commands counts at the innermost level that gives it. -/
def parse (args : List String) : Except UsageError Arguments := do
  let levels ← readLevels "" grammar .start args
  let value? (name : String) := (innermost? levels name).bind (valueOf? · name)
  let occurrences (name : String) :=
    ((innermost? levels name).map fun l => (l.found.filter (·.1 = name)).length).getD 0
  match request? (levels.drop 1) with
  | none => throw .missingSubcommand
  | some request =>
    return { color := colorOf (value? "color"), isJson := 0 < occurrences "json"
             isQuiet := 0 < occurrences "quiet"
             verbosity := min (occurrences "verbose") maxVerbosity
             config := value? "config", request }

end Arguments

end Fleet.Cli
