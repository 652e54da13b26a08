import Fleet.Resource
import Fleet.Text.Split

/-!
# Command-line grammar

A grammar has options, positional arguments and subcommands with grammars of their own. Reading
arguments by it yields what was given at each level, or the kind of the first mistake.

Arguments are read from left to right with the level of the innermost subcommand at hand (`take`).
An argument is an option in its long form, a row of options in their short form, the name of a
subcommand, or a value for the positional argument whose turn it is. An option may take a value,
joined to it or as the next argument; several values of one option are collected until the next
option comes (`pending`).

Mistakes are of the kinds that the program tells apart (`UsageError`), and the first one decides.
What is left to be checked at the end of a level is what was required and not given (`finish`).
-/

namespace Fleet.Cli

/-- Kinds of mistakes, and requests for help, that end the reading of arguments. -/
inductive UsageError where
  | help
  | version
  | helpForMissing
  | missingSubcommand
  | invalidSubcommand
  | unknownArgument
  | missingArgument
  | invalidValue
  | malformedValue
  | conflict
  | tooManyValues
  deriving Repr, DecidableEq

/-- What an argument does when it is given. -/
inductive Action where
  | flag
  | count
  | single
  | many
  | help
  | version
  deriving Repr, DecidableEq

/-- Values that an argument takes. -/
inductive Check where
  | any
  | filled
  | oneOf (names : List String)
  | number
  | resource
  deriving Repr, DecidableEq

/-- An option, or a positional argument without names. -/
structure Arg where
  name : String
  long : Option String
  short : Option Char
  action : Action
  check : Check
  /-- Commas separate values. -/
  isDelimited : Bool
  /-- Takes all that follows, whatever it looks like. -/
  isTrailing : Bool
  deriving Repr, DecidableEq

/-- Grammar of a command. -/
inductive Grammar where
  | mk (options positionals : List Arg) (subcommands : List (String × Grammar))
  deriving Repr

namespace Grammar

/-- Options of a command. -/
def options : Grammar → List Arg
  | mk os _ _ => os

/-- Positional arguments of a command. -/
def positionals : Grammar → List Arg
  | mk _ ps _ => ps

/-- Subcommands by name. -/
def subcommands : Grammar → List (String × Grammar)
  | mk _ _ ss => ss

/-- Grammar of a subcommand. -/
def subcommand? (g : Grammar) (name : String) : Option Grammar :=
  (g.subcommands.find? (·.1 = name)).map (·.2)

/-- Name of the subcommand that shows help; every command with subcommands has it. -/
def helpName : String := "help"

/-- The name leads to a subcommand. -/
def isSubcommand (g : Grammar) (name : String) : Bool :=
  !g.subcommands.isEmpty && (name == helpName || (g.subcommand? name).isSome)

/-- Option of a long name. -/
def long? (g : Grammar) (name : String) : Option Arg := g.options.find? (·.long = some name)

/-- Option of a short name. -/
def short? (g : Grammar) (c : Char) : Option Arg := g.options.find? (·.short = some c)

end Grammar

/-- A whole number that fits 64 bits, perhaps after a plus sign. -/
def number? (s : String) : Option Nat :=
  let cs := match s.toList with
    | '+' :: r => r
    | r => r
  if cs ≠ [] ∧ cs.all Char.isDigit then
    some (cs.foldl (fun n c => n * 10 + (c.toNat - 48)) 0) |>.filter (· < Nat.pow 2 64)
  else none

/-- Mistake of a value. -/
def Check.mistake? (c : Check) (s : String) : Option UsageError :=
  match c with
  | any => none
  | filled => if s = "" then some .invalidValue else none
  | oneOf names => if names.contains s then none else some .invalidValue
  | number => if (number? s).isSome then none else some .malformedValue
  | resource => if (Resource.parse s).isOk then none else some .malformedValue

/-- The action takes a value. -/
def Action.takesValue : Action → Bool
  | single | many => true
  | _ => false

/-- Arguments read at one level: what was found, the argument whose values are being collected, the
next positional argument, and whether only positional arguments can follow. -/
structure Level where
  found : List (String × List String)
  pending : Option (Arg × List String)
  next : Nat
  isTrailing : Bool
  deriving Repr

namespace Level

/-- Nothing read. -/
def start : Level := ⟨[], none, 0, false⟩

/-- The argument was given. -/
def has (l : Level) (name : String) : Bool := l.found.any (·.1 = name)

/-- An option waits for its value. -/
def isWaiting (l : Level) : Bool :=
  match l.pending with
  | some (a, vs) => vs.isEmpty && (a.long.isSome || a.short.isSome)
  | none => false

/-- Values kept for an argument. -/
def add (l : Level) (a : Arg) (values : List String) : Level :=
  { l with found := l.found ++ [(a.name, values)] }

/-- Values kept if each passes its check. -/
def addChecked (l : Level) (a : Arg) (values : List String) : Except UsageError Level :=
  match values.findSome? a.check.mistake? with
  | some e => .error e
  | none => .ok (l.add a values)

/-- An argument given with values; nothing may be pending. -/
def give (l : Level) (a : Arg) (values : List String) : Except UsageError Level :=
  if a.action.takesValue ∧ values = [] then .error .invalidValue
  else
    let values := if a.isDelimited then values.flatMap (Text.split ',') else values
    match a.action with
    | .help => .error .help
    | .version => .error .version
    | .count => .ok (l.add a values)
    | .flag => if l.has a.name then .error .conflict else .ok (l.add a values)
    | .single => if l.has a.name then .error .conflict else l.addChecked a values
    | .many => l.addChecked a values

/-- The pending argument given. -/
def settle (l : Level) : Except UsageError Level :=
  match l.pending with
  | none => .ok l
  | some (a, values) => { l with pending := none }.give a values

/-- An option with the value that is attached to it, or that is to follow. -/
def takeOption (l : Level) (a : Arg) (attached : Option String) : Except UsageError Level := do
  let l ← l.settle
  match attached with
  | some v => l.give a [v]
  | none => return { l with pending := some (a, []) }

/-- A long option after its dashes; none if it may be a value. -/
def takeLong (l : Level) (g : Grammar) (s : String) : Except UsageError (Option Level) :=
  let (name, attached) := match Text.cut? '=' s with
    | some (n, v) => (n, some v)
    | none => (s, none)
  match g.long? name with
  | some a =>
    if a.action.takesValue then (l.takeOption a attached).map some
    else if attached.isSome then .error .tooManyValues
    else do return some (← (← l.settle).give a [])
  | none =>
    if ((g.positionals[l.next]?).map (·.isTrailing)) = some true then .ok none
    else .error .unknownArgument

/-- Short options after their dash. -/
def takeShorts (g : Grammar) : Level → List Char → Except UsageError Level
  | l, [] => .ok l
  | l, c :: r =>
    match g.short? c with
    | none => .error .unknownArgument
    | some a =>
      if a.action.takesValue then
        l.takeOption a (match r with
          | [] => none
          | '=' :: v => some (String.ofList v)
          | v => some (String.ofList v))
      else do takeShorts g (← (← l.settle).give a []) r

/-- Short options; none if they may be a value. -/
def takeShort (l : Level) (g : Grammar) (cs : List Char) : Except UsageError (Option Level) :=
  if ((g.positionals[l.next]?).map (·.isTrailing)) = some true ∧
      cs.any (fun c => (g.short? c).isNone) then
    .ok none
  else (takeShorts g l cs).map some

/-- A value for the option that waits. -/
def takeValue (l : Level) (s : String) : Level :=
  { l with pending := l.pending.map fun (a, vs) => (a, vs ++ [s]) }

/-- Mistake of a word that has no place. -/
def misplaced (l : Level) (g : Grammar) (s : String) : UsageError :=
  if l.isTrailing ∧ g.isSubcommand s then .unknownArgument
  else if g.subcommands.isEmpty then .unknownArgument
  else .invalidSubcommand

/-- A positional argument. -/
def takePositional (l : Level) (g : Grammar) (s : String) : Except UsageError Level :=
  match g.positionals[l.next]? with
  | none => .error (l.misplaced g s)
  | some a => do
    let l := { l with isTrailing := l.isTrailing || a.isTrailing }
    if a.action = .many ∧ (l.pending.map (·.1.name)) = some a.name then return l.takeValue s
    let l ← l.settle
    return { l with pending := some (a, [s]), next := if a.action = .many then l.next
      else l.next + 1 }

/-- One argument that is no subcommand. -/
def take (l : Level) (g : Grammar) (s : String) : Except UsageError Level := do
  if l.isTrailing then return ← l.takePositional g s
  if s = "--" then return { l with isTrailing := true }
  let taken ← match s.toList with
    | '-' :: '-' :: r => l.takeLong g (String.ofList r)
    | '-' :: c :: r => l.takeShort g (c :: r)
    | _ => .ok none
  match taken with
  | some l => return l
  | none => if l.isWaiting then return l.takeValue s else l.takePositional g s

/-- End of the arguments of a level. -/
def finish (l : Level) (g : Grammar) (hasSubcommand : Bool) : Except UsageError Level := do
  let l ← l.settle
  if !hasSubcommand ∧ !g.subcommands.isEmpty then
    throw (if l.found.isEmpty then .helpForMissing else .missingSubcommand)
  if g.positionals.all (fun a => l.has a.name) then return l else throw .missingArgument

end Level

/-- Help for the subcommand that names lead to. -/
def helpFor (g : Grammar) : List String → UsageError
  | [] => .help
  | s :: r =>
    match g.subcommand? s with
    | some sub => helpFor sub r
    | none => if g.isSubcommand s ∧ r = [] then .help else .invalidSubcommand

/-- Levels read, the outermost first, each under the name of its command. -/
def readLevels (name : String) (g : Grammar) (l : Level) :
    List String → Except UsageError (List (String × Level))
  | [] => do return [(name, ← l.finish g false)]
  | s :: r =>
    if !l.isTrailing ∧ !l.isWaiting ∧ g.isSubcommand s then
      match g.subcommand? s with
      | none => .error (helpFor g r)
      | some sub => do
        let inner ← readLevels s sub .start r
        return (name, ← l.finish g true) :: inner
    else do readLevels name g (← l.take g s) r

end Fleet.Cli
