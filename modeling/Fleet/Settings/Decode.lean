import Fleet.Decimal.Layout
import Fleet.Files.Tree
import Fleet.Settings.Basic
import Fleet.Toml.Document

/-!
# Settings from a document

A document fills settings field by field, in its own order; keys that name no setting are passed
over. An array may stand for a section, with its items in the order of the fields.

Sections are records with fields in an order (`Field`), and a field that is wrong is told by its
kind and place in the text: the bytes of the value, or those of the key where the value has none
(`withSpan`). Numbers have bounds by the type of the setting.
-/

namespace Fleet.Settings

open Toml (Span Item Value Key Table)

/-- A value that does not fit its setting. -/
structure Mismatch where
  message : String
  span : Option Span
  deriving Repr

/-- A double without exponent. -/
def plainLayout : Decimal.Layout := ⟨-400, 400, "", ""⟩

/-- What a value is, in words. -/
def described : Value → String
  | .str s => "string " ++ Text.quoted s
  | .int n => "integer `" ++ String.ofList (Decimal.intText n) ++ "`"
  | .real x => "floating point `" ++ plainLayout.text "NaN" "inf" x ++ "`"
  | .bool b => "boolean `" ++ (if b then "true" else "false") ++ "`"
  | .moment => "map"
  | .array _ => "sequence"
  | .table .. => "map"
  | .tables _ => "sequence"

/-- A value of another kind than expected. -/
def wrongKind {α : Type} (i : Item) (expected : String) : Except Mismatch α :=
  .error ⟨"invalid type: " ++ described i.2 ++ ", expected " ++ expected, i.1⟩

/-- A whole number up to a bound. -/
def decodeNat (bound : Nat) (expected : String) (i : Item) : Except Mismatch Nat :=
  match i.2 with
  | .int n =>
    if 0 ≤ n ∧ n.toNat ≤ bound then .ok n.toNat
    else .error ⟨"invalid value: " ++ described i.2 ++ ", expected " ++ expected, i.1⟩
  | _ => wrongKind i expected

/-- A count. -/
def decodeSize : Item → Except Mismatch Nat := decodeNat (Nat.pow 2 64 - 1) "usize"

/-- A length of time. -/
def decodeLength : Item → Except Mismatch Nat := decodeNat (Nat.pow 2 64 - 1) "u64"

/-- A number of 32 bits. -/
def decodeSmall : Item → Except Mismatch Nat := decodeNat (Nat.pow 2 32 - 1) "u32"

/-- A double; a whole number will do. -/
def decodeDouble (i : Item) : Except Mismatch Double :=
  match i.2 with
  | .int n => .ok (.ofInt n)
  | .real x => .ok x
  | _ => wrongKind i "f64"

/-- A text. -/
def decodeText (expected : String) (i : Item) : Except Mismatch String :=
  match i.2 with
  | .str s => .ok s
  | _ => wrongKind i expected

/-- A setting's name and what an item does to it. -/
abbrev Field (σ : Type) := String × (σ → Item → Except Mismatch σ)

/-- The key's span for an error without a span. -/
def withSpan {α : Type} (span : Option Span) : Except Mismatch α → Except Mismatch α
  | .ok a => .ok a
  | .error e => .error { e with span := e.span.orElse fun _ => span }

/-- Entries taken into a record, in their order. -/
def fillNamed {σ : Type} (fields : List (Field σ)) (start : σ) (entries : List (Key × Item)) :
    Except Mismatch σ :=
  entries.foldlM (fun s (k, i) =>
    match fields.find? (·.1 = k.text) with
    | some (_, set) => withSpan (some k.span) (set s i)
    | none => .ok s) start

/-- Items taken into a record, in the order of its fields. -/
def fillPlaced {σ : Type} (fields : List (Field σ)) (start : σ) (items : List Item) :
    Except Mismatch σ :=
  (fields.zip items).foldlM (fun s (f, i) => f.2 s i) start

/-- A section: a table, an array in the order of the fields, or a moment, which sets nothing. -/
def decodeSection {σ : Type} (name : String) (fields : List (Field σ)) (start : σ) (i : Item) :
    Except Mismatch σ :=
  withSpan i.1 (match i.2 with
    | .table _ entries => fillNamed fields start entries
    | .array items => fillPlaced fields start items
    | .tables items => fillPlaced fields start items
    | .moment => .ok start
    | _ => wrongKind i ("struct " ++ name))

/-- Fields of logging. -/
def loggingFields : List (Field Logging) := [
  ("level", fun s i => return { s with level := ← decodeText "a string" i }),
  ("format", fun s i => return { s with format := ← decodeText "a string" i })]

/-- Fields of batches. -/
def fanoutFields : List (Field Fanout) := [
  ("max_parallel", fun s i => return { s with maxParallel := ← decodeSize i }),
  ("command_max_parallel", fun s i => return { s with commandMaxParallel := ← decodeSize i }),
  ("version_timeout_ms", fun s i => return { s with versionTimeout := ← decodeLength i }),
  ("list_timeout_ms", fun s i => return { s with listTimeout := some (← decodeLength i) }),
  ("command_timeout_ms", fun s i => return { s with commandTimeout := some (← decodeLength i) })]

/-- Fields of request rates. -/
def clientFields : List (Field Throttle) := [
  ("qps", fun s i => return { s with qps := ← decodeSmall i }),
  ("burst", fun s i => return { s with burst := ← decodeSmall i }),
  ("request_timeout_ms", fun s i => return { s with requestTimeout := some (← decodeLength i) })]

/-- Fields of supervision. -/
def supervisorFields : List (Field Supervision) := [
  ("refresh_interval_secs", fun s i => return { s with refreshInterval := ← decodeLength i }),
  ("max_delay_secs", fun s i => return { s with maxDelay := ← decodeLength i }),
  ("backoff_multiplier", fun s i => return { s with factor := ← decodeDouble i }),
  ("max_conn_retry", fun s i => return { s with maxConnRetry := ← decodeSmall i }),
  ("probe_timeout_ms", fun s i => return { s with probeTimeout := ← decodeLength i })]

/-- Sections and settings outside them. -/
def fields : List (Field Settings) := [
  ("logging", fun s i =>
    return { s with logging := ← decodeSection "LoggingConfig" loggingFields .default i }),
  ("fanout", fun s i =>
    return { s with fanout := ← decodeSection "FanoutConfig" fanoutFields .default i }),
  ("client", fun s i =>
    return { s with client := ← decodeSection "ClientConfig" clientFields .default i }),
  ("supervisor", fun s i =>
    return { s with supervisor := ← decodeSection "SupervisorConfig" supervisorFields .default i }),
  ("kubeconfig", fun s i =>
    return { s with kubeconfig := some (← decodeText "path string" i) }),
  ("kubectl", fun s i => return { s with kubectl := ← decodeText "a string" i }),
  ("selection_file", fun s i =>
    return { s with selectionFile := some (← decodeText "path string" i) })]

/-- Settings of a text: a mismatch without span when it is no document. -/
def decode (s : String) : Except Mismatch Settings :=
  match Toml.parse? s with
  | none => .error ⟨"malformed document", none⟩
  | some t => fillNamed fields .default t.entries

/-- Valid settings of a text. -/
def parse (s : String) : Except Failure Settings :=
  match decode s with
  | .error e => .error (.configMalformed e.message)
  | .ok c =>
    match c.problem? with
    | some e => .error e
    | none => .ok c

/-- Settings of a file. -/
def load (t : Files.Tree) (path : String) : Except Failure Settings :=
  match t.readText path with
  | .error e => .error (.configUnreadable e.message)
  | .ok s => parse s

/-- Settings of a file, the default ones if nothing is there. -/
def loadOrDefault (t : Files.Tree) (path : String) : Except Failure Settings :=
  if t.holds path then load t path else .ok .default

/-- Where a reader of a mismatch finds the settings described. -/
def help : String := "see `[fanout]`, `[client]` and `[supervisor]` in the README"

end Fleet.Settings
