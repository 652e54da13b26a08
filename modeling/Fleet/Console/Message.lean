import Fleet.Json.Printer
import Fleet.Text.Split

/-!
# Messages to the user

A command answers with messages. The mode decides how they are printed: as decorated text, not at
all, or one JSON value a line. Errors go to the error stream, all else to standard output.

A message is data (`Message`), and how it is printed depends on the mode alone (`print`). In JSON
mode every message but a raw text is an object on a line of its own. In text mode a quiet run keeps
warnings, errors and results for programs and leaves out the rest. Colours are sequences around a
text, put there only where the mode has them (`Mode.paint`).
-/

namespace Fleet.Console

/-- How messages are printed. -/
structure Mode where
  isJson : Bool
  isQuiet : Bool
  isColored : Bool
  deriving Repr, DecidableEq, Inhabited

/-- Decorations. -/
inductive Style where
  | dimmed
  | bold
  | green
  | yellow
  | red
  | cyan
  deriving Repr, DecidableEq

/-- Codes that switch a decoration on and off. -/
def Style.codes : Style → Nat × Nat
  | dimmed => (2, 0)
  | bold => (1, 0)
  | green => (32, 39)
  | yellow => (33, 39)
  | red => (31, 39)
  | cyan => (36, 39)

/-- Control sequence of a code. -/
def sequence (code : Nat) : String := "\x1b[" ++ toString code ++ "m"

/-- Text in a decoration. -/
def Style.apply (style : Style) (s : String) : String :=
  sequence style.codes.1 ++ s ++ sequence style.codes.2

/-- Text decorated if the mode has colors. -/
def Mode.paint (m : Mode) (style : Style) (s : String) : String :=
  if m.isColored && !m.isJson then style.apply s else s

/-- What a command has to say. -/
inductive Message where
  | field (label value : String)
  | success (text : String)
  | warning (text : String)
  | error (text : String)
  | section_ (title : String)
  | status (time label text : String)
  | note (text : String)
  | hint (text : String)
  /-- Printed as it is. -/
  | raw (text : String)
  /-- A result for programs. -/
  | value (v : Json)
  deriving Repr

/-- Text of the two streams. -/
structure Printed where
  output : String
  errors : String
  deriving Repr, DecidableEq

namespace Printed

/-- Nothing. -/
def empty : Printed := ⟨"", ""⟩

/-- One after the other. -/
def append (a b : Printed) : Printed := ⟨a.output ++ b.output, a.errors ++ b.errors⟩

/-- Outputs are appended with `++`. -/
instance : Append Printed := ⟨append⟩

end Printed

namespace Message

/-- Kind and content of a message as JSON; none for what has no such form. -/
def payload? : Message → Option (String × Json)
  | field label v => some ("field", .object [("label", .str label), ("value", .str v)])
  | success s => some ("success", .object [("message", .str s)])
  | warning s => some ("warning", .object [("message", .str s)])
  | error s => some ("error", .object [("message", .str s)])
  | section_ s => some ("section", .object [("title", .str s)])
  | status time label s =>
    some ("status", .object [("timestamp", .str time), ("label", .str label), ("message", .str s)])
  | note s => some ("note", .object [("message", .str s)])
  | hint s => some ("hint", .object [("message", .str s)])
  | raw _ => none
  | value _ => none

/-- Value that stands for a message in JSON mode. -/
def json? : Message → Option Json
  | value v => some v
  | m => m.payload?.map fun (kind, payload) =>
    .object [("type", .str kind), ("payload", payload)]

/-- Columns of a label. -/
def labelWidth : Nat := 12

/-- Decorated text; a quiet mode keeps warnings, errors and results for programs. -/
def text (mode : Mode) (m : Message) : String :=
  let loud (s : String) := if mode.isQuiet then "" else s
  match m with
  | field label v =>
    loud ("  " ++ mode.paint .dimmed (Text.padEnd labelWidth label) ++ " " ++ v ++ "\n")
  | success s => loud ("  " ++ mode.paint .green "✓" ++ " " ++ s ++ "\n")
  | warning s => "  " ++ mode.paint .yellow "⚠" ++ " " ++ s ++ "\n"
  | error s => "  " ++ mode.paint .red "×" ++ " " ++ s ++ "\n"
  | section_ s => loud ("\n" ++ mode.paint .bold s ++ "\n")
  | status time label s =>
    loud ("  " ++ mode.paint .dimmed time ++ " " ++ mode.paint .cyan label ++ " " ++ s ++ "\n")
  | note s => loud ("  " ++ mode.paint .dimmed s ++ "\n")
  | hint s =>
    loud ("  " ++ mode.paint .dimmed (mode.paint .cyan "hint") ++ ": " ++ mode.paint .dimmed s ++
      "\n")
  | raw s => loud s
  | value v => Json.compact v ++ "\n"

/-- Printed form. -/
def printed (mode : Mode) (m : Message) : String :=
  if mode.isJson then
    match m.json? with
    | some v => Json.compact v ++ "\n"
    | none => ""
  else m.text mode

/-- Message on its stream. -/
def print (mode : Mode) (m : Message) : Printed :=
  match m with
  | error _ => ⟨"", m.printed mode⟩
  | _ => ⟨m.printed mode, ""⟩

/-- Messages one after another. -/
def printAll (mode : Mode) (ms : List Message) : Printed :=
  ms.foldl (fun acc m => acc ++ m.print mode) .empty

end Message

end Fleet.Console
