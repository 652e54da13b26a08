import Fleet.Files.Tree
import Fleet.Shell.Program
import Fleet.Text.Blank

/-!
# Running shell programs

A program runs in a state: its arguments, its variables, what it has written and how it ends.
Standard input is empty unless a pipe fills it.

Running has fuel, which bounds its depth and so the turns of a loop. Words are expanded first
(`expand`): parameters are replaced, and the value of one outside quotes is split at blanks. Only
commands that the shell itself has are known and a few programs that scripts rely on (`builtin`);
any other name is not found.
-/

namespace Fleet.Shell

/-- How a program ends. -/
inductive Ending where
  | exit (code : Nat)
  | killed
  deriving Repr, DecidableEq

/-- Where bytes go. -/
inductive Sink where
  | output
  | errors
  | pipe
  | nowhere
  deriving Repr, DecidableEq

/-- State of a run. -/
structure State where
  files : Files.Tree
  name : String
  args : List String
  vars : List (String × String)
  status : Nat
  input : ByteArray
  output : ByteArray
  errors : ByteArray
  piped : ByteArray
  /-- Sinks of the two streams. -/
  first : Sink
  second : Sink
  /-- Milliseconds slept. -/
  slept : Nat
  ending : Option Ending

namespace State

/-- Start of a run. -/
def start (files : Files.Tree) (name : String) (args : List String) : State :=
  ⟨files, name, args, [], 0, .empty, .empty, .empty, .empty, .output, .errors, 0, none⟩

/-- Value of a parameter. -/
def value (s : State) (name : String) : String :=
  match name with
  | "@" | "*" => Text.join " " s.args
  | "#" => toString s.args.length
  | "?" => toString s.status
  | "$" => "1"
  | "0" => s.name
  | _ =>
    match name.toNat? with
    | some n => s.args.getD (n - 1) ""
    | none => ((s.vars.find? (·.1 = name)).map (·.2)).getD ""

/-- A variable set. -/
def assign (s : State) (name value : String) : State :=
  { s with vars := (name, value) :: s.vars.filter (·.1 ≠ name) }

/-- Bytes written to a sink. -/
def put (s : State) (sink : Sink) (bytes : ByteArray) : State :=
  match sink with
  | .output => { s with output := s.output ++ bytes }
  | .errors => { s with errors := s.errors ++ bytes }
  | .pipe => { s with piped := s.piped ++ bytes }
  | .nowhere => s

/-- Bytes written to the first stream. -/
def print (s : State) (bytes : ByteArray) : State := { s.put s.first bytes with status := 0 }

/-- A complaint on the second stream, and a status. -/
def complain (s : State) (line : Nat) (text : String) (status : Nat) : State :=
  { s.put s.second (s.name ++ ": " ++ toString line ++ ": " ++ text ++ "\n").toUTF8 with status }

/-- A status set. -/
def withStatus (s : State) (b : Bool) : State := { s with status := if b then 0 else 1 }

end State

/-- Fields that a word has made so far, and the one that is open. -/
structure Fields where
  done : List (List Char)
  current : Option (List Char)

namespace Fields

/-- Characters added to the open field. -/
def add (f : Fields) (cs : List Char) : Fields :=
  { f with current := some (f.current.getD [] ++ cs) }

/-- The open field closed. -/
def close (f : Fields) : Fields := ⟨f.done ++ f.current.toList, none⟩

/-- A value added whose blanks end fields. -/
def addSplit (f : Fields) (cs : List Char) : Fields :=
  cs.foldl (fun f c => if c = ' ' ∨ c = '\t' ∨ c = '\n' then f.close else f.add [c]) f

/-- Values added, each from the second on a field of its own. -/
def addAll (f : Fields) : List (List Char) → Fields
  | [] => f
  | [v] => f.add v
  | v :: r => ((f.add v).close).addAll r

end Fields

/-- Fields with one more piece. -/
def expandPiece (s : State) (f : Fields) : Piece → Fields
  | .text cs => f.add cs
  | .param name isQuoted fallback =>
    if name = "@" ∧ isQuoted then f.addAll (s.args.map String.toList)
    else
      let v := s.value name
      let v := if v = "" then fallback.getD "" else v
      if isQuoted then f.add v.toList else f.addSplit v.toList

/-- Fields of a word. -/
def expand (s : State) (w : Word) : List String :=
  ((w.pieces.foldl (expandPiece s) ⟨[], none⟩).close).done.map String.ofList

/-- Text of a word that makes one field. -/
def expandOne (s : State) (w : Word) : String := Text.join " " (expand s w)

/-- Name and value pieces of a word that sets a variable. -/
def assignment? (w : Word) : Option (String × List Piece) :=
  let texts := w.pieces.takeWhile fun p => match p with
    | .text _ => true
    | .param .. => false
  let cs := texts.flatMap fun p => match p with
    | .text cs => cs
    | .param .. => []
  let name := cs.takeWhile isNameChar
  if name = [] ∨ (name.head?.map Char.isDigit) = some true then none
  else match cs.drop name.length with
    | '=' :: v => some (String.ofList name, .text v :: w.pieces.drop texts.length)
    | _ => none

/-- Octal digits taken from the front, at most `n`. -/
def octal (n : Nat) (cs : List Char) : Nat × List Char :=
  let ds := (cs.take n).takeWhile fun c => '0' ≤ c ∧ c ≤ '7'
  (ds.foldl (fun acc c => acc * 8 + (c.toNat - 48)) 0, cs.drop ds.length)

/-- Bytes of a character. -/
def charBytes (c : Char) : List UInt8 := (String.singleton c).toUTF8.toList

/-- Bytes of a text with escapes; `isEcho` for those whose octal digits follow a zero and that can
end all output. The flag says whether it did. -/
def unescape (isEcho : Bool) : Nat → List Char → List UInt8 × Bool
  | 0, _ => ([], false)
  | _ + 1, [] => ([], false)
  | fuel + 1, '\\' :: c :: r =>
    let one (b : UInt8) (r : List Char) :=
      let (bs, ended) := unescape isEcho fuel r
      (b :: bs, ended)
    match c with
    | 'a' => one 7 r
    | 'b' => one 8 r
    | 'f' => one 12 r
    | 'n' => one 10 r
    | 'r' => one 13 r
    | 't' => one 9 r
    | 'v' => one 11 r
    | '\\' => one 92 r
    | _ =>
      if c = 'c' ∧ isEcho then ([], true)
      else if '0' ≤ c ∧ c ≤ '7' then
        let (n, r) :=
          octal 3 (if c = '0' ∧ isEcho ∧ (octal 1 r).2.length < r.length then r else c :: r)
        one (UInt8.ofNat n) r
      else
        let (bs, ended) := unescape isEcho fuel (c :: r)
        (92 :: bs, ended)
  | fuel + 1, c :: r =>
    let (bs, ended) := unescape isEcho fuel r
    (charBytes c ++ bs, ended)

/-- Bytes as an array. -/
def bytes (bs : List UInt8) : ByteArray := ⟨bs.toArray⟩

/-- Output of `echo`. -/
def echoOf (args : List String) : ByteArray :=
  let (isShort, args) := if args.head? = some "-n" then (true, args.drop 1) else (false, args)
  let text := Text.join " " args
  let (bs, ended) := unescape true (text.length + 1) text.toList
  bytes (if ended || isShort then bs else bs ++ [10])

/-- Text widened with blanks. -/
def widen (spec : List Char) (cs : List UInt8) : List UInt8 :=
  let isLeft := spec.head? = some '-'
  let width := (String.ofList (spec.dropWhile (· = '-'))).toNat?.getD 0
  let blanks := List.replicate (width - cs.length) 32
  if isLeft then cs ++ blanks else blanks ++ cs

/-- One pass of a format over arguments: what it writes and the arguments that are left. -/
def formatOnce : Nat → List Char → List String → List UInt8 × List String
  | 0, _, args => ([], args)
  | _ + 1, [], args => ([], args)
  | fuel + 1, '%' :: r, args =>
    let spec := r.takeWhile fun c => c.isDigit || c == '-'
    match r.drop spec.length with
    | '%' :: r =>
      let (bs, left) := formatOnce fuel r args
      (37 :: bs, left)
    | c :: r =>
      let arg := args.head?.getD ""
      let shown : List UInt8 := match c with
        | 'd' => (toString (arg.toInt?.getD 0)).toUTF8.toList
        | 'c' => (arg.toUTF8.toList).take 1
        | 'b' => (unescape true (arg.length + 1) arg.toList).1
        | _ => arg.toUTF8.toList
      let (bs, left) := formatOnce fuel r (args.drop 1)
      (widen spec shown ++ bs, left)
    | [] => ([37], args)
  | fuel + 1, '\\' :: c :: r, args =>
    let taken := if '0' ≤ c ∧ c ≤ '7' then r.length - (octal 2 r).2.length else 0
    let (bs, left) := formatOnce fuel (r.drop taken) args
    ((unescape false 8 ('\\' :: c :: r.take taken)).1 ++ bs, left)
  | fuel + 1, c :: r, args =>
    let (bs, left) := formatOnce fuel r args
    (charBytes c ++ bs, left)

/-- A format used until no arguments are left. -/
def formatAll : Nat → List Char → List String → List UInt8
  | 0, _, _ => []
  | fuel + 1, format, args =>
    let (bs, left) := formatOnce (format.length + 1) format args
    if left = [] ∨ left.length = args.length then bs else bs ++ formatAll fuel format left

/-- Truth of a test. -/
def holds (files : Files.Tree) : List String → Bool
  | [] => false
  | ["!", a] => a = ""
  | ["-n", a] => a ≠ ""
  | ["-z", a] => a = ""
  | ["-e", a] => files.holds a
  | ["-f", a] => (files.read a).isOk
  | [a] => a ≠ ""
  | ["!", op, a] => !(if op = "-z" then a = "" else a ≠ "")
  | [a, op, b] =>
    let m := a.toInt?.getD 0
    let n := b.toInt?.getD 0
    match op with
    | "=" => a = b
    | "!=" => a ≠ b
    | "-eq" => m = n
    | "-ne" => m ≠ n
    | "-lt" => m < n
    | "-le" => m ≤ n
    | "-gt" => m > n
    | "-ge" => m ≥ n
    | _ => false
  | _ => false

/-- A text matches a pattern of stars and question marks. -/
def isMatch : List Char → List Char → Bool
  | [], cs => cs.isEmpty
  | '*' :: p, cs => (List.range (cs.length + 1)).any fun n => isMatch p (cs.drop n)
  | _ :: _, [] => false
  | p :: ps, c :: cs => (p = '?' ∨ p = c) && isMatch ps cs

/-- Signals that end nothing. -/
def harmless : List String := ["-0", "-CHLD", "-17", "-CONT", "-18", "-WINCH", "-28", "-URG", "-23"]

/-- Bytes of named files one after another, or of the input. -/
def catenate (s : State) (names : List String) : State :=
  if names = [] then { s.print s.input with input := .empty }
  else names.foldl (fun s name =>
    if name = "-" then { s.put s.first s.input with input := .empty }
    else match s.files.read name with
      | .ok content => s.put s.first content
      | .error e =>
        let text := (e.message.splitOn " (os error").head?.getD ""
        { s.put s.second ("cat: " ++ name ++ ": " ++ text ++ "\n").toUTF8 with status := 1 })
    { s with status := 0 }

/-- A command that is known by name. -/
def builtin (s : State) (line : Nat) : List String → State
  | [] => s
  | name :: args =>
    match name with
    | ":" | "true" | "set" | "export" | "trap" | "umask" => { s with status := 0 }
    | "false" => { s with status := 1 }
    | "echo" => s.print (echoOf args)
    | "printf" =>
      match args with
      | [] => s.complain line "printf: usage: printf format [arg ...]" 2
      | f :: rest => s.print (bytes (formatAll (rest.length + 1) f.toList rest))
    | "cat" => catenate s args
    | "exit" =>
      match args with
      | [] => { s with ending := some (.exit s.status) }
      | a :: _ =>
        match a.toNat? with
        | some n => { s with ending := some (.exit (n % 256)) }
        | none =>
          { s.complain line ("exit: Illegal number: " ++ a) 2 with ending := some (.exit 2) }
    | "shift" =>
      { s with args := s.args.drop ((args.head?.bind String.toNat?).getD 1), status := 0 }
    | "sleep" =>
      let t := (args.head?.getD "0").splitOn "."
      let whole := ((t.head?.bind String.toNat?).getD 0) * 1000
      let part := (((t.getD 1 "") ++ "000").take 3).toNat?.getD 0
      { s with slept := s.slept + whole + part, status := 0 }
    | "test" => s.withStatus (holds s.files args)
    | "[" =>
      if args.getLast? = some "]" then s.withStatus (holds s.files args.dropLast)
      else s.complain line "[: missing ]" 2
    | "kill" =>
      if harmless.contains (args.head?.getD "") then { s with status := 0 }
      else if args.getLast? = some "1" then { s with ending := some .killed }
      else { s with status := 1 }
    | _ => s.complain line (name ++ ": not found") 127

/-- Streams led elsewhere, in order. -/
def lead (s : State) (ds : List Redirect) : State :=
  ds.foldl (fun s d =>
    let sink : Sink := match d.target with
      | .stream 1 => s.first
      | .stream 2 => s.second
      | _ => .nowhere
    match d.fd with
    | 1 => { s with first := sink }
    | 2 => { s with second := sink }
    | _ => s) s

/-- Words of a simple command run. -/
def runSimple (s : State) (line : Nat) (words : List Word) (ds : List Redirect) : State :=
  let sets := words.takeWhile fun w => (assignment? w).isSome
  let s := sets.foldl (fun s w =>
    match assignment? w with
    | some (name, ps) => s.assign name (expandOne s ⟨ps, none⟩)
    | none => s) s
  let args := (words.drop sets.length).flatMap (expand s)
  let after := builtin (lead s ds) line args
  { after with first := s.first, second := s.second }

namespace Program

/-- A program run; `fuel` bounds the depth of the run. -/
def run : Nat → Program → State → State
  | 0, _, s => s
  | fuel + 1, p, s =>
    if s.ending.isSome then s
    else match p with
      | .skip => s
      | .simple line words ds => runSimple s line words ds
      | .seq a b => run fuel b (run fuel a s)
      | .both a b =>
        let s := run fuel a s
        if s.status = 0 then run fuel b s else s
      | .either a b =>
        let s := run fuel a s
        if s.status = 0 then s else run fuel b s
      | .negated a =>
        let s := run fuel a s
        s.withStatus (s.status ≠ 0)
      | .pipe a b =>
        let t := run fuel a { s with first := .pipe, piped := .empty }
        run fuel b { t with
          first := s.first, second := s.second, input := t.piped, piped := s.piped
          args := s.args, vars := s.vars
          ending := if t.ending = some .killed then t.ending else none }
      | .loop test body isUntil =>
        let s := run fuel test s
        if (s.status = 0) ≠ isUntil then run fuel p (run fuel body s) else { s with status := 0 }
      | .forEach name words body =>
        let values := match words with
          | some ws => ws.flatMap (expand s)
          | none => s.args
        values.foldl (fun s v => if s.ending.isSome then s else run fuel body (s.assign name v)) s
      | .choose test yes no =>
        let s := run fuel test s
        if s.status = 0 then run fuel yes s else run fuel no { s with status := 0 }
      | .group body ds =>
        let t := run fuel body (lead s ds)
        { t with first := s.first, second := s.second }
      | .arm subject patterns body next =>
        let text := (expandOne s subject).toList
        if patterns.any fun w => isMatch (expandOne s w).toList text then run fuel body s
        else run fuel next s

/-- Depth that a run may reach. -/
def depth : Nat := 20000

end Program

/-- A script run to its end. -/
def runScript (files : Files.Tree) (name : String) (args : List String) (script : String) : State :=
  let s := State.start files name args
  match Program.parse? script with
  | some p => p.run Program.depth s
  | none => s.complain 1 "Syntax error" 2

end Fleet.Shell
