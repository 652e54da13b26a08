import Fleet.Shell.Token

/-!
# Shell programs

Tokens make commands: simple ones, and those built from others.

Programs are trees of commands: simple ones with assignments, words and redirections, and loops,
choices and lists of others. They are read by descent with fuel, one function for each kind
(`command?`, `choice?`, `list?` and so on). What is outside this part of the language makes the
script unreadable.
-/

namespace Fleet.Shell

/-- Where a stream is led. -/
inductive Target where
  | stream (fd : Nat)
  | file (w : Word)
  deriving Repr

/-- A stream led elsewhere. -/
structure Redirect where
  fd : Nat
  target : Target
  deriving Repr

/-- A command. -/
inductive Program where
  | skip
  | simple (line : Nat) (words : List Word) (redirects : List Redirect)
  | seq (a b : Program)
  | both (a b : Program)
  | either (a b : Program)
  | negated (a : Program)
  | pipe (a b : Program)
  | loop (test body : Program) (isUntil : Bool)
  | forEach (name : String) (words : Option (List Word)) (body : Program)
  | choose (test yes no : Program)
  | group (body : Program) (redirects : List Redirect)
  /-- One arm of a choice by pattern, and the arms after it. -/
  | arm (subject : Word) (patterns : List Word) (body next : Program)
  deriving Repr

namespace Program

/-- Tokens that are left. -/
abbrev Rest := List Placed

/-- Bare text of the next token. -/
def bare? : Rest → Option String
  | ⟨.word w, _⟩ :: _ => w.bare
  | _ => none

/-- Words that end a list of commands. -/
def closers : List String := ["then", "do", "done", "fi", "else", "elif", "esac", "\x7d"]

/-- Separators dropped. -/
def skipFeeds (ts : Rest) : Rest := ts.dropWhile (·.token = .op "\n")

/-- A bare word that has to come next. -/
def expectWord (w : String) (ts : Rest) : Option Rest :=
  if bare? ts = some w then some (ts.drop 1) else none

/-- Operators that lead streams elsewhere, with the stream they mean by default. -/
def redirectOps : List (String × Nat) := [(">", 1), (">>", 1), (">&", 1), ("<", 0)]

/-- A redirection of a stream, or of the operator's own. -/
def redirect? (fd : Option Nat) : Rest → Option (Redirect × Rest)
  | ⟨.op o, _⟩ :: ⟨.word w, _⟩ :: r => do
    let (_, own) ← redirectOps.find? (·.1 = o)
    let fd := fd.getD own
    if o = ">&" then
      let n ← w.bare.bind String.toNat?
      some (⟨fd, .stream n⟩, r)
    else some (⟨fd, .file w⟩, r)
  | _ => none

/-- Number of a stream that stands right before a redirection. -/
def streamOf? : Rest → Option Nat
  | ⟨.word w, _⟩ :: ⟨.op o, _⟩ :: _ =>
    if (redirectOps.find? (·.1 = o)).isSome then
      match w.bare with
      | some "1" => some 1
      | some "2" => some 2
      | _ => none
    else none
  | _ => none

/-- Words and redirections of a simple command. -/
def simple? : Nat → Rest → Option ((List Word × List Redirect) × Rest)
  | 0, _ => none
  | fuel + 1, ts =>
    match streamOf? ts with
    | some n => do
      let (d, r) ← redirect? (some n) (ts.drop 1)
      let ((ws, ds), r) ← simple? fuel r
      some ((ws, d :: ds), r)
    | none =>
      match redirect? none ts with
      | some (d, r) => do
        let ((ws, ds), r) ← simple? fuel r
        some ((ws, d :: ds), r)
      | none =>
        match ts with
        | ⟨.word w, _⟩ :: r => do
          let ((ws, ds), r) ← simple? fuel r
          some ((w :: ws, ds), r)
        | _ => some (([], []), ts)

/-- Words up to an operator. -/
def wordsOf : Rest → List Word × Rest
  | ⟨.word w, _⟩ :: r =>
    let (ws, rest) := wordsOf r
    (w :: ws, rest)
  | ts => ([], ts)

/-- Patterns of an arm, up to the closing parenthesis. -/
def patterns? : Rest → Option (List Word × Rest)
  | ⟨.word w, _⟩ :: ⟨.op o, _⟩ :: r =>
    if o = ")" then some ([w], r)
    else if o = "|" then (patterns? r).map fun (ws, r) => (w :: ws, r)
    else none
  | _ => none

/-- Redirections after a group. -/
def trailing (fuel : Nat) (ts : Rest) : List Redirect × Rest :=
  match simple? fuel ts with
  | some (([], ds), r) => (ds, r)
  | _ => ([], ts)

mutual
/-- Commands one after another. -/
def list? : Nat → Rest → Option (Program × Rest)
  | 0, _ => none
  | fuel + 1, ts =>
    let ts := ts.dropWhile fun t => t.token = .op "\n" || t.token = .op ";"
    match ts with
    | [] => some (.skip, [])
    | ⟨.op o, _⟩ :: _ =>
      if o = ")" ∨ o = ";;" then some (.skip, ts) else
        (andOr? fuel ts).bind fun (a, r) => (list? fuel r).map fun (b, r) => (.seq a b, r)
    | ts =>
      if closers.contains ((bare? ts).getD "") then some (.skip, ts)
      else (andOr? fuel ts).bind fun (a, r) => (list? fuel r).map fun (b, r) => (.seq a b, r)

/-- Pipelines that depend on one another. -/
def andOr? : Nat → Rest → Option (Program × Rest)
  | 0, _ => none
  | fuel + 1, ts => do
    let (a, r) ← pipeline? fuel ts
    links? fuel a r

/-- What follows a pipeline. -/
def links? : Nat → Program → Rest → Option (Program × Rest)
  | 0, _, _ => none
  | fuel + 1, a, ⟨.op o, l⟩ :: r =>
    if o = "&&" ∨ o = "||" then do
      let (b, r) ← pipeline? fuel (skipFeeds r)
      links? fuel (if o = "&&" then .both a b else .either a b) r
    else if o = ";" ∨ o = "\n" ∨ o = "&" then some (a, r)
    else if o = ";;" ∨ o = ")" then some (a, ⟨.op o, l⟩ :: r)
    else none
  | _ + 1, a, r => some (a, r)

/-- Commands joined by pipes. -/
def pipeline? : Nat → Rest → Option (Program × Rest)
  | 0, _ => none
  | fuel + 1, ts =>
    if bare? ts = some "!" then
      (pipeline? fuel (ts.drop 1)).map fun (a, r) => (.negated a, r)
    else do
      let (a, r) ← command? fuel ts
      match r with
      | ⟨.op "|", _⟩ :: r => (pipeline? fuel (skipFeeds r)).map fun (b, r) => (.pipe a b, r)
      | r => some (a, r)

/-- One command. -/
def command? : Nat → Rest → Option (Program × Rest)
  | 0, _ => none
  | fuel + 1, ts =>
    match bare? ts, ts with
    | some "for", _ :: ⟨.word name, _⟩ :: r => do
      let name ← name.bare
      let r := r.dropWhile (·.token = .op "\n")
      let (words, r) := if bare? r = some "in" then
          let (ws, r) := wordsOf (r.drop 1)
          (some ws, r)
        else (none, r)
      let r ← expectWord "do" (r.dropWhile fun t => t.token = .op "\n" || t.token = .op ";")
      let (body, r) ← list? fuel r
      let r ← expectWord "done" r
      let (ds, r) := trailing fuel r
      some (.group (.forEach name words body) ds, r)
    | some "while", _ :: r => do
      let (test, r) ← list? fuel r
      let (body, r) ← list? fuel (← expectWord "do" r)
      some (.loop test body false, ← expectWord "done" r)
    | some "until", _ :: r => do
      let (test, r) ← list? fuel r
      let (body, r) ← list? fuel (← expectWord "do" r)
      some (.loop test body true, ← expectWord "done" r)
    | some "if", _ :: r => choice? fuel r
    | some "case", _ :: ⟨.word subject, _⟩ :: r => do
      let r ← expectWord "in" (skipFeeds r)
      arms? fuel subject r
    | some "\x7b", _ :: r => do
      let (body, r) ← list? fuel r
      let r ← expectWord "\x7d" r
      let (ds, r) := trailing fuel r
      some (.group body ds, r)
    | _, ⟨.op "(", _⟩ :: r => do
      let (body, r) ← list? fuel r
      match r with
      | ⟨.op ")", _⟩ :: r =>
        let (ds, r) := trailing fuel r
        some (.group body ds, r)
      | _ => none
    | _, t :: _ => do
      let ((ws, ds), r) ← simple? (ts.length + 1) ts
      if ws = [] ∧ ds.isEmpty then none
      some (.simple t.line ws ds, r)
    | _, [] => none

/-- A choice after its first word. -/
def choice? : Nat → Rest → Option (Program × Rest)
  | 0, _ => none
  | fuel + 1, ts => do
    let (test, r) ← list? fuel ts
    let (yes, r) ← list? fuel (← expectWord "then" r)
    match bare? r with
    | some "fi" => some (.choose test yes .skip, r.drop 1)
    | some "elif" => do
      let (no, r) ← choice? fuel (r.drop 1)
      some (.choose test yes no, r)
    | some "else" => do
      let (no, r) ← list? fuel (r.drop 1)
      some (.choose test yes no, ← expectWord "fi" r)
    | _ => none

/-- Arms of a choice by pattern. -/
def arms? : Nat → Word → Rest → Option (Program × Rest)
  | 0, _, _ => none
  | fuel + 1, subject, ts => do
    let ts := skipFeeds ts
    if bare? ts = some "esac" then some (.skip, ts.drop 1)
    else
      let ts := if (ts.head?.map (·.token)) = some (.op "(") then ts.drop 1 else ts
      let (patterns, r) ← patterns? ts
      let (body, r) ← list? fuel r
      let r := match r with
        | ⟨.op ";;", _⟩ :: r => r
        | r => r
      let (next, r) ← arms? fuel subject r
      some (.arm subject patterns body next, r)
end

/-- Program of a script. -/
def parse? (script : String) : Option Program := do
  let ts ← tokens? script
  let (p, r) ← list? (8 * ts.length + 8) ts
  if r = [] then some p else none

end Program

end Fleet.Shell
