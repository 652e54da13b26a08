import Fleet.Text.Split

/-!
# Tokens of a shell script

A script is cut into words and operators. A word is a row of pieces, each a text or a parameter.

Quotes are resolved here: a quoted text is a text like any other, and a parameter keeps whether it
stood in quotes, since the value of one that did is not split. Operators are read greedily, the
longest first, and a line feed is a token of its own, since it ends a command.
-/

namespace Fleet.Shell

/-- Part of a word. -/
inductive Piece where
  | text (chars : List Char)
  /-- A parameter, and what stands for it when it is empty. -/
  | param (name : String) (isQuoted : Bool) (fallback : Option String)
  deriving Repr, DecidableEq

/-- A word; its bare text if nothing in it is quoted or a parameter. -/
structure Word where
  pieces : List Piece
  bare : Option String
  deriving Repr, DecidableEq

/-- Part of a script. -/
inductive Token where
  | word (w : Word)
  | op (text : String)
  deriving Repr, DecidableEq

/-- A token and the number of its line. -/
structure Placed where
  token : Token
  line : Nat
  deriving Repr, DecidableEq

/-- Operators, the longer ones first. -/
def operators : List String :=
  ["&&", "||", ";;", ">>", ">&", "<&", "<<", ";", "&", "|", "(", ")", "<", ">", "\n"]

/-- Ends a word. -/
def isBreak (c : Char) : Bool :=
  [' ', '\t', '\n', ';', '&', '|', '(', ')', '<', '>'].contains c

/-- Part of a parameter's name. -/
def isNameChar (c : Char) : Bool := c.isAlphanum || c == '_'

/-- The parameter after a dollar sign: name, fallback and the rest. -/
def param? (cs : List Char) : Option ((String × Option String) × List Char) :=
  match cs with
  | '\x7b' :: r =>
    let inside := r.takeWhile (· ≠ '\x7d')
    let after := (r.dropWhile (· ≠ '\x7d')).drop 1
    let name := inside.takeWhile isNameChar
    let name := if name = [] then inside.take 1 else name
    match inside.drop name.length with
    | [] => if name = [] then none else some ((String.ofList name, none), after)
    | ':' :: '-' :: f => some ((String.ofList name, some (String.ofList f)), after)
    | _ => none
  | c :: r =>
    if c.isDigit || ['@', '*', '#', '?', '$', '!'].contains c then
      some ((String.singleton c, none), r)
    else
      let name := (c :: r).takeWhile isNameChar
      if name = [] then none else some ((String.ofList name, none), (c :: r).drop name.length)
  | [] => none

/-- Pieces between double quotes, up to the closing one. -/
def quoted? : Nat → List Char → Option (List Piece × List Char)
  | 0, _ => none
  | _ + 1, [] => none
  | _ + 1, '"' :: r => some ([], r)
  | fuel + 1, '\\' :: c :: r => do
    let (ps, rest) ← quoted? fuel r
    if c = '\n' then some (ps, rest)
    else if ['$', '`', '"', '\\'].contains c then some (.text [c] :: ps, rest)
    else some (.text ['\\', c] :: ps, rest)
  | fuel + 1, '$' :: r => do
    match param? r with
    | some ((name, fallback), r) =>
      let (ps, rest) ← quoted? fuel r
      some (.param name true fallback :: ps, rest)
    | none =>
      let (ps, rest) ← quoted? fuel r
      some (.text ['$'] :: ps, rest)
  | fuel + 1, c :: r => do
    let (ps, rest) ← quoted? fuel r
    some (.text [c] :: ps, rest)

/-- Pieces of a word, and whether all of it is bare. -/
def pieces? : Nat → List Char → Option ((List Piece × Bool) × List Char)
  | 0, _ => none
  | _ + 1, [] => some (([], true), [])
  | fuel + 1, c :: r =>
    if isBreak c then some (([], true), c :: r)
    else if c = '\\' then
      match r with
      | [] => some (([.text ['\\']], false), [])
      | '\n' :: r => pieces? fuel r
      | d :: r => do
        let ((ps, _), rest) ← pieces? fuel r
        some ((.text [d] :: ps, false), rest)
    else if c = '\'' then do
      let inside := r.takeWhile (· ≠ '\'')
      if inside.length = r.length then none
      let ((ps, _), rest) ← pieces? fuel (r.drop (inside.length + 1))
      some ((.text inside :: ps, false), rest)
    else if c = '"' then do
      let (inside, r) ← quoted? (r.length + 1) r
      let ((ps, _), rest) ← pieces? fuel r
      some (((if inside = [] then [.text []] else inside) ++ ps, false), rest)
    else if c = '`' then none
    else if c = '$' then do
      if r.head? = some '(' then none
      match param? r with
      | some ((name, fallback), r) =>
        let ((ps, _), rest) ← pieces? fuel r
        some ((.param name false fallback :: ps, false), rest)
      | none =>
        let ((ps, b), rest) ← pieces? fuel r
        some ((.text ['$'] :: ps, b), rest)
    else do
      let ((ps, b), rest) ← pieces? fuel r
      some ((.text [c] :: ps, b), rest)

/-- Bare text of pieces. -/
def bareText (ps : List Piece) : String :=
  String.ofList (ps.flatMap fun p => match p with
    | .text cs => cs
    | .param .. => [])

/-- Line feeds among characters. -/
def feeds (cs : List Char) : Nat := cs.count '\n'

/-- Tokens of characters that begin at a line. -/
def scan : Nat → Nat → List Char → Option (List Placed)
  | 0, _, _ => none
  | _ + 1, _, [] => some []
  | fuel + 1, line, c :: r =>
    if c = ' ' ∨ c = '\t' then scan fuel line r
    else if c = '#' then scan fuel line (r.dropWhile (· ≠ '\n'))
    else if c = '\\' ∧ r.head? = some '\n' then scan fuel (line + 1) (r.drop 1)
    else match operators.find? (fun o => o.toList.isPrefixOf (c :: r)) with
      | some o => do
        let rest ← scan fuel (line + feeds o.toList) ((c :: r).drop o.length)
        some (⟨.op o, line⟩ :: rest)
      | none => do
        let ((ps, isBare), rest) ← pieces? (r.length + 2) (c :: r)
        let taken := (c :: r).take (r.length + 1 - rest.length)
        let tokens ← scan fuel (line + feeds taken) rest
        some (⟨.word ⟨ps, if isBare then some (bareText ps) else none⟩, line⟩ :: tokens)

/-- Tokens of a script. -/
def tokens? (script : String) : Option (List Placed) :=
  scan (script.length + 1) 1 script.toList

end Fleet.Shell
