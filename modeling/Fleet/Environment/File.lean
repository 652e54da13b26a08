import Fleet.Environment
import Fleet.Text.Blank

/-!
# Files of variables

A file sets variables that are not set yet, one on a line; a quoted value may take several lines.
Reading ends at the first line that cannot be read, and what was set before stays set.

A line sets a variable by a name, an equals sign and a value. The value is read character by
character (`Value.step?`) in a state that knows whether a quote is open, whether the last character
was a backslash, and how far a reference to another variable has come. Text that a reference names
is that of the environment or of the file so far.
-/

namespace Fleet.Environment.File

/-- Where the reading of a line stands. -/
inductive Place where
  | plain
  | blank
  | escaped
  | single
  | singleEscaped
  | double
  | doubleEscaped
  deriving Repr, DecidableEq

/-- The place after a character; none at the start of a comment. -/
def Place.next? (p : Place) (c : Char) : Option Place :=
  let opened : Place :=
    if c = '\\' then .escaped
    else if c = '"' then .double
    else if c = '\'' then .single
    else .plain
  match p with
  | .blank => if c = '#' then none else some opened
  | .plain =>
    some (if Text.isBlank c ∧ c ≠ '\n' ∧ c ≠ '\r' then .blank else opened)
  | .escaped => some .plain
  | .double => some (if c = '\\' then .doubleEscaped else if c = '"' then .plain else .double)
  | .doubleEscaped => some .double
  | .single => some (if c = '\\' then .singleEscaped else if c = '\'' then .plain else .single)
  | .singleEscaped => some .single

/-- How a line ends. -/
inductive LineEnd where
  | at_ (p : Place)
  | comment (before : List Char)
  deriving Repr

/-- End of a line that starts at a place. -/
def lineEnd (p : Place) : List Char → LineEnd
  | [] => .at_ p
  | c :: r =>
    match p.next? c with
    | none => .comment []
    | some q =>
      match lineEnd q r with
      | .comment before => .comment (c :: before)
      | e => e

/-- A line without its end. -/
def chomp (cs : List Char) : List Char :=
  if cs.getLast? = some '\n' then
    let cs := cs.dropLast
    if cs.getLast? = some '\r' then cs.dropLast else cs
  else cs

/-- Entries of lines, each line with its end; the flag says whether all lines were used. -/
def joinLines (p : Place) (held : List Char) : List (List Char) → List (List Char) × Bool
  | [] => ([], p = .plain)
  | l :: r =>
    let all := held ++ l
    if (Text.trimStart all).head? = some '#' then joinLines .plain [] r
    else match lineEnd p l with
      | .comment before =>
        let (es, done) := joinLines .plain [] r
        ((held ++ before) :: es, done)
      | .at_ .plain =>
        let (es, done) := joinLines .plain [] r
        (chomp all :: es, done)
      | .at_ q => joinLines q all r

/-- Part of a name. -/
def isNameChar (c : Char) : Bool := c.isAlphanum || c == '_' || c == '.'

/-- A name at the front. -/
def name? (cs : List Char) : Option (String × List Char) :=
  match cs with
  | c :: _ =>
    if c.isAlpha ∨ c = '_' then
      let n := cs.takeWhile isNameChar
      some (String.ofList n, cs.drop n.length)
    else none
  | [] => none

/-- What follows an equals sign, after blanks. -/
def afterEquals? (cs : List Char) : Option (List Char) :=
  match Text.trimStart cs with
  | '=' :: r => some (Text.trimStart r)
  | _ => none

/-- Whether a reference to a variable is being read, and in which form. -/
inductive Reference where
  | none
  | bare
  | braced
  deriving Repr, DecidableEq

/-- A value that is being read. -/
structure Value where
  isSingle : Bool
  isDouble : Bool
  isEscaped : Bool
  isEnded : Bool
  reference : Reference
  name : List Char
  text : List Char

/-- Nothing read of a value. -/
def Value.start : Value := ⟨false, false, false, false, .none, [], []⟩

/-- A character added. -/
def Value.push (v : Value) (c : Char) : Value := { v with text := v.text ++ [c] }

/-- The referenced variable's value added. -/
def Value.refer (v : Value) (lookup : String → String) : Value :=
  { v with
    text := v.text ++ (lookup (String.ofList v.name)).toList, name := [], reference := .none }

/-- Part of the name of a bare reference: a letter or a digit, of any script. -/
def isReferenceChar (c : Char) : Bool := c.isAlphanum || 0xc0 ≤ c.toNat

/-- A value with one more character; none if it has no place there. -/
def Value.step? (lookup : String → String) (v : Value) (c : Char) : Option Value :=
  if v.isEnded then
    if c = ' ' ∨ c = '\t' then some v else none
  else if v.isEscaped then
    let v := { v with isEscaped := false }
    if ['\\', '\'', '"', '$', ' '].contains c then some (v.push c)
    else if c = 'n' then some (v.push '\n')
    else none
  else if v.isSingle then
    some (if c = '\'' then { v with isSingle := false } else v.push c)
  else if v.reference ≠ .none then
    if isReferenceChar c then some { v with name := v.name ++ [c] }
    else if v.reference = .braced then
      some (if c = '\x7d' then v.refer lookup else { v with name := v.name ++ [c] })
    else if c = '\x7b' ∧ v.name = [] then some { v with reference := .braced }
    else
      let v := v.refer lookup
      some (if c = '$' then { v with reference := .bare } else v.push c)
  else if c = '$' then some { v with reference := .bare }
  else if v.isDouble then
    some (if c = '"' then { v with isDouble := false }
      else if c = '\\' then { v with isEscaped := true }
      else v.push c)
  else if c = '\'' then some { v with isSingle := true }
  else if c = '"' then some { v with isDouble := true }
  else if c = '\\' then some { v with isEscaped := true }
  else if c = ' ' ∨ c = '\t' then some { v with isEnded := true }
  else some (v.push c)

/-- Text of a value. A comment may follow it after a blank. -/
def value? (lookup : String → String) : Value → List Char → Option String
  | v, [] =>
    if v.reference = .braced ∨ v.isSingle ∨ v.isDouble then none
    else some (String.ofList (v.refer lookup).text)
  | v, c :: r =>
    if v.isEnded ∧ c = '#' then value? lookup v []
    else (v.step? lookup c).bind fun v => value? lookup v r

/-- Name and value of an entry: no entry on a blank line, none if it is malformed. -/
def entry? (lookup : String → String) (line : List Char) : Option (Option (String × String)) :=
  let cs := Text.trimStart line
  if cs = [] ∨ cs.head? = some '#' then some none
  else do
    let (name, r) ← name? cs
    let (name, r) ← match afterEquals? r with
      | some r => some (name, r)
      | none =>
        if name = "export" then do
          let (name, r) ← name? (Text.trimStart r)
          some (name, ← afterEquals? r)
        else none
    if r = [] ∨ r.head? = some '#' then some (some (name, ""))
    else some (some (name, ← value? lookup .start r))

/-- Variables set by entries up to the first malformed one; `seen` holds all that the file has
set. -/
def apply (env : Environment) (seen : List (String × String)) : List (List Char) → Environment
  | [] => env
  | l :: r =>
    let lookup (name : String) : String :=
      (env.get? name).getD (((seen.find? (·.1 = name)).map (·.2)).getD "")
    match entry? lookup l with
    | none => env
    | some none => apply env seen r
    | some (some (name, value)) => apply (env.setNew name value) ((name, value) :: seen) r

/-- Lines of bytes with their ends, up to the first that is no text. -/
def textLines (bytes : List UInt8) : List (List Char) :=
  let rec cut : List UInt8 → List (List UInt8)
    | [] => []
    | b :: r =>
      match cut r with
      | [] => [[b]]
      | l :: ls => if b = 10 then [b] :: l :: ls else (b :: l) :: ls
  ((cut bytes).map fun l => String.fromUTF8? ⟨l.toArray⟩).takeWhile Option.isSome |>.filterMap
    (·.map String.toList)

/-- Bytes without the mark of their order. -/
def dropMark (bytes : List UInt8) : List UInt8 :=
  if [0xef, 0xbb, 0xbf].isPrefixOf bytes then bytes.drop 3 else bytes

/-- Variables after a file was read. -/
def load (env : Environment) (bytes : ByteArray) : Environment :=
  apply env [] (joinLines .plain [] (textLines (dropMark bytes.toList))).1

end Fleet.Environment.File
