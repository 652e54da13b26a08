import Fleet.Toml.Number
import Fleet.Toml.Table

/-!
# TOML documents

A document is a list of sections, each a header with assignments below it. Nesting deeper than 80 is
refused.

Sections are read one after another and set into the table that has grown so far
(`Section.attach?`), so what may be opened or set is decided in the order of the text. Comments may
stand at the end of any line.
-/

namespace Fleet.Toml

open Text (Reader)

/-- Levels of nesting that are still refused. -/
def depthLimit : Nat := 80

/-- Characters of a bare key. -/
def isBareKey (c : Char) : Bool := c.isAlphanum || c == '_' || c == '-'

/-- One part of a key. -/
def keyPart : Reader Key := do
  gap
  let start ← Reader.pos
  let text ← do
    match ← Reader.peek with
    | some '"' => lineString
    | some '\'' => lineString
    | _ => do
      let cs ← Reader.takeWhile isBareKey
      guard (cs ≠ [])
      pure (String.ofList cs)
  let stop ← Reader.pos
  gap
  pure ⟨text, ⟨start, stop⟩⟩

/-- Parts of a key between dots; `fuel` bounds their number. -/
def keyParts : Nat → Reader (List Key)
  | 0 => failure
  | fuel + 1 => do
    let k ← keyPart
    if ← Reader.accept ['.'] then pure (k :: (← keyParts fuel)) else pure [k]

/-- A dotted key: the path and the last part. -/
def dottedKey : Reader (List Key × Key) := do
  let ks ← keyParts (depthLimit - 1)
  match ks.getLast? with
  | some k => pure (ks.dropLast, k)
  | none => failure

/-- The rest of a line after a number sign. -/
def comment : Reader Unit := do
  if ← Reader.accept ['#'] then
    let _ ← Reader.takeWhile isPlain

/-- Blanks, comments and line ends between items. -/
def betweenItems : Nat → Reader Unit
  | 0 => pure ()
  | fuel + 1 => do
    gap
    match ← Reader.peek with
    | some '#' => do
      comment
      guard (← newline)
      betweenItems fuel
    | _ => if ← newline then betweenItems fuel

/-- Blanks, comments and line ends, as many as there are. -/
def anyBetween : Reader Unit := do
  betweenItems ((← Reader.rest).length + 1)

mutual
/-- A value with its bytes, at a depth that leaves `depth` levels. -/
def item : Nat → Nat → Reader Item
  | 0, _ => failure
  | fuel + 1, depth => do
    let start ← Reader.pos
    let v ← do
      match ← Reader.peek with
      | some '"' => do pure (.str (← anyString))
      | some '\'' => do pure (.str (← anyString))
      | some '[' => do
        Reader.check (1 < depth)
        Reader.skip 1
        pure (.array (← arrayItems fuel (depth - 1)))
      | some '\x7b' => do
        Reader.check (1 < depth)
        Reader.skip 1
        match inlineTable? (← inlineEntries fuel (depth - 1)) with
        | some t => pure t
        | none => failure
      | some 't' => do
        Reader.expect ['t', 'r', 'u', 'e']
        pure (.bool true)
      | some 'f' => do
        Reader.expect ['f', 'a', 'l', 's', 'e']
        pure (.bool false)
      | _ => numberOrMoment
    let stop ← Reader.pos
    pure (some ⟨start, stop⟩, v)

/-- Items up to the closing bracket; a comma may follow the last one. -/
def arrayItems : Nat → Nat → Reader (List Item)
  | 0, _ => failure
  | fuel + 1, depth => do
    anyBetween
    if ← Reader.accept [']'] then pure []
    else do
      let i ← item fuel depth
      anyBetween
      if ← Reader.accept [','] then pure (i :: (← arrayItems fuel depth))
      else do
        Reader.expect [']']
        pure [i]

/-- Assignments up to the closing brace. -/
def inlineEntries : Nat → Nat → Reader (List Assignment)
  | 0, _ => failure
  | fuel + 1, depth => do
    gap
    if ← Reader.accept ['\x7d'] then pure []
    else inlineAssignments fuel depth

/-- One assignment or more, commas between them. -/
def inlineAssignments : Nat → Nat → Reader (List Assignment)
  | 0, _ => failure
  | fuel + 1, depth => do
    let (path, key) ← dottedKey
    Reader.expect ['=']
    gap
    let i ← item fuel depth
    gap
    if ← Reader.accept [','] then pure (⟨path, key, i⟩ :: (← inlineAssignments fuel depth))
    else do
      Reader.expect ['\x7d']
      pure [⟨path, key, i⟩]
end

/-- The end of a line, with a comment before it or not. -/
def lineEnd : Reader Unit := do
  gap
  comment
  if ← newline then pure () else Reader.done

/-- An assignment on a line of its own. -/
def assignment : Reader Assignment := do
  let (path, key) ← dottedKey
  Reader.expect ['=']
  gap
  let i ← item (2 * (← Reader.rest).length + 2) depthLimit
  lineEnd
  pure ⟨path, key, i⟩

/-- A header, in single or double brackets. -/
def head : Reader Head := do
  let start ← Reader.pos
  let double ← Reader.accept ['[', '[']
  if !double then Reader.expect ['[']
  let (path, key) ← dottedKey
  if double then Reader.expect [']', ']'] else Reader.expect [']']
  let stop ← Reader.pos
  lineEnd
  pure (if double then .element path key ⟨start, stop⟩ else .table path key ⟨start, stop⟩)

/-- Sections from an open one on. -/
def sections : Nat → Section → Reader (List Section)
  | 0, _ => failure
  | fuel + 1, s => do
    gap
    match ← Reader.peek with
    | none => pure [s]
    | some '[' => do
      let h ← head
      pure (s :: (← sections fuel ⟨h, []⟩))
    | some '#' => do
      lineEnd
      sections fuel s
    | some c =>
      if c = '\n' ∨ c = '\r' then do
        guard (← newline)
        sections fuel s
      else do
        let a ← assignment
        sections fuel { s with body := s.body ++ [a] }

/-- A whole document, with or without a byte order mark. -/
def document : Reader Table := do
  let _ ← Reader.accept ['\ufeff']
  let ss ← sections ((← Reader.rest).length + 1) ⟨.root, []⟩
  match ss.foldlM Section.attach? (Table.empty .header) with
  | some t => pure t
  | none => failure

/-- The table that a text stands for. -/
def parse? (s : String) : Option Table := document.run? s

end Fleet.Toml
