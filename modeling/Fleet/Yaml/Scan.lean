import Fleet.Yaml.Token

/-!
# Reading YAML tokens

A scanner goes through the text once. Where a scalar may turn out to be a key it keeps the place, so
that the key's mark and the start of its block can be set in front of it when the colon comes.

Indentation decides where blocks begin and end: a column right of the innermost block opens one
(`openBlock`), a column left of it closes those it leaves (`closeBlocks`). Inside brackets there are
no blocks. A candidate for a key is dropped after a line end or too many characters, and is an error
only where a key was required.

Scalars have five styles, each read by a function of its own: plain, single and double quotes, and
literal and folded blocks. Breaks inside them are folded as the style asks for.
-/

namespace Fleet.Yaml

/-- A place at which a key may have begun. -/
structure Candidate where
  /-- Number of tokens before the key. -/
  token : Nat
  index : Nat
  line : Nat
  column : Nat
  /-- Nothing else can stand there. -/
  required : Bool
  deriving Repr

/-- What a scanner knows. -/
structure Scan where
  rest : List Char
  index : Nat
  line : Nat
  column : Nat
  tokens : Array Token
  /-- Columns of the open blocks, innermost first. -/
  indents : List Int
  /-- Possible keys, one for every flow level, innermost first. -/
  candidates : List (Option Candidate)
  /-- A key may begin here. -/
  keyAllowed : Bool
  deriving Repr

/-- A step of the scanner. -/
abbrev Scanner := StateT Scan Option

namespace Scan

/-- Scanner at the start of a text. -/
def start (cs : List Char) : Scan := ⟨cs, 0, 0, 0, #[], [], [none], true⟩

/-- Column of the innermost block. -/
def indent (s : Scan) : Int := s.indents.headD (-1)

/-- Number of open brackets and braces. -/
def flowLevel (s : Scan) : Nat := s.candidates.length - 1

/-- The next character is the given one. -/
def startsWith (s : Scan) (c : Char) : Bool := s.rest.head? == some c

end Scan

/-- Ends a line. -/
def isBreak (c : Char) : Bool :=
  c == '\n' || c == '\r' || c == '\u0085' || c == '\u2028' || c == '\u2029'

/-- A space or a tab. -/
def isBlank (c : Char) : Bool := c == ' ' || c == '\t'

/-- A blank, a break or the end comes first. -/
def blankNext : List Char → Bool
  | [] => true
  | c :: _ => isBlank c || isBreak c

/-- A break or the end comes first. -/
def breakNext : List Char → Bool
  | [] => true
  | c :: _ => isBreak c

/-- Characters of names. -/
def isName (c : Char) : Bool := c.isAlphanum || c == '_' || c == '-'

/-- Characters a document may hold. -/
def isPermitted (c : Char) : Bool :=
  let n := c.toNat
  n == 0x09 || n == 0x0a || n == 0x0d || (0x20 ≤ n && n ≤ 0x7e) || n == 0x85 ||
    (0xa0 ≤ n && n ≤ 0xd7ff) || (0xe000 ≤ n && n ≤ 0xfffd && n != 0xfeff) || 0x10000 ≤ n

namespace Scanner

/-- What is left of the text. -/
def rest : Scanner (List Char) := return (← get).rest

/-- Some characters passed over. -/
def skip (n : Nat) : Scanner Unit := modify fun s =>
  { s with rest := s.rest.drop n, index := s.index + n, column := s.column + n }

/-- The next character taken. -/
def take : Scanner Char := do
  match ← rest with
  | [] => failure
  | c :: _ => do
    skip 1
    pure c

/-- A break taken, as it counts in text; nothing at the end. -/
def takeBreak : Scanner (List Char) := do
  let s ← get
  let step (n : Nat) (r : List Char) (kept : List Char) : Scanner (List Char) := do
    set { s with rest := r, index := s.index + n, column := 0, line := s.line + 1 }
    pure kept
  match s.rest with
  | '\r' :: '\n' :: r => step 2 r ['\n']
  | c :: r =>
    if c = '\u2028' ∨ c = '\u2029' then step 1 r [c]
    else if isBreak c then step 1 r ['\n']
    else pure []
  | [] => pure []

/-- Characters that satisfy a test, taken. -/
def takeWhile (p : Char → Bool) : Scanner (List Char) := do
  let cs := (← rest).takeWhile p
  skip cs.length
  pure cs

/-- Blanks passed over. -/
def skipBlanks : Scanner Unit := do
  let _ ← takeWhile isBlank

/-- A comment passed over if one comes. -/
def skipComment : Scanner Unit := do
  if (← get).startsWith '#' then
    let _ ← takeWhile (!isBreak ·)

/-- A token at the end of those read. -/
def push (t : Token) : Scanner Unit := modify fun s => { s with tokens := s.tokens.push t }

/-- A token in front of those read from a place on. -/
def insertAt (n : Nat) (t : Token) : Scanner Unit := modify fun s =>
  { s with tokens := (s.tokens.extract 0 n).push t ++ s.tokens.extract n s.tokens.size }

/-- Whether a key may begin from here on. -/
def allowKey (b : Bool) : Scanner Unit := modify fun s => { s with keyAllowed := b }

/-- Blocks closed whose column is right of the given one. -/
def closeBlocks (column : Int) : Scanner Unit := modify fun s =>
  if s.flowLevel ≠ 0 then s
  else
    let closed := (s.indents.takeWhile (column < ·)).length
    { s with
      indents := s.indents.drop closed
      tokens := s.tokens ++ Array.replicate closed .blockEnd }

/-- A block opened at a column right of the innermost one, in front of the tokens from a place
on. -/
def openBlock (column : Int) (place : Nat) (t : Token) : Scanner Unit := do
  let s ← get
  if s.flowLevel = 0 ∧ s.indent < column then do
    set { s with indents := column :: s.indents }
    insertAt place t

/-- The innermost possible key given up; one that is required must not be. -/
def dropCandidate : Scanner Unit := do
  let s ← get
  match s.candidates with
  | some c :: r => do
    guard (!c.required)
    set { s with candidates := none :: r }
  | _ => pure ()

/-- The place kept as a possible key, if one may begin here. -/
def saveCandidate : Scanner Unit := do
  let s ← get
  if s.keyAllowed then do
    dropCandidate
    let here : Candidate :=
      { token := s.tokens.size, index := s.index, line := s.line, column := s.column
        required := s.flowLevel == 0 && s.indent == s.column }
    modify fun s => { s with candidates := some here :: s.candidates.drop 1 }

/-- Longest key in characters. -/
def keyLimit : Nat := 1024

/-- Possible keys on earlier lines, or too long, given up. -/
def dropStale : Scanner Unit := do
  let s ← get
  let stale (c : Candidate) : Bool := c.line < s.line || c.index + keyLimit < s.index
  let kept (o : Option Candidate) : Option Candidate := o.filter (!stale ·)
  guard (s.candidates.all fun o => !(o.any fun c => c.required && stale c))
  set { s with candidates := s.candidates.map kept }

/-- Blanks, comments and breaks before the next token. -/
def skipGap : Nat → Scanner Unit
  | 0 => pure ()
  | fuel + 1 => do
    let s ← get
    let tabs := s.flowLevel ≠ 0 || !s.keyAllowed
    let _ ← takeWhile fun c => c == ' ' || (tabs && c == '\t')
    skipComment
    match ← rest with
    | c :: _ =>
      if isBreak c then do
        let _ ← takeBreak
        if (← get).flowLevel = 0 then allowKey true
        skipGap fuel
    | [] => pure ()

/-- Three marks of a document's start or end come at the start of a line. -/
def atDocumentMark : Scanner Bool := do
  let s ← get
  match s.rest with
  | a :: b :: c :: r =>
    pure (s.column == 0 && a == b && b == c && (a == '-' || a == '.') && blankNext r)
  | _ => pure false

/-! ## Directives, anchors and tags -/

/-- A number of up to nine digits. -/
def number : Scanner Nat := do
  let ds ← takeWhile Char.isDigit
  guard (ds ≠ [] ∧ ds.length ≤ 9)
  pure (ds.foldl (fun n c => n * 10 + (c.toNat - 48)) 0)

/-- Value of a hexadecimal digit. -/
def hexValue? (c : Char) : Option Nat :=
  if c.isDigit then some (c.toNat - 48)
  else if 'a' ≤ c ∧ c ≤ 'f' then some (c.toNat - 87)
  else if 'A' ≤ c ∧ c ≤ 'F' then some (c.toNat - 55)
  else none

/-- A number of a given count of hexadecimal digits. -/
def hexNumber : Nat → Nat → Scanner Nat
  | 0, acc => pure acc
  | n + 1, acc => do
    match hexValue? (← take) with
    | some d => hexNumber n (acc * 16 + d)
    | none => failure

/-- Handle of a tag: an exclamation mark, or a name between two. -/
def tagHandle (directive : Bool) : Scanner String := do
  guard ((← take) = '!')
  let name ← takeWhile isName
  if (← get).startsWith '!' then do
    skip 1
    pure (String.ofList ('!' :: name ++ ['!']))
  else do
    guard (!directive || name = [])
    pure (String.ofList ('!' :: name))

/-- Characters of a tag besides those of names. -/
def tagMarks (wide : Bool) : List Char :=
  [';', '/', '?', ':', '@', '&', '=', '+', '$', '.', '%', '!', '~', '*', '\'', '(', ')'] ++
    if wide then [',', '[', ']'] else []

/-- Bytes written with percent signs, and plain characters. -/
def tagText (wide : Bool) : Nat → Scanner (List UInt8)
  | 0 => pure []
  | fuel + 1 => do
    match ← rest with
    | '%' :: _ => do
      skip 1
      let b ← hexNumber 2 0
      pure (UInt8.ofNat b :: (← tagText wide fuel))
    | c :: _ =>
      if isName c || (tagMarks wide).contains c then do
        skip 1
        pure ((String.singleton c).toUTF8.toList ++ (← tagText wide fuel))
      else pure []
    | [] => pure []

/-- Text of a tag. -/
def tagUri (wide : Bool) : Scanner String := do
  let bytes ← tagText wide (← rest).length
  match String.fromUTF8? ⟨bytes.toArray⟩ with
  | some s => pure s
  | none => failure

/-- A directive line. -/
def directive : Scanner Unit := do
  skip 1
  let name ← takeWhile isName
  guard (name ≠ [] ∧ blankNext (← rest))
  if name = ['Y', 'A', 'M', 'L'] then do
    skipBlanks
    let major ← number
    guard ((← take) = '.')
    let minor ← number
    push (.version major minor)
  else if name = ['T', 'A', 'G'] then do
    skipBlanks
    let handle ← tagHandle true
    guard (((← rest).head?.map isBlank) = some true)
    skipBlanks
    let expansion ← tagUri true
    guard (expansion ≠ "" ∧ blankNext (← rest))
    push (.shorthand handle expansion)
  else failure
  skipBlanks
  skipComment
  guard (breakNext (← rest))
  let _ ← takeBreak

/-- Name of an anchor or an alias. -/
def anchorName : Scanner String := do
  skip 1
  let name ← takeWhile isName
  guard (name ≠ [])
  let after ← rest
  guard (blankNext after ∨
    (after.head?.any fun c => ['?', ':', ',', ']', '\x7d', '%', '@', '`'].contains c))
  pure (String.ofList name)

/-- A tag. -/
def tag : Scanner Token := do
  let t ← do
    match ← rest with
    | '!' :: '<' :: _ => do
      skip 2
      let uri ← tagUri true
      guard (uri ≠ "" ∧ (← take) = '>')
      pure (Token.tag "" uri)
    | _ => do
      let handle ← tagHandle false
      if handle ≠ "!" ∧ handle.toList.getLast? = some '!' then do
        let suffix ← tagUri false
        guard (suffix ≠ "")
        pure (.tag handle suffix)
      else do
        let head := String.ofList (handle.toList.drop 1)
        let suffix := head ++ (← tagUri false)
        pure (if suffix = "" then .tag "" "!" else .tag "!" suffix)
  let s ← get
  guard (blankNext s.rest ∨ (s.flowLevel ≠ 0 ∧ s.startsWith ','))
  pure t

/-! ## Scalars -/

/-- Breaks between lines as text: one alone is a space, of several the first is dropped. -/
def folded (first more : List Char) : List Char :=
  if first = ['\n'] then (if more = [] then [' '] else more) else first ++ more

/-- Empty lines of a block scalar, and its column when that is still unknown. -/
def blockBreaks : Nat → Nat → Nat → Scanner (List Char × Nat)
  | 0, indent, most => pure ([], if indent = 0 then most else indent)
  | fuel + 1, indent, most => do
    let s ← get
    let spaces := (s.rest.takeWhile (· == ' ')).length
    skip (if indent = 0 then spaces else min spaces (indent - s.column))
    let s ← get
    let most := max most s.column
    guard (!((indent = 0 ∨ s.column < indent) ∧ s.startsWith '\t'))
    if s.rest ≠ [] ∧ breakNext s.rest then do
      let b ← takeBreak
      let (more, indent) ← blockBreaks fuel indent most
      pure (b ++ more, indent)
    else pure ([], if indent = 0 then max most (max (s.indent + 1).toNat 1) else indent)

/-- Lines of a block scalar: the text so far, the break after it and the breaks after that. -/
def blockLines (literal : Bool) (indent : Nat) :
    Nat → Bool → List Char → List Char → List Char → Scanner (List Char × List Char × List Char)
  | 0, _, text, lead, trail => pure (text, lead, trail)
  | fuel + 1, leadBlank, text, lead, trail => do
    let s ← get
    if s.column = indent ∧ s.rest ≠ [] then do
      let blank := s.rest.head?.any isBlank
      let joint :=
        if !literal && lead == ['\n'] && !leadBlank && !blank then
          (if trail = [] then [' '] else []) ++ trail
        else lead ++ trail
      let line ← takeWhile (!isBreak ·)
      let lead ← takeBreak
      let (trail, _) ← blockBreaks (← rest).length indent 0
      blockLines literal indent fuel blank (text ++ joint ++ line) lead trail
    else pure (text, lead, trail)

/-- What becomes of the breaks at the end of a block scalar. -/
inductive Chomping where
  | strip
  | clip
  | keep
  deriving DecidableEq

/-- A chomping mark, if there is one. -/
def chomping? : Scanner (Option Chomping) := do
  match ← rest with
  | '+' :: _ => do
    skip 1
    pure (some .keep)
  | '-' :: _ => do
    skip 1
    pure (some .strip)
  | _ => pure none

/-- An indentation mark, if there is one. -/
def indentation? : Scanner (Option Nat) := do
  match ← rest with
  | c :: _ =>
    if c.isDigit then do
      guard (c ≠ '0')
      skip 1
      pure (some (c.toNat - 48))
    else pure none
  | [] => pure none

/-- A literal or folded scalar. -/
def blockScalar (literal : Bool) : Scanner Token := do
  skip 1
  let first ← chomping?
  let depth ← indentation?
  let chomping ← if first.isSome then pure first else chomping?
  skipBlanks
  skipComment
  guard (breakNext (← rest))
  let _ ← takeBreak
  let s ← get
  let indent := match depth with
    | some d => (max s.indent 0).toNat + d
    | none => 0
  let (breaks, indent) ← blockBreaks (s.rest.length + 1) indent 0
  let (text, lead, trail) ← blockLines literal indent (s.rest.length + 1) false [] [] breaks
  let tail := match chomping.getD .clip with
    | .strip => []
    | .clip => lead
    | .keep => lead ++ trail
  pure (.scalar (String.ofList (text ++ tail)) (if literal then .literal else .folded))

/-- Character of a code point that is one. -/
def scalarValue (n : Nat) : Scanner Char := do
  guard n.isValidChar
  pure (Char.ofNat n)

/-- The character that an escape stands for. -/
def escape : Scanner Char := do
  match ← take with
  | '0' => pure '\x00'
  | 'a' => pure '\x07'
  | 'b' => pure '\x08'
  | 't' => pure '\t'
  | '\t' => pure '\t'
  | 'n' => pure '\n'
  | 'v' => pure '\x0b'
  | 'f' => pure '\x0c'
  | 'r' => pure '\r'
  | 'e' => pure '\x1b'
  | ' ' => pure ' '
  | '"' => pure '"'
  | '/' => pure '/'
  | '\\' => pure '\\'
  | 'N' => pure '\u0085'
  | '_' => pure '\u00a0'
  | 'L' => pure '\u2028'
  | 'P' => pure '\u2029'
  | 'x' => do scalarValue (← hexNumber 2 0)
  | 'u' => do scalarValue (← hexNumber 4 0)
  | 'U' => do scalarValue (← hexNumber 8 0)
  | _ => failure

/-- Blanks and breaks inside a scalar: the blanks before any break, the first break, the later ones,
and whether there was a break. Tabs left of a column are refused after a break. -/
def inner (least : Int) : Nat → Bool → Scanner (List Char × List Char × List Char × Bool)
  | 0, broken => pure ([], [], [], broken)
  | fuel + 1, broken => do
    let s ← get
    match s.rest with
    | c :: _ =>
      if isBlank c then do
        guard (!(broken ∧ (s.column : Int) < least ∧ c = '\t'))
        skip 1
        let (blanks, first, more, b) ← inner least fuel broken
        pure (if broken then blanks else c :: blanks, first, more, b)
      else if isBreak c then do
        let b ← takeBreak
        let (_, first, more, _) ← inner least fuel true
        pure (if broken then ([], [], b ++ first ++ more, true) else ([], b, first ++ more, true))
      else pure ([], [], [], broken)
    | [] => pure ([], [], [], broken)

/-- Characters of a quoted scalar up to the next blank, break or closing quote; whether a backslash
has joined a line to the next. -/
def quotedRun (single : Bool) : Nat → Scanner (List Char × Bool)
  | 0 => pure ([], false)
  | fuel + 1 => do
    match ← rest with
    | [] => pure ([], false)
    | c :: r =>
      if isBlank c || isBreak c then pure ([], false)
      else if single && c == '\'' then
        if r.head? = some '\'' then do
          skip 2
          let (cs, j) ← quotedRun single fuel
          pure ('\'' :: cs, j)
        else pure ([], false)
      else if !single && c == '"' then pure ([], false)
      else if !single && c == '\\' then do
        skip 1
        if r ≠ [] ∧ breakNext r then do
          let _ ← takeBreak
          pure ([], true)
        else do
          let e ← escape
          let (cs, j) ← quotedRun single fuel
          pure (e :: cs, j)
      else do
        skip 1
        let (cs, j) ← quotedRun single fuel
        pure (c :: cs, j)

/-- Text of a quoted scalar up to its closing quote. -/
def quotedText (single : Bool) : Nat → Scanner (List Char)
  | 0 => failure
  | fuel + 1 => do
    guard (!(← atDocumentMark))
    guard ((← rest) ≠ [])
    let (run, joined) ← quotedRun single (← rest).length
    if (← get).startsWith (if single then '\'' else '"') then do
      skip 1
      pure run
    else do
      let (blanks, first, more, broken) ← inner (-1) ((← rest).length + 1) joined
      let gap :=
        if joined then first ++ more
        else if broken then folded first more
        else blanks
      pure (run ++ gap ++ (← quotedText single fuel))

/-- A scalar between quotes. -/
def quotedScalar (single : Bool) : Scanner Token := do
  skip 1
  let cs ← quotedText single ((← rest).length + 1)
  pure (.scalar (String.ofList cs) (if single then .single else .double))

/-- Marks of collections between brackets. -/
def isFlowMark (c : Char) : Bool := c == ',' || c == '[' || c == ']' || c == '\x7b' || c == '\x7d'

/-- Characters of a plain scalar up to the next blank or to what ends it. -/
def plainRun (flow : Bool) : Nat → Scanner (List Char)
  | 0 => pure []
  | fuel + 1 => do
    match ← rest with
    | [] => pure []
    | c :: r => do
      if blankNext (c :: r) then pure []
      else do
        guard (!(flow && c == ':' && r.head?.any fun d => isFlowMark d || d == '?'))
        if (c == ':' && blankNext r) || (flow && isFlowMark c) then pure []
        else do
          skip 1
          pure (c :: (← plainRun flow fuel))

/-- Text of a plain scalar, the gap before its next part being given. -/
def plainText (flow : Bool) (least : Int) : Nat → List Char → Bool → Scanner (List Char)
  | 0, _, _ => pure []
  | fuel + 1, gap, broken => do
    if (← atDocumentMark) || (← get).startsWith '#' then do
      if broken then allowKey true
      pure []
    else do
      let run ← plainRun flow (← rest).length
      let broken := broken && run.isEmpty
      let gap := if run.isEmpty then [] else gap
      let s ← get
      if s.rest ≠ [] ∧ blankNext s.rest then do
        let (blanks, first, more, b) ← inner least (s.rest.length + 1) false
        let s ← get
        if !flow && (s.column : Int) < least then do
          if b then allowKey true
          pure (gap ++ run)
        else
          let next := if b then folded first more else blanks
          pure (gap ++ run ++ (← plainText flow least fuel next b))
      else do
        if broken then allowKey true
        pure (gap ++ run)

/-- A plain scalar. -/
def plainScalar : Scanner Token := do
  let s ← get
  let cs ← plainText (s.flowLevel ≠ 0) (s.indent + 1) (s.rest.length + 1) [] false
  pure (.scalar (String.ofList cs) .plain)

/-! ## Tokens -/

/-- A collection between brackets begins. -/
def flowStart (t : Token) : Scanner Unit := do
  saveCandidate
  modify fun s => { s with candidates := none :: s.candidates }
  allowKey true
  skip 1
  push t

/-- A collection between brackets ends. -/
def flowEnd (t : Token) : Scanner Unit := do
  dropCandidate
  modify fun s => if s.flowLevel = 0 then s else { s with candidates := s.candidates.drop 1 }
  allowKey false
  skip 1
  push t

/-- A block entry or the mark of a complex key, which opens a block when its column is new. -/
def blockMark (block mark : Token) (inBlock inFlow : Bool) : Scanner Unit := do
  let s ← get
  if s.flowLevel = 0 then do
    guard s.keyAllowed
    openBlock s.column s.tokens.size block
  dropCandidate
  allowKey (if s.flowLevel = 0 then inBlock else inFlow)
  skip 1
  push mark

/-- The colon before a value; what stood before it on the line becomes the key. -/
def valueMark : Scanner Unit := do
  let s ← get
  match s.candidates with
  | some c :: r => do
    insertAt c.token .key
    openBlock c.column c.token .mappingBlock
    modify fun s => { s with candidates := none :: r }
    allowKey false
  | _ => do
    if s.flowLevel = 0 then do
      guard s.keyAllowed
      openBlock s.column s.tokens.size .mappingBlock
    allowKey (s.flowLevel = 0)
  skip 1
  push .value

/-- A scalar, anchor, alias or tag that may begin a key. -/
def content (t : Scanner Token) : Scanner Unit := do
  saveCandidate
  allowKey false
  push (← t)

/-- A plain scalar may begin here. -/
def plainBegins (flow : Bool) : List Char → Bool
  | [] => false
  | c :: r =>
    if c == '-' then !(r.head?.any isBlank)
    else if c == '?' || c == ':' then !flow && !blankNext r
    else !(isBlank c || isBreak c ||
      [',', '[', ']', '\x7b', '\x7d', '#', '&', '*', '!', '|', '>', '\'', '"', '%', '@',
        '`'].contains c)

/-- The next token; false after the last one. -/
def token : Scanner Bool := do
  skipGap ((← rest).length + 1)
  dropStale
  closeBlocks (← get).column
  let s ← get
  let flow := s.flowLevel ≠ 0
  if s.rest = [] then do
    closeBlocks (-1)
    dropCandidate
    allowKey false
    push .finish
    pure false
  else if s.column = 0 ∧ s.startsWith '%' then do
    closeBlocks (-1)
    dropCandidate
    allowKey false
    directive
    pure true
  else if ← atDocumentMark then do
    closeBlocks (-1)
    dropCandidate
    allowKey false
    skip 3
    push (if s.startsWith '-' then .documentStart else .documentEnd)
    pure true
  else do
    match s.rest with
    | [] => pure ()
    | c :: r =>
      if c = '[' then flowStart .openSequence
      else if c = '\x7b' then flowStart .openMapping
      else if c = ']' then flowEnd .closeSequence
      else if c = '\x7d' then flowEnd .closeMapping
      else if c = ',' then do
        dropCandidate
        allowKey true
        skip 1
        push .comma
      else if c = '-' ∧ blankNext r then blockMark .sequenceBlock .entry true true
      else if c = '?' ∧ (flow ∨ blankNext r) then blockMark .mappingBlock .key true false
      else if c = ':' ∧ (flow ∨ blankNext r) then valueMark
      else if c = '*' then content (return .alias (← anchorName))
      else if c = '&' then content (return .anchor (← anchorName))
      else if c = '!' then content tag
      else if c = '|' ∧ !flow then do
        dropCandidate
        allowKey true
        push (← blockScalar true)
      else if c = '>' ∧ !flow then do
        dropCandidate
        allowKey true
        push (← blockScalar false)
      else if c = '\'' then content (quotedScalar true)
      else if c = '"' then content (quotedScalar false)
      else if plainBegins flow s.rest then content plainScalar
      else failure
    pure true

/-- Tokens to the end; `fuel` bounds their number. -/
def tokens : Nat → Scanner Unit
  | 0 => failure
  | fuel + 1 => do
    if ← token then tokens fuel

end Scanner

/-- Tokens of a text, with or without a byte order mark. -/
def scan? (text : String) : Option (List Token) := do
  let cs := match text.toList with
    | '\ufeff' :: r => r
    | cs => cs
  guard (cs.all isPermitted)
  let (_, s) ← Scanner.tokens (cs.length + 2) |>.run (Scan.start cs)
  some s.tokens.toList

end Fleet.Yaml
