import Fleet.Yaml.Scan

/-!
# YAML nodes

The tree that the tokens of one document make. An alias refers to an anchored node by number; a
number that is given twice refers to the node that began last.

Tokens are taken from a list with a state that counts anchors. Blocks and flows are read by descent
with fuel; where a value is left out, the empty node stands in its place. A tag is resolved by the
shorthands of the document, and a second document is refused.
-/

namespace Fleet.Yaml

/-- A node of a document. -/
inductive Node where
  | scalar (tag : Option String) (style : Style) (text : String)
  | sequence (tag : Option String) (items : List Node)
  | mapping (tag : Option String) (pairs : List (Node × Node))
  | alias (id : Nat)

/-- Some node, for numbers that no anchor has. -/
instance : Inhabited Node := ⟨.alias 0⟩

/-- The node of a place where nothing is written. -/
def Node.empty : Node := .scalar none .plain ""

/-- A document: its root, none if the text holds no document, and its anchored nodes with their
numbers in the order in which they begin. -/
structure Document where
  root : Option Node
  anchored : List (Nat × Node)

/-- Tokens still to come, and what is known of anchors and tags. -/
structure Building where
  tokens : List Token
  /-- Numbers of anchor names. -/
  names : List (String × Nat)
  /-- Numbers of the nodes that have begun, and the nodes that are finished, by order of
  beginning. -/
  begun : List Nat
  finished : List (Nat × Node)
  /-- Shorthands for tags. -/
  shorthands : List (String × String)

/-- A step that builds nodes. -/
abbrev Builder := StateT Building Option

namespace Builder

/-- The next token. -/
def peek : Builder Token := do
  match (← get).tokens with
  | [] => failure
  | t :: _ => pure t

/-- The next token dropped. -/
def drop : Builder Unit := modify fun s => { s with tokens := s.tokens.drop 1 }

/-- The next token dropped if it is the given one. -/
def accept (t : Token) : Builder Bool := do
  if (← peek) = t then do
    drop
    pure true
  else pure false

/-- A token that has to come next. -/
def expect (t : Token) : Builder Unit := do
  guard (← accept t)

/-- Shorthands that every document has. -/
def commonShorthands : List (String × String) := [("!", "!"), ("!!", "tag:yaml.org,2002:")]

/-- The tag that a handle and a suffix stand for. -/
def wholeTag (handle suffix : String) : Builder String := do
  if handle = "" then pure suffix
  else
    match ((← get).shorthands ++ commonShorthands).find? (·.1 = handle) with
    | some (_, start) => pure (start ++ suffix)
    | none => failure

/-- Anchor and tag in front of a node, in either order. -/
def properties : Builder (Option String × Option String) := do
  let anchor? : Builder (Option String) := do
    match ← peek with
    | .anchor n => do
      drop
      pure (some n)
    | _ => pure none
  let tag? : Builder (Option String) := do
    match ← peek with
    | .tag h s => do
      drop
      pure (some (← wholeTag h s))
    | _ => pure none
  match ← anchor? with
  | some n => pure (some n, ← tag?)
  | none =>
    match ← tag? with
    | some t => pure (← anchor?, some t)
    | none => pure (none, none)

/-- A number for an anchor: how many names there are when it begins. -/
def beginAnchor (name : String) : Builder Nat := do
  let s ← get
  let id := s.names.length
  let names :=
    if s.names.any (·.1 = name) then s.names.map fun e => if e.1 = name then (name, id) else e
    else s.names ++ [(name, id)]
  let place := s.begun.length
  set { s with names, begun := s.begun ++ [id] }
  pure place

/-- The anchored node that began at a place is complete. -/
def finishAnchor (place : Nat) (n : Node) : Builder Unit :=
  modify fun s => { s with finished := (place, n) :: s.finished }

/-- Tokens that leave a key or value empty. -/
def endsBlockPart (t : Token) : Bool := t == .key || t == .value || t == .blockEnd

/-- Tokens that leave an item between brackets empty. -/
def endsFlowPart (close : Token) (t : Token) : Bool := t == .comma || t == close

mutual
/-- A node; `fuel` bounds the nesting and the number of items. -/
def node : Nat → Bool → Bool → Builder Node
  | 0, _, _ => failure
  | fuel + 1, block, indentless => do
    match ← peek with
    | .alias name => do
      drop
      match (← get).names.find? (·.1 = name) with
      | some (_, id) => pure (.alias id)
      | none => failure
    | _ => do
      let (anchor, tag) ← properties
      let place ← match anchor with
        | some name => some <$> beginAnchor name
        | none => pure none
      let n ← content fuel block indentless tag anchor.isSome
      match place with
      | some p => finishAnchor p n
      | none => pure ()
      pure n

/-- What follows anchor and tag. -/
def content : Nat → Bool → Bool → Option String → Bool → Builder Node
  | 0, _, _, _, _ => failure
  | fuel + 1, block, indentless, tag, anchored => do
    match ← peek with
    | .entry =>
      if indentless then do pure (.sequence tag (← indentlessItems fuel))
      else if anchored || tag.isSome then pure (.scalar tag .plain "")
      else failure
    | .scalar text style => do
      drop
      pure (.scalar (tag.filter (· ≠ "!")) style text)
    | .openSequence => do
      drop
      pure (.sequence tag (← flowItems fuel true))
    | .openMapping => do
      drop
      pure (.mapping tag (← flowPairs fuel true))
    | .sequenceBlock =>
      if block then do
        drop
        pure (.sequence tag (← blockItems fuel))
      else if anchored || tag.isSome then pure (.scalar tag .plain "")
      else failure
    | .mappingBlock =>
      if block then do
        drop
        pure (.mapping tag (← blockPairs fuel))
      else if anchored || tag.isSome then pure (.scalar tag .plain "")
      else failure
    | _ =>
      if anchored || tag.isSome then pure (.scalar tag .plain "")
      else failure

/-- Items of a sequence block, up to its end. -/
def blockItems : Nat → Builder (List Node)
  | 0 => failure
  | fuel + 1 => do
    if ← accept .blockEnd then pure []
    else do
      expect .entry
      let t ← peek
      let n ← if t = .entry ∨ t = .blockEnd then pure Node.empty else node fuel true false
      pure (n :: (← blockItems fuel))

/-- Items of a sequence that stands at the column of its key. -/
def indentlessItems : Nat → Builder (List Node)
  | 0 => failure
  | fuel + 1 => do
    if ← accept .entry then do
      let t ← peek
      let n ← if t = .entry ∨ endsBlockPart t then pure Node.empty else node fuel true false
      pure (n :: (← indentlessItems fuel))
    else pure []

/-- Pairs of a mapping block, up to its end. -/
def blockPairs : Nat → Builder (List (Node × Node))
  | 0 => failure
  | fuel + 1 => do
    if ← accept .blockEnd then pure []
    else do
      expect .key
      let k ← if endsBlockPart (← peek) then pure Node.empty else node fuel true true
      let v ← if ← accept .value then
          if endsBlockPart (← peek) then pure Node.empty else node fuel true true
        else pure Node.empty
      pure ((k, v) :: (← blockPairs fuel))

/-- Value of a pair between brackets. -/
def flowValue : Nat → Token → Builder Node
  | 0, _ => failure
  | fuel + 1, close => do
    if ← accept .value then
      if endsFlowPart close (← peek) then pure Node.empty else node fuel false false
    else pure Node.empty

/-- Items up to the closing bracket; an item may be one pair. -/
def flowItems : Nat → Bool → Builder (List Node)
  | 0, _ => failure
  | fuel + 1, first => do
    if ← accept .closeSequence then pure []
    else do
      if !first then expect .comma
      match ← peek with
      | .closeSequence => do
        drop
        pure []
      | .key => do
        drop
        let t ← peek
        let k ← if t = .value then do
            drop
            pure Node.empty
          else if endsFlowPart .closeSequence t then do
            drop
            pure Node.empty
          else node fuel false false
        let v ← flowValue fuel .closeSequence
        pure (.mapping none [(k, v)] :: (← flowItems fuel false))
      | _ => do
        let n ← node fuel false false
        pure (n :: (← flowItems fuel false))

/-- Pairs up to the closing brace; a key may come without a value. -/
def flowPairs : Nat → Bool → Builder (List (Node × Node))
  | 0, _ => failure
  | fuel + 1, first => do
    if ← accept .closeMapping then pure []
    else do
      if !first then expect .comma
      match ← peek with
      | .closeMapping => do
        drop
        pure []
      | .key => do
        drop
        let t ← peek
        let k ← if t = .value ∨ endsFlowPart .closeMapping t then pure Node.empty
          else node fuel false false
        let v ← flowValue fuel .closeMapping
        pure ((k, v) :: (← flowPairs fuel false))
      | _ => do
        let k ← node fuel false false
        pure ((k, Node.empty) :: (← flowPairs fuel false))
end

/-- Directives in front of a document. -/
def directives : Nat → Bool → Builder Unit
  | 0, _ => failure
  | fuel + 1, versioned => do
    match ← peek with
    | .version major minor => do
      guard (!versioned ∧ major = 1 ∧ (minor = 1 ∨ minor = 2))
      drop
      directives fuel true
    | .shorthand handle expansion => do
      guard (!(← get).shorthands.any (·.1 = handle))
      modify fun s => { s with shorthands := s.shorthands ++ [(handle, expansion)] }
      drop
      directives fuel versioned
    | _ => pure ()

/-- A directive or a document's end comes next. -/
def endsDocument : Token → Bool
  | .version .. | .shorthand .. | .documentStart | .documentEnd | .finish => true
  | _ => false

/-- Marks of a document's end, then the end of all. -/
def finish : Nat → Builder Unit
  | 0 => failure
  | fuel + 1 => do
    if ← accept .documentEnd then finish fuel else expect .finish

/-- The only document. -/
def document (fuel : Nat) : Builder (Option Node) := do
  match ← peek with
  | .finish => pure none
  | t => do
    let root ← do
      match t with
      | .version .. | .shorthand .. | .documentStart => do
        directives fuel false
        expect .documentStart
        if endsDocument (← peek) then pure Node.empty else node fuel true false
      | _ => node fuel true false
    finish fuel
    pure (some root)

end Builder

namespace Document

/-- The document of a text; there must be no second one. -/
def parse? (text : String) : Option Document := do
  let tokens ← scan? text
  let (root, s) ← (Builder.document (4 * tokens.length + 4)).run ⟨tokens, [], [], [], []⟩
  let anchored := s.begun.mapIdx fun place id => (id, ((s.finished.find? (·.1 = place)).map (·.2)))
  some ⟨root, anchored.filterMap fun (id, n) => n.map (id, ·)⟩

/-- Node that an alias refers to. -/
def find? (d : Document) (id : Nat) : Option Node :=
  (d.anchored.reverse.find? (·.1 = id)).map (·.2)

/-- The node itself, or the one it refers to. -/
def target? (d : Document) : Node → Option Node
  | .alias id => d.find? id
  | n => some n

end Document

end Fleet.Yaml
