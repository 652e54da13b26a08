import Fleet.Toml.Value

/-!
# Growing tables

A value is set once. Dotted keys may add to tables that only dotted keys made; a header may open a
table that so far only lies on the way to others.

How a table came about decides who may add to it: a header may open one that is implied, dotted keys
may go through implied and dotted ones, nobody adds to one between braces. A header in double
brackets adds a table to the array of its key. Spans are kept up, so that errors in values can name
their place.
-/

namespace Fleet.Toml

/-- A table that still grows. -/
structure Table where
  origin : Origin
  span : Option Span
  entries : List (Key × Item)

namespace Table

/-- No entries. -/
def empty (origin : Origin) : Table := ⟨origin, none, []⟩

/-- Item of a key. -/
def find? (t : Table) (key : String) : Option Item := (t.entries.find? (·.1.text = key)).map (·.2)

/-- The table as an item. -/
def item (t : Table) : Item := (t.span, .table t.origin t.entries)

/-- An item at the end, unless the key is taken. -/
def add? (t : Table) (key : Key) (i : Item) : Option Table :=
  if (t.find? key.text).isSome then none else some { t with entries := t.entries ++ [(key, i)] }

/-- An item in the place of another. -/
def replace (t : Table) (key : String) (i : Item) : Table :=
  { t with entries := t.entries.map fun e => if e.1.text = key then (e.1, i) else e }

/-- An item taken away. -/
def erase (t : Table) (key : String) : Table :=
  { t with entries := t.entries.filter (·.1.text ≠ key) }

/-- Changes the table at a path; tables on the way are made as needed. -/
def update? (dotted : Bool) (f : Table → Option Table) : List Key → Table → Option Table
  | [], t => f t
  | k :: ks, t =>
    match t.find? k.text with
    | none => do
      let child ← update? dotted f ks (empty (if dotted then .dotted else .implied))
      t.add? k child.item
    | some (span, .table origin entries) =>
      if origin = .inline ∨ (dotted ∧ origin = .header) then none
      else do
        let child ← update? dotted f ks ⟨origin, span, entries⟩
        some (t.replace k.text child.item)
    | some (span, .tables items) =>
      match items.getLast? with
      | some (last, .table origin entries) => do
        let child ← update? dotted f ks ⟨origin, last, entries⟩
        some (t.replace k.text (span, .tables (items.dropLast ++ [child.item])))
      | _ => none
    | some _ => none

/-- One assignment below the table. -/
def assign? (t : Table) (a : Assignment) : Option Table :=
  t.update? true (fun t =>
    if (t.origin = .dotted) = (a.path = []) then none else t.add? a.key a.item) a.path

/-- Assignments one after another. -/
def assignAll? (t : Table) (as_ : List Assignment) : Option Table := as_.foldlM assign? t

end Table

/-- Table between braces. -/
def inlineTable? (as_ : List Assignment) : Option Value := do
  let t ← (Table.empty .header).assignAll? as_
  some (.table .inline t.entries)

/-- What starts a section. -/
inductive Head where
  | root
  | table (path : List Key) (key : Key) (span : Span)
  | element (path : List Key) (key : Key) (span : Span)

/-- A header and the assignments below it. -/
structure Section where
  head : Head
  body : List Assignment

namespace Section

/-- Span of a header stretched over the values below it. -/
def stretch (span : Span) (body : List Assignment) : Span :=
  match body.getLast?.bind (·.item.1) with
  | some last => ⟨span.start, last.stop⟩
  | none => span

/-- The table that a header opens: a fresh one, or one that lies on the way to others. The latter
leaves its place. -/
def open? (root : Table) (path : List Key) (key : Key) : Option (List (Key × Item) × Table) := do
  let parent ← root.update? false some path
  let held := parentEntries path parent
  match held.find? (·.1.text = key.text) with
  | none => some ([], parent)
  | some (_, _, .table .implied entries) =>
    let root ← parent.update? false (fun t => some (t.erase key.text)) path
    some (entries, root)
  | some _ => none
where
  /-- Entries of the table at a path. -/
  parentEntries : List Key → Table → List (Key × Item)
    | [], t => t.entries
    | k :: ks, t =>
      match t.find? k.text with
      | some (span, .table origin entries) => parentEntries ks ⟨origin, span, entries⟩
      | some (_, .tables items) =>
        match items.getLast? with
        | some (last, .table origin entries) => parentEntries ks ⟨origin, last, entries⟩
        | _ => []
      | _ => []

/-- One more table under a header in double brackets. -/
def push? (key : Key) (child : Item) (t : Table) : Option Table :=
  match t.find? key.text with
  | none => t.add? key (child.1, .tables [child])
  | some (span, .tables items) =>
    let whole := match span, child.1 with
      | some a, some b => some ⟨a.start, b.stop⟩
      | _, _ => none
    some (t.replace key.text (whole, .tables (items ++ [child])))
  | some _ => none

/-- The section set into the document. -/
def attach? (root : Table) (s : Section) : Option Table :=
  match s.head with
  | .root => root.assignAll? s.body
  | .table path key span => do
    let (entries, root) ← open? root path key
    let t ← (⟨.header, some (stretch span s.body), entries⟩ : Table).assignAll? s.body
    root.update? false (·.add? key t.item) path
  | .element path key span => do
    let t ← (⟨.header, some (stretch span s.body), []⟩ : Table).assignAll? s.body
    root.update? false (push? key t.item) path

end Section

end Fleet.Toml
