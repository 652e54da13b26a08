import Fleet.Failure
import Fleet.Files.Tree
import Fleet.Text.Blank
import Fleet.Text.Split

/-!
# The selection

An ordered list of context names that outlives a run, kept one name a line. A store loads and saves
it; selecting, toggling and clearing are a load and a save.

`Store` has a load and a save that may fail, over any state; the program's store keeps its state in
a file, and `memory` is one that cannot fail. `refresh` is what a run that goes on does from time to
time: it loads the selection again and works out the contexts to go on with, and keeps those it had
where loading fails.
-/

namespace Fleet.Selection

/-- Names of a stored text: its lines without blanks around them, empty ones left out. -/
def ofText (s : String) : List String := ((Text.lines s).map Text.trim).filter (· ≠ "")

/-- Stored text of names. -/
def toText (names : List String) : String := Text.join "\n" names

/-- Names without repetitions, each at its first place. -/
def distinct (names : List String) : List String :=
  names.foldl (fun acc n => if acc.contains n then acc else acc ++ [n]) []

/-- The first occurrence of a name taken away, or the name added at the end; and whether it is there
afterwards. -/
def toggled (names : List String) (name : String) : List String × Bool :=
  if names.contains name then (names.erase name, false) else (names ++ [name], true)

/-- Contexts of a batch: the selected ones if they are at least two, else the active one alone. -/
def effective (selected : List String) (active : Option String) : List String :=
  if 2 ≤ selected.length then selected else active.toList

/-- How a selection is kept in states of a type. -/
structure Store (σ : Type) where
  load : σ → Except Failure (List String)
  save : σ → List String → Except Failure σ

namespace Store

variable {σ : Type}

/-- One name toggled; whether it is selected afterwards. -/
def toggle (store : Store σ) (s : σ) (name : String) : Except Failure (Bool × σ) := do
  let (names, now) := toggled (← store.load s) name
  return (now, ← store.save s names)

/-- Exactly the given names selected. -/
def selectAll (store : Store σ) (s : σ) (names : List String) : Except Failure σ :=
  store.save s (distinct names)

/-- The selection read again for a run that goes on: what comes of it, and the contexts to work on
from then on. They stay if the selection cannot be read. -/
def refresh (store : Store σ) (s : σ) (active : Option String) (targets : List String) :
    Except Failure Unit × List String :=
  match store.load s with
  | .ok selected => (.ok (), effective selected active)
  | .error e => (.error e, targets)

/-- Nothing selected. -/
def clear (store : Store σ) (s : σ) : Except Failure σ := store.save s []

/-- Kept in memory; loads may fail until the next save. -/
def memory : Store (Except Failure (List String)) := ⟨id, fun _ names => .ok (.ok names)⟩

/-- Failure of a file operation. -/
def ofFiles {α : Type} : Except Files.Error α → Except Failure α
  | .ok a => .ok a
  | .error e => .error (.io e.message)

/-- Kept in a file; a missing file is an empty selection. -/
def file (path : String) : Store Files.Tree :=
  { load := fun t =>
      match t.readText path with
      | .ok s => .ok (ofText s)
      | .error .missing => .ok []
      | .error e => ofFiles (.error e)
    save := fun t names => ofFiles (t.put path (toText names).toUTF8 false) }

end Store

end Fleet.Selection
