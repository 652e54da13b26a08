import Fleet.Text.Split

/-!
# A tree of files

Files and directories by path. A path is walked from the root, or from the base directory when it is
relative; every step but the last needs a directory.

Entries are a list from locations to files or directories, the last entry for a location in front.
`put` creates the directory of a file and writes it, as a whole; whether a file may be run is part
of the entry. Errors are those of a system, with their wording (`Error.message`).
-/

namespace Fleet.Files

/-- Why an operation on files fails. -/
inductive Error where
  | missing
  | denied
  | occupied
  | notDirectory
  | isDirectory
  | nameTooLong
  | holdsNul
  | notText
  deriving Repr, DecidableEq

/-- Wording. -/
def Error.message : Error → String
  | missing => "No such file or directory (os error 2)"
  | denied => "Permission denied (os error 13)"
  | occupied => "File exists (os error 17)"
  | notDirectory => "Not a directory (os error 20)"
  | isDirectory => "Is a directory (os error 21)"
  | nameTooLong => "File name too long (os error 36)"
  | holdsNul => "file name contained an unexpected NUL byte"
  | notText => "stream did not contain valid UTF-8"

/-- What a path leads to. -/
inductive Entry where
  | dir
  | file (bytes : ByteArray) (runnable : Bool)

/-- Names from the root. -/
abbrev Location := List String

/-- Entries by location, and the directory relative paths start at. The root is always there. -/
structure Tree where
  base : Location
  entries : List (Location × Entry)

namespace Tree

/-- Entry at a location. -/
def entry? (t : Tree) (at_ : Location) : Option Entry :=
  if at_ = [] then some .dir else (t.entries.find? (·.1 = at_)).map (·.2)

/-- Entry set at a location. -/
def set (t : Tree) (at_ : Location) (e : Entry) : Tree :=
  { t with entries := (at_, e) :: t.entries.filter (·.1 ≠ at_) }

/-- Entry taken away. -/
def erase (t : Tree) (at_ : Location) : Tree :=
  { t with entries := t.entries.filter (·.1 ≠ at_) }

/-- Longest name in bytes. -/
def nameLimit : Nat := 255

/-- Location that names lead to from a directory. The last one may lead nowhere yet. -/
def walk (t : Tree) (here : Location) : List String → Except Error Location
  | [] => .ok here
  | c :: r =>
    if c = "" ∨ c = "." then walk t here r
    else if c = ".." then walk t here.dropLast r
    else if nameLimit < c.utf8ByteSize then .error .nameTooLong
    else if r = [] then .ok (here ++ [c])
    else match t.entry? (here ++ [c]) with
      | some .dir => walk t (here ++ [c]) r
      | some (.file ..) => .error .notDirectory
      | none => .error .missing

/-- Names of a path between its slashes. -/
def names (path : String) : List String := Text.split '/' path

/-- Starts at the root. -/
def isAbsolute (path : String) : Bool := path.toList.head? = some '/'

/-- Location of a path. -/
def locate (t : Tree) (path : String) : Except Error Location :=
  if path.toList.contains '\x00' then .error .holdsNul
  else if path = "" then .error .missing
  else t.walk (if isAbsolute path then [] else t.base) (names path)

/-- Bytes of a file. -/
def read (t : Tree) (path : String) : Except Error ByteArray := do
  match t.entry? (← t.locate path) with
  | none => .error .missing
  | some .dir => .error .isDirectory
  | some (.file bytes _) => .ok bytes

/-- Text of a file. -/
def readText (t : Tree) (path : String) : Except Error String := do
  match String.fromUTF8? (← t.read path) with
  | some s => .ok s
  | none => .error .notText

/-- Something is there. -/
def holds (t : Tree) (path : String) : Bool :=
  match t.locate path with
  | .ok l => (t.entry? l).isSome
  | .error _ => false

/-- Directories made on the way from a directory along names. -/
def makeDirs (t : Tree) (here : Location) : List String → Except Error Tree
  | [] => .ok t
  | c :: r =>
    if c = "" ∨ c = "." then makeDirs t here r
    else if c = ".." then makeDirs t here.dropLast r
    else if nameLimit < c.utf8ByteSize then .error .nameTooLong
    else match t.entry? (here ++ [c]) with
      | some .dir => makeDirs t (here ++ [c]) r
      | some (.file ..) =>
        .error (if r.all (fun n => n = "" ∨ n = ".") then .occupied else .notDirectory)
      | none => makeDirs (t.set (here ++ [c]) .dir) (here ++ [c]) r

/-- A directory with all directories above it. -/
def createDir (t : Tree) (path : String) : Except Error Tree :=
  if path.toList.contains '\x00' then .error .holdsNul
  else t.makeDirs (if isAbsolute path then [] else t.base) (names path)

/-- Bytes written to a new or existing file of an existing directory. -/
def write (t : Tree) (path : String) (bytes : ByteArray) (runnable : Bool) : Except Error Tree := do
  let l ← t.locate path
  match t.entry? l with
  | some .dir => .error .isDirectory
  | _ => .ok (t.set l (.file bytes runnable))

/-- A file taken away. -/
def remove (t : Tree) (path : String) : Except Error Tree := do
  let l ← t.locate path
  match t.entry? l with
  | none => .error .missing
  | some .dir => .error .isDirectory
  | some (.file ..) => .ok (t.erase l)

end Tree

/-- Path without its last name; none for the root and for the empty path. -/
def parent? (path : String) : Option String :=
  let cs := path.toList
  let body := (cs.reverse.dropWhile (· = '/')).reverse
  if body = [] then none
  else
    let dir := (body.reverse.dropWhile (· ≠ '/')).reverse
    let trimmed := (dir.reverse.dropWhile (· = '/')).reverse
    some (if trimmed = [] ∧ dir ≠ [] then "/" else String.ofList trimmed)

/-- Directory of a path, the base directory when it has none. -/
def directory (path : String) : String :=
  match parent? path with
  | none => "."
  | some d => if d = "" then "." else d

/-- Bytes written to a file whose directory is made if need be. -/
def Tree.put (t : Tree) (path : String) (bytes : ByteArray) (runnable : Bool) :
    Except Error Tree := do
  (← t.createDir (directory path)).write path bytes runnable

/-- A path under a directory; an absolute one stays as it is. -/
def under (dir path : String) : String :=
  if Tree.isAbsolute path then path
  else if dir = "" then path
  else if dir.toList.getLast? = some '/' then dir ++ path
  else dir ++ "/" ++ path

end Fleet.Files
