import Fleet.Cluster.Runner
import Fleet.Shell.Run
import Fleet.Text.Utf8

/-!
# Executables

A name leads to a program: by its path if it holds a slash, else by the search path. A script starts
with a line that names its shell.

Programs that are run are shell scripts. Their text is interpreted, and they end with an output, a
complaint and an exit code. A program of another kind, and one that is not there or must not be
executed, is not started; the reason is that of the system. The search path holds no directory, so a
name without a slash leads nowhere.
-/

namespace Fleet.Cluster

/-- What starting a name leads to. -/
inductive Executable where
  | script (text : String)
  | absent (reason : String)
  deriving Repr, DecidableEq

namespace Executable

/-- Interpreters that scripts may name. -/
def shells : List (List String) :=
  [["/bin/sh"], ["/usr/bin/sh"], ["/bin/bash"], ["/usr/bin/bash"], ["/bin/dash"],
    ["/usr/bin/env", "sh"], ["/usr/bin/env", "bash"]]

/-- Words of the first line after its mark; none without the mark. -/
def interpreter? (text : String) : Option (List String) :=
  match text.toList with
  | '#' :: '!' :: r =>
    some ((Text.split ' ' (String.ofList (r.takeWhile (· ≠ '\n')))).filter (· ≠ ""))
  | _ => none

/-- Program of a path. -/
def ofPath (t : Files.Tree) (path : String) : Executable :=
  match t.locate path with
  | .error e => .absent e.message
  | .ok l =>
    match t.entry? l with
    | none => .absent Files.Error.missing.message
    | some .dir => .absent Files.Error.denied.message
    | some (.file _ false) => .absent Files.Error.denied.message
    | some (.file bytes true) =>
      let text := Text.lossy bytes
      match interpreter? text with
      | none => .absent "Exec format error (os error 8)"
      | some words =>
        if shells.any (·.isPrefixOf words) then .script text
        else .absent Files.Error.missing.message

/-- Program of a name. -/
def find (t : Files.Tree) (name : String) : Executable :=
  if name.toList.contains '\x00' then .absent "nul byte found in provided data"
  else if name.toList.contains '/' then ofPath t name
  else .absent Files.Error.missing.message

/-- Result of a script's run. -/
def resultOf (s : Shell.State) : ProcessResult :=
  let stdout := Text.lossy s.output
  let stderr := Text.lossy s.errors
  match s.ending with
  | some .killed => ⟨false, none, stdout, stderr⟩
  | some (.exit n) => ⟨n == 0, some n, stdout, stderr⟩
  | none => ⟨s.status == 0, some s.status, stdout, stderr⟩

/-- Starts the program of a name. -/
def runner (t : Files.Tree) (name : String) : Runner := fun args =>
  match find t name with
  | .absent reason => ⟨some 0, .error reason⟩
  | .script text =>
    if args.any (·.toList.contains '\x00') then ⟨some 0, .error "nul byte found in provided data"⟩
    else
      let s := Shell.runScript t name args text
      ⟨some s.slept, .ok (resultOf s)⟩

end Executable

end Fleet.Cluster
