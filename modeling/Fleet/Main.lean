import Fleet.Cli.Launch
import Std.Time.DateTime.Timestamp

/-!
# The program

Variables and files are read, the run is worked out on them, and what it printed and wrote is handed
back. No cluster is reached and no interruption is seen from here.

The model of a run is a function of environment, arguments, files and time. Around it there is only
this: files are read into a tree beforehand, round by round, since what one of them says may name
others; files that the run changed are written back. A run that never ends is given up with an exit
code of its own.
-/

namespace Fleet.Main

/-- Variables that a run looks at. -/
def variableNames : List String := ["HOME", "KUBEFAN_HOME", "KUBECONFIG"]

/-- Exit code of a run that would wait for ever. -/
def givenUp : Nat := 124

/-- Rounds of reading: every round may name files that the next one reads. -/
def rounds : Nat := 4

/-- The environment of the process. -/
def environment : IO Environment := do
  let vars ← variableNames.filterMapM fun n => do return (← IO.getEnv n).map (n, ·)
  return ⟨vars, none⟩

/-- Names from the root of the current directory. -/
def currentLocation : IO Files.Location := do
  return (Files.Tree.names (← IO.currentDir).toString).filter (· ≠ "")

/-- Directories from the root to a location, and nothing else. -/
def emptyTree (here : Files.Location) : Files.Tree :=
  ⟨here, (List.range here.length).map fun n => (here.take (n + 1), .dir)⟩

/-- The tree with what a path of the file system leads to. -/
def readPath (t : Files.Tree) (path : String) : IO Files.Tree := do
  if path = "" ∨ t.holds path then return t
  try
    let bytes ← IO.FS.readBinFile path
    return (t.put path bytes true).toOption.getD t
  catch _ => return t

/-- Files of a run. -/
def readAll (env : Environment) (args : List String) : Nat → Files.Tree → IO Files.Tree
  | 0, t => return t
  | n + 1, t => do readAll env args n (← (Cli.Launch.reads env t args).foldlM readPath t)

/-- Files that a run changed, written back. -/
def writeBack (before after : Files.Tree) (paths : List String) : IO Unit := do
  for path in paths do
    match after.read path with
    | .error _ => pure ()
    | .ok bytes =>
      if (before.read path).toOption.map (·.data) ≠ some bytes.data then
        IO.FS.createDirAll (Files.directory path)
        IO.FS.writeBinFile path bytes

end Fleet.Main

/-- A run of the program on the arguments of the process. -/
def main (args : List String) : IO UInt32 := do
  let env ← Fleet.Main.environment
  let here ← Fleet.Main.currentLocation
  let files ← Fleet.Main.readAll env args Fleet.Main.rounds (Fleet.Main.emptyTree here)
  let now ← Std.Time.Timestamp.now
  let ended := Fleet.Cli.Launch.run env Fleet.Cluster.Api.offline files
    (.ofMillis now.toMillisecondsSinceUnixEpoch.val) .quiet args
  Fleet.Main.writeBack files ended.files (Fleet.Cli.Launch.reads env files args)
  (← IO.getStdout).putStr ended.printed.output
  let errors ← IO.getStderr
  errors.putStr ended.printed.errors
  match ended.report with
  | some r => errors.putStr r.text
  | none => pure ()
  return UInt32.ofNat (ended.code.getD Fleet.Main.givenUp)
