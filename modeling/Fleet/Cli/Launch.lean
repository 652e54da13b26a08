import Fleet.Cli.Run
import Fleet.Environment.File
import Fleet.Settings.Decode

/-!
# A run of the program

Variables, arguments, settings, a session, an answer: each step may end the run. Malformed settings
and a lost connection are told in reports of their own.

The steps are: a file of variables, arguments, settings, a session on the files that the settings
name, the answer. A run ends with an exit code or, if it waits for something that never comes,
without one; what it printed until then is kept in either case (`Launched`).

`reads` lists the files that a run looks at before it has a session, in terms of what its
environment and its arguments name, so that the outermost layer can hand them over.
-/

namespace Fleet.Cli

/-- A report under the code of its kind. -/
structure Report where
  code : String
  message : String
  help : String
  deriving Repr, DecidableEq

/-- Text of a report. -/
def Report.text (r : Report) : String :=
  r.code ++ "\n\n  × " ++ r.message ++ "\n  help: " ++ r.help ++ "\n"

/-- A run that goes no further: its exit code if it ended, what was printed, a report at the end of
the error stream, and the files as they are then. -/
structure Launched where
  code : Option Nat
  printed : Console.Printed
  report : Option Report
  files : Files.Tree

namespace Launch

/-- Name and version of the program. -/
def versionLine : String := "kubefan 0.1.0\n"

/-- How the program is used. -/
def usage : String :=
  "Usage: kubefan [OPTIONS] <COMMAND>\n\n" ++
  "Commands:\n" ++
  "  list      List a resource kind across contexts as one merged table\n" ++
  "  versions  Show the server version of every context\n" ++
  "  exec      Run a kubectl command against every context\n" ++
  "  describe  Show one object from a merged listing by its row ID\n" ++
  "  contexts  Manage the selected contexts\n" ++
  "  watch     Keep a merged listing refreshed while the cluster is reachable\n" ++
  "  help      Print this message or the help of the given subcommand(s)\n"

/-- End of a run whose arguments are not a request. -/
def refuse (e : UsageError) (t : Files.Tree) : Launched :=
  match e with
  | .help => ⟨some 0, ⟨usage, ""⟩, none, t⟩
  | .version => ⟨some 0, ⟨versionLine, ""⟩, none, t⟩
  | _ => ⟨some 2, ⟨"", usage⟩, none, t⟩

/-- End of a run with one error. -/
def fail (mode : Console.Mode) (text : String) (t : Files.Tree) : Launched :=
  ⟨some 1, (Console.Message.error text).print mode, none, t⟩

/-- Report of malformed settings. -/
def settingsReport (m : Settings.Mismatch) : Report :=
  ⟨"kubefan::config", m.message, Settings.help⟩

/-- Report of a lost connection. -/
def connectionReport (e : Failure) : Report :=
  ⟨"kubefan::connection", e.message,
    "check VPN/network access and the kubeconfig credentials, then rerun"⟩

/-- Settings of a file, or the end of the run. A file that is not named may be missing. -/
def settings (mode : Console.Mode) (t : Files.Tree) (path : String) (isNamed : Bool) :
    Except Launched Settings :=
  if !isNamed ∧ !t.holds path then .ok .default
  else match t.readText path with
    | .error e => .error (fail mode ("failed to read " ++ path ++ ": " ++ e.message) t)
    | .ok s =>
      match Settings.decode s with
      | .error m => .error ⟨some 1, .empty, some (settingsReport m), t⟩
      | .ok c =>
        match c.problem? with
        | some e => .error (fail mode (path ++ ": " ++ e.message) t)
        | none => .ok c

/-- End of a run that was answered; one that waits for ever has no exit code. -/
def finish (mode : Console.Mode) (f : Finished) : Launched :=
  match f.result with
  | .ok () => ⟨some 0, f.printed, none, f.session.files⟩
  | .error .endless => ⟨none, f.printed, none, f.session.files⟩
  | .error (.failed (.disconnected n m)) =>
    ⟨some 1, f.printed, some (connectionReport (.disconnected n m)), f.session.files⟩
  | .error (.failed e) =>
    ⟨some 1, f.printed ++ (Console.Message.error e.message).print mode, none, f.session.files⟩

/-- Name of the file of variables in the base directory. -/
def variablesFile : String := ".env"

/-- Variables of a run: those of the environment, and those of the file that are not among them. -/
def withVariables (env : Environment) (t : Files.Tree) : Environment :=
  match t.read variablesFile with
  | .ok bytes => Environment.File.load env bytes
  | .error _ => env

/-- Files that a configuration file refers to. -/
def referencesOf (t : Files.Tree) (path : String) : List String :=
  match Kubeconfig.readFile t path with
  | .ok (some k) => k.references
  | _ => []

/-- Files of a run with settings, as far as the files that are there tell. -/
def readsWith (env : Environment) (t : Files.Tree) (c : Settings) : List String :=
  let configs := c.kubeconfigPaths env
  c.selectionPath env :: (if c.kubectl.toList.contains '/' then [c.kubectl] else []) ++ configs ++
    configs.flatMap (referencesOf t)

/-- Files that a run looks at, as far as the files that are there tell. -/
def reads (env : Environment) (t : Files.Tree) (args : List String) : List String :=
  let env := withVariables env t
  variablesFile :: match Arguments.parse args with
    | .error _ => []
    | .ok a =>
      let path := a.config.getD env.defaultConfig
      path :: match settings a.mode t path a.config.isSome with
        | .error _ => []
        | .ok c => readsWith env t c

/-- A run of the program. -/
def run (env : Environment) (transport : Cluster.Api.Transport) (t : Files.Tree) (now : Time.Stamp)
    (outside : Outside) (args : List String) : Launched :=
  let env := withVariables env t
  match Arguments.parse args with
  | .error e => refuse e t
  | .ok a =>
    match settings a.mode t (a.config.getD env.defaultConfig) a.config.isSome with
    | .error ended => ended
    | .ok c =>
      match Session.build env c transport t with
      | .error e => fail a.mode e.message t
      | .ok s => finish a.mode (a.run s now outside)

end Launch

end Fleet.Cli
