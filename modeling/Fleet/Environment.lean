import Fleet.Files.Tree
import Fleet.Settings.Basic

/-!
# Environment

Variables decide where files are kept when settings do not.

The user's directory is the one a variable names, else that of the account, else the current one;
the program's own files lie below it unless a variable moves them. There a variable set to nothing
counts as not set (`filled?`). Settings come before variables (`Settings.kubeconfigPaths`,
`Settings.selectionPath`).
-/

namespace Fleet

/-- Variables and their values, and the home directory of the account. -/
structure Environment where
  vars : List (String × String)
  account : Option String
  deriving Repr, DecidableEq

namespace Environment

/-- Value of a variable. -/
def get? (e : Environment) (name : String) : Option String :=
  (e.vars.find? (·.1 = name)).map (·.2)

/-- Value of a variable that is not empty. -/
def filled? (e : Environment) (name : String) : Option String := (e.get? name).filter (· ≠ "")

/-- Variable set unless it is set already. -/
def setNew (e : Environment) (name value : String) : Environment :=
  if (e.get? name).isSome then e else { e with vars := e.vars ++ [(name, value)] }

/-- Directory of the user. -/
def userDir (e : Environment) : String :=
  ((e.filled? "HOME").orElse fun _ => e.account).getD "."

/-- Directory of the program's own files. -/
def homeDir (e : Environment) : String :=
  (e.filled? "KUBEFAN_HOME").getD (Files.under e.userDir ".kubefan")

/-- Configuration file when none is named. -/
def defaultConfig (e : Environment) : String := Files.under e.homeDir "config.toml"

/-- Selection file when none is configured. -/
def defaultSelection (e : Environment) : String := Files.under e.homeDir "selected_contexts"

/-- Files of cluster configuration: those listed in a variable, else the user's. -/
def defaultKubeconfigs (e : Environment) : List String :=
  let listed := (Text.split ':' ((e.get? "KUBECONFIG").getD "")).filter (· ≠ "")
  if listed = [] then [Files.under (Files.under e.userDir ".kube") "config"] else listed

end Environment

namespace Settings

/-- Files of cluster configuration, in merge order. -/
def kubeconfigPaths (s : Settings) (e : Environment) : List String :=
  match s.kubeconfig with
  | some path => [path]
  | none => e.defaultKubeconfigs

/-- File of the selection. -/
def selectionPath (s : Settings) (e : Environment) : String :=
  s.selectionFile.getD e.defaultSelection

end Settings

end Fleet
