import StaticServer.Config
import StaticServer.Octets
import StaticServer.Site.FileSystem

/-!
# Loading a configuration

The configuration file is named by the environment, and a file that does not exist counts as a file of defaults. Two
more variables of the environment take the place of what the file says. A variable that holds no text counts as not
set.

* `Config.load`: the configuration in force, or why there is none.
-/

namespace StaticServer

namespace Config

/-- The variables of the environment that matter. -/
structure Environment where
  /-- The path of the configuration file. -/
  configPath : Option Bytes := none
  /-- The address to listen on. -/
  listenAddr : Option Bytes := none
  /-- The directory to serve. -/
  root : Option Bytes := none

/-- Where the configuration file is unless the environment says otherwise. -/
def defaultPath : String := "sentinel.yaml"

/-- Why there is no configuration. -/
inductive LoadError
  | unreadable (path : String)
  | invalid (path : String)
  deriving DecidableEq, Repr

/-- The text that goes with a cause. -/
def LoadError.message : LoadError → String
  | unreadable path => "Failed to read config " ++ path
  | invalid path => "Invalid config " ++ path

/-- The configuration of a file. -/
def ofFile (path : String) (node : FileNode) : Except LoadError Config :=
  match node with
  | .file content _ =>
    match Bytes.text? content.octets with
    | none => .error (.unreadable path)
    | some text =>
      match ofYaml? text with
      | none => .error (.invalid path)
      | some c => .ok c
  | _ => .error (.unreadable path)

/-- The configuration in force. -/
def load (fs : FileSystem) (env : Environment) : Except LoadError Config := do
  let path := (env.configPath.bind Bytes.text?).getD defaultPath
  let c ←
    match fs.lookup? path.toList with
    | none => .ok {}
    | some node => ofFile path node
  return { c with
    listenAddr := (env.listenAddr.bind Bytes.text?).getD c.listenAddr
    root := (env.root.bind Bytes.text?).getD c.root }

end Config

end StaticServer
