import PulseTrain.Config.Document
import PulseTrain.Config.Environment
import PulseTrain.Program.Error

/-!
# Loading files

The parameters of an experiment step come from one file. The configuration comes from the file that
is named, or else from the first of the usual places that has one, or else from the standard values;
environment variables override it.
-/

namespace PulseTrain

variable {m : Type → Type} [Monad m] [Host m]

namespace TimingParams

/-- The parameters in a file. -/
def load (path : String) : m (Except ProgramError TimingParams) := do
  if ← Host.isPresent path then
    match ← Host.load path with
    | .ok text =>
      return (ofText (FilePath.extension? path) text).mapError (.badParameters path)
    | .error fault => return .error (.unreadable path fault)
  else
    return .error (.noFile path)

end TimingParams

namespace Config

/-- The configuration in a file. -/
def ofFile (path : String) : m (Except ConfigError Config) := do
  match ← Host.load path with
  | .ok text => return ofYaml text
  | .error fault => return .error (.unreadable s!"{path}: {fault.message}")

/-- The file in the working directory that may hold the configuration. -/
def localFile : String := "strobe.yaml"

/-- The directory of the user's configuration files: the one that `XDG_CONFIG_HOME` names, if its
path starts at the root, or else `.config` within the directory that `HOME` names. -/
def userDirectory? : m (Option String) := do
  match (← Host.readVariable "XDG_CONFIG_HOME").filter fun d => d.startsWith "/" with
  | some d => return some d
  | none =>
    let home := (← Host.readVariable "HOME").filter fun d => d ≠ ""
    return home.map fun d => FilePath.within d ".config"

/-- The places where the configuration may be, the most specific first. -/
def places : m (List String) := do
  match ← userDirectory? with
  | some d => return [localFile, FilePath.within d "strobe/config.yaml"]
  | none => return [localFile]

/-- The configuration, from the file that is named if one is. -/
def load (named : Option String) (env : Environment) :
    m (Except ConfigError Config) := do
  let path ← match named with
    | some path => pure (some path)
    | none => (← places).findM? Host.isFile
  let stored ← match path with
    | some path => ofFile path
    | none => pure (.ok {})
  return do
    let c ← (← stored).withEnvironment env
    c.validate
    return c

end Config

end PulseTrain
