import PulseTrain.CompileError
import PulseTrain.Config.Basic
import PulseTrain.Document.ParameterFile
import PulseTrain.Program.Host

/-!
# Errors of the program

Why the program cannot do what it was asked to. Most errors have a cause that is told after them.
-/

namespace PulseTrain

/-- Why the program fails. -/
inductive ProgramError where
  /-- There is no usable configuration. -/
  | config (cause : ConfigError)
  /-- There is no parameter file at the path. -/
  | noFile (path : String)
  /-- The parameter file cannot be read. -/
  | unreadable (path : String) (cause : Fault)
  /-- The text of the parameter file does not give parameters. -/
  | badParameters (path : String) (cause : MarkupError)
  /-- The sequence cannot be compiled. -/
  | compile (cause : CompileError)
  /-- The protocol cannot be laid out. -/
  | badPreset (name : String) (cause : CompileError)
  /-- The sequence cannot be written. -/
  | unwritable (path : String) (cause : Fault)
deriving DecidableEq

namespace ProgramError

/-- The wordings of an error and its causes, each followed by its own cause. -/
def chain : ProgramError → List String
  | config cause => [cause.message]
  | noFile path => [s!"File not found: {path}"]
  | unreadable path cause => [s!"Failed to read file: {path}", cause.message]
  | badParameters path cause => [s!"Invalid parameter file: {path}", cause.message]
  | compile cause => [cause.message]
  | badPreset name cause => [s!"Invalid {name} preset", cause.message]
  | unwritable path cause => [s!"Failed to write file: {path}", cause.message]

/-- The wording of an error with its causes. -/
def message (e : ProgramError) : String := ": ".intercalate e.chain

end ProgramError

end PulseTrain
