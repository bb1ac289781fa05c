/-!
# Usage errors

Why a command line is not an invocation of the program. Asking for help or for the version also
ends the reading of a command line, but with success.
-/

namespace PulseTrain

/-- Why a command line is not an invocation. -/
inductive UsageError where
  /-- Help was asked for. -/
  | helpWanted
  /-- The version was asked for. -/
  | versionWanted
  /-- A command is missing, and nothing else was said. -/
  | nothingSaid
  /-- A command is missing. -/
  | missingCommand
  /-- There is no such command. -/
  | unknownCommand (name : String)
  /-- There is no such option, or the argument is one too many. -/
  | unknownArgument (text : String)
  /-- An option that has to be given is not. -/
  | missingOption (name : String)
  /-- An option is given twice. -/
  | repeatedOption (name : String)
  /-- An option that takes no value is given one. -/
  | needlessValue (name : String)
  /-- The value of an option is missing or not one of those that it may have. -/
  | badValue (name : String)
  /-- The value of an option is not a number in its range. -/
  | badNumber (name : String)
deriving DecidableEq

namespace UsageError

/-- The wording of an error. -/
def message : UsageError → String
  | helpWanted => "help requested"
  | versionWanted => "version requested"
  | nothingSaid => "a command is required"
  | missingCommand => "a command is required"
  | unknownCommand name => s!"unknown command '{name}'"
  | unknownArgument text => s!"unexpected argument '{text}'"
  | missingOption name => s!"--{name} is required"
  | repeatedOption name => s!"--{name} cannot be used more than once"
  | needlessValue name => s!"--{name} takes no value"
  | badValue name => s!"invalid or missing value for --{name}"
  | badNumber name => s!"invalid number for --{name}"

/-- The exit status: only a wish that was fulfilled counts as success. -/
def exitStatus : UsageError → Nat
  | helpWanted => 0
  | versionWanted => 0
  | _ => 2

end UsageError

end PulseTrain
