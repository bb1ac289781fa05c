import PulseTrain.CommandLine.Option

/-!
# Commands and what is given to them

A command has options, and either further commands or a meaning. What is given to a command is kept
with where it comes from, because what stands on the command line counts more than the environment.
-/

namespace PulseTrain

namespace CommandLine

/-- Where the value of an option comes from; the later one counts more. -/
inductive Source where
  /-- An environment variable. -/
  | environment
  /-- The command line. -/
  | commandLine
deriving DecidableEq

/-- The value of an option, and where it comes from. -/
structure Given where
  /-- The name of the option. -/
  name : String
  /-- Its value. -/
  value : Value
  /-- Where it comes from. -/
  source : Source
deriving DecidableEq

/-- What is given to one command; a name occurs once. -/
abbrev Givens := List Given

namespace Givens

/-- The option of that name, if it is given. -/
def get? (gs : Givens) (name : String) : Option Given := gs.find? fun g => g.name = name

/-- The path given for an option. -/
def path? (gs : Givens) (name : String) : Option String :=
  match (gs.get? name).map Given.value with
  | some (.path p) => some p
  | _ => none

/-- The number given for an option. -/
def number? (gs : Givens) (name : String) : Option Nat :=
  match (gs.get? name).map Given.value with
  | some (.number n) => some n
  | _ => none

/-- The format given for an option. -/
def format? (gs : Givens) (name : String) : Option OutputFormat :=
  match (gs.get? name).map Given.value with
  | some (.format f) => some f
  | _ => none

/-- What is given to a command and to the command within it: of an option that is given to both,
the inner one counts, unless only the outer one is on the command line. -/
def onto (inner outer : Givens) : Givens :=
  let kept := outer.filter fun o =>
    match inner.get? o.name with
    | some i => o.source = .commandLine && i.source = .environment
    | none => true
  kept ++ inner.filter fun i => (get? kept i.name).isNone

end Givens

/-- A command; a command line that ends in it means an `α`. -/
inductive Command (α : Type) where
  /-- A command that is followed by another one. -/
  | group (name : String) (options : List Opt) (commands : List (Command α))
  /-- A command that says what to do. -/
  | action (name : String) (options : List Opt) (meaning : Givens → Except UsageError α)

namespace Command

variable {α : Type}

/-- The name of a command. -/
def name : Command α → String
  | group name _ _ => name
  | action name _ _ => name

/-- The options of a command. -/
def options : Command α → List Opt
  | group _ options _ => options
  | action _ options _ => options

/-- The commands that may follow. -/
def commands : Command α → List (Command α)
  | group _ _ commands => commands
  | action _ _ _ => []

/-- The command of that name among those that may follow. -/
def command? (c : Command α) (name : String) : Option (Command α) :=
  c.commands.find? fun s => s.name = name

/-- The option of that long name. -/
def long? (c : Command α) (name : String) : Option Opt :=
  c.options.find? fun o => o.name = name

/-- The option of that short name. -/
def short? (c : Command α) (short : Char) : Option Opt :=
  c.options.find? fun o => o.short = some short

/-- The name of the command that helps with the others; it is there wherever others are. -/
def helpName : String := "help"

/-- Whether a command of that name may follow. -/
def offers (c : Command α) (name : String) : Bool :=
  (c.command? name).isSome || (name = helpName && !c.commands.isEmpty)

/-- What it means to ask for help with the command that the names lead to, if they do. -/
def helpWith (c : Command α) : List String → UsageError
  | [] => .helpWanted
  | n :: ns =>
    match c.command? n with
    | some s => s.helpWith ns
    | none => if c.offers n && ns.isEmpty then .helpWanted else .unknownCommand n

end Command

end CommandLine

end PulseTrain
