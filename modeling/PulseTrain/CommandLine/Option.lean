import PulseTrain.CommandLine.UsageError
import PulseTrain.Nanoseconds
import PulseTrain.Report.Format
import PulseTrain.Text.Value

/-!
# Options

An option has a long name, often a short one, and an effect. One that takes a value says which
values it admits.
-/

namespace PulseTrain

namespace CommandLine

/-- The value of an option. -/
inductive Value where
  /-- The path of a file. -/
  | path (p : String)
  /-- An output format. -/
  | format (f : OutputFormat)
  /-- A number. -/
  | number (n : Nat)
deriving DecidableEq

/-- The values that an option admits. -/
inductive ValueKind where
  /-- The path of a file. -/
  | path
  /-- An output format. -/
  | format
  /-- A number of nanoseconds. -/
  | nanoseconds
  /-- A number that fits in 32 bits. -/
  | count
deriving DecidableEq

/-- The effect of an option. -/
inductive Effect where
  /-- Asks for help. -/
  | help
  /-- Asks for the version. -/
  | version
  /-- Counts how often it is given. -/
  | tally
  /-- Takes a value, which an environment variable may supply instead. -/
  | value (kind : ValueKind) (fallback : Option String)
deriving DecidableEq

/-- An option. -/
structure Opt where
  /-- The long name. -/
  name : String
  /-- The short name. -/
  short : Option Char
  /-- What it does. -/
  effect : Effect
deriving DecidableEq

/-- The formats by name. -/
def formats : List (String × OutputFormat) :=
  [("table", .table), ("json", .json), ("patterns", .patterns)]

namespace ValueKind

/-- The value that a text gives for the option of that name. -/
def read (kind : ValueKind) (name text : String) : Except UsageError Value :=
  match kind with
  | path => if text = "" then .error (.badValue name) else .ok (.path text)
  | format =>
    match formats.lookup text with
    | some f => .ok (.format f)
    | none => .error (.badValue name)
  | nanoseconds => number (Decimal.natural? Nanoseconds.limit text)
  | count => number (Decimal.unsigned? Word.limit32 text)
where
  /-- The number that was read, if any. -/
  number : Option Nat → Except UsageError Value
    | some n => .ok (.number n)
    | none => .error (.badNumber name)

end ValueKind

namespace Opt

/-- An option that takes a value. -/
def taking (name : String) (kind : ValueKind) (short : Option Char) : Opt :=
  ⟨name, short, .value kind none⟩

/-- The option that asks for help. -/
def help : Opt := ⟨"help", some 'h', .help⟩

/-- The option that asks for the version. -/
def version : Opt := ⟨"version", some 'V', .version⟩

end Opt

end CommandLine

end PulseTrain
