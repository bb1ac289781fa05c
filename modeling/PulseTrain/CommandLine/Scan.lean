import PulseTrain.CommandLine.Grammar
import PulseTrain.Program.Host

/-!
# Reading a command line

The arguments are read from left to right. A value that stands apart from its option is only looked
at when the next option or the end of the command is reached; so an unknown option is reported
before a bad value in front of it. A command is finished from the inside out.
-/

namespace PulseTrain

namespace CommandLine

/-- What has been read of the arguments of one command. -/
structure Scan where
  /-- What is given. -/
  given : Givens := []
  /-- The last option that takes a value, if the value stands apart: the value is there or still
  to come. -/
  pending : Option (Opt × ValueKind × Option String) := none
  /-- Whether a double dash was read, after which nothing is an option. -/
  trailing : Bool := false

namespace Scan

/-- The highest count of a tally. -/
def tallyLimit : Nat := 255

/-- Whether the next argument may be the value of an option. -/
def awaits (s : Scan) : Bool :=
  match s.pending with
  | some (_, _, none) => true
  | _ => false

/-- An option is given a value. -/
def give (s : Scan) (o : Opt) (kind : ValueKind) (text : String) : Except UsageError Scan := do
  if (s.given.get? o.name).isSome then
    throw (.repeatedOption o.name)
  let value ← kind.read o.name text
  return { s with given := s.given ++ [⟨o.name, value, .commandLine⟩] }

/-- Looks at the option whose value stands apart. -/
def settle (s : Scan) : Except UsageError Scan :=
  match s.pending with
  | none => .ok s
  | some (o, _, none) => .error (.badValue o.name)
  | some (o, kind, some text) => give { s with pending := none } o kind text

/-- An option is counted once more. -/
def count (s : Scan) (o : Opt) : Scan :=
  let n := min ((s.given.number? o.name).getD 0 + 1) tallyLimit
  { s with given := s.given.filter (·.name ≠ o.name) ++ [⟨o.name, .number n, .commandLine⟩] }

/-- An option is read, with a value if one is attached to it. -/
def option (s : Scan) (o : Opt) (attached : Option String) : Except UsageError Scan :=
  match o.effect, attached with
  | .value kind _, some text => do (← s.settle).give o kind text
  | .value kind _, none => do
    let s ← s.settle
    return { s with pending := some (o, kind, none) }
  | _, some _ => .error (.needlessValue o.name)
  | .tally, none => do return (← s.settle).count o
  | .help, none => do
    let _ ← s.settle
    throw .helpWanted
  | .version, none => do
    let _ ← s.settle
    throw .versionWanted

variable {α : Type}

/-- An option is read by its long name; a value may be attached with an equals sign. -/
def long (s : Scan) (c : Command α) (text : List Char) : Except UsageError Scan :=
  let name := String.ofList (text.takeWhile (· ≠ '='))
  match c.long? name, text.dropWhile (· ≠ '=') with
  | some o, _ :: value => s.option o (some (.ofList value))
  | some o, [] => s.option o none
  | none, _ => .error (.unknownArgument name)

/-- Options are read by their short names. The rest behind the first one that takes a value is its
value; an equals sign in between is left out. -/
def short (s : Scan) (c : Command α) : List Char → Except UsageError Scan
  | [] => .ok s
  | name :: rest =>
    match c.short? name with
    | none => .error (.unknownArgument name.toString)
    | some o =>
      match o.effect, rest with
      | .value _ _, [] => s.option o none
      | .value _ _, '=' :: value => s.option o (some (.ofList value))
      | .value _ _, value => s.option o (some (.ofList value))
      | _, rest => do (← s.option o none).short c rest

/-- An argument that is neither an option nor the value of one nor a command. -/
def stray (s : Scan) (c : Command α) (text : String) : UsageError :=
  if c.commands.isEmpty || (s.trailing && c.offers text) then .unknownArgument text
  else .unknownCommand text

/-- An argument that names no command. -/
def argument (s : Scan) (c : Command α) (text : String) : Except UsageError Scan :=
  if s.trailing then
    .error (s.stray c text)
  else
    match text.toList, s.pending with
    | ['-', '-'], _ => .ok { s with trailing := true }
    | '-' :: '-' :: name, _ => s.long c name
    | '-' :: name :: names, _ => s.short c (name :: names)
    | _, some (o, kind, none) => .ok { s with pending := some (o, kind, some text) }
    | _, _ => .error (s.stray c text)

/-- The environment supplies options that are not given. -/
def fill (s : Scan) (c : Command α) (env : Environment) :
    Except UsageError Scan :=
  c.options.foldlM
    (fun s o =>
      match o.effect with
      | .value kind (some v) =>
        match s.given.get? o.name, env v with
        | none, some text => do
          let value ← kind.read o.name text
          return { s with given := s.given ++ [⟨o.name, value, .environment⟩] }
        | _, _ => .ok s
      | _ => .ok s)
    s

/-- What is given to a command whose arguments have all been read. -/
def close (s : Scan) (c : Command α) (env : Environment) :
    Except UsageError Givens := do
  let s ← s.settle
  let s ← s.fill c env
  return s.given

end Scan

namespace Command

variable {α : Type}

/-- What a command that is not followed by another one means. -/
def conclude (c : Command α) (given : Givens) : Except UsageError α :=
  match c with
  | action _ _ meaning => meaning given
  | group _ _ _ => .error (if given.isEmpty then .nothingSaid else .missingCommand)

/-- Reads the arguments of a command: what they mean, and what is given to it and the commands
within it. -/
def scan (env : Environment) (c : Command α) (s : Scan) :
    List String → Except UsageError (α × Givens)
  | [] => do
    let given ← s.close c env
    return (← c.conclude given, given)
  | text :: rest =>
    if s.trailing || s.awaits || !c.offers text then do
      c.scan env (← s.argument c text) rest
    else
      match c.command? text with
      | none => .error (c.helpWith rest)
      | some inner => do
        let (a, given) ← inner.scan env {} rest
        return (a, given.onto (← s.close c env))

end Command

end CommandLine

end PulseTrain
