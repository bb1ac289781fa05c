import PulseTrain.CommandLine.Grammar

/-!
# Usage texts

The commands with their options, a line for each command that says what to do.
-/

namespace PulseTrain

namespace CommandLine

namespace ValueKind

/-- What stands for a value. -/
def usage : ValueKind → String
  | path => "path"
  | format => "|".intercalate (formats.map Prod.fst)
  | nanoseconds => "ns"
  | count => "n"

end ValueKind

namespace Opt

/-- An option as it is given. -/
def usage (o : Opt) : String :=
  let value := match o.effect with
    | .value kind _ => s!" <{kind.usage}>"
    | _ => ""
  match o.short with
  | some c => s!"[-{c}, --{o.name}{value}]"
  | none => s!"[--{o.name}{value}]"

end Opt

namespace Command

variable {α : Type}

/-- How a command is given after the words in front of it. -/
def usage (front : String) : Command α → List String
  | action name options _ => [" ".intercalate (s!"{front}{name}" :: options.map Opt.usage)]
  | group name options commands =>
    " ".intercalate (s!"{front}{name}" :: options.map Opt.usage ++ ["<command>"]) ::
      commands.flatMap fun c => c.usage s!"{front}{name} "

end Command

end CommandLine

end PulseTrain
