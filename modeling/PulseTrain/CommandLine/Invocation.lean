import PulseTrain.CommandLine.Scan
import PulseTrain.Protocol.Basic

/-!
# Invocations of the program

The commands of the program with their options, and what a command line asks for: to compile an
experiment step, to compile a standard protocol, or to show the configuration.
-/

namespace PulseTrain

/-- How a compiled sequence is handed over. -/
structure Delivery where
  /-- The file that it is written to; without one it is printed. -/
  output : Option String
  /-- How it is shown. -/
  format : OutputFormat
deriving DecidableEq

/-- What a command line says of the repetitions of a protocol. -/
structure PlanOverride where
  /-- How often the unit is played. -/
  repetitions : Option Nat
  /-- The time with all lines off between two repetitions. -/
  interval : Option Nanoseconds
deriving DecidableEq

/-- What the program is asked to do. -/
inductive Task where
  /-- Compile the experiment step in a file. -/
  | compile (input : String) (delivery : Delivery)
  /-- Compile a standard protocol. -/
  | preset (protocol : Protocol) (plan : PlanOverride) (delivery : Delivery)
  /-- Show the configuration. -/
  | config
deriving DecidableEq

/-- What a command line asks for. -/
structure Invocation where
  /-- How many steps more than configured is logged. -/
  verbosity : Nat
  /-- The configuration file. -/
  config : Option String
  /-- What to do. -/
  task : Task
deriving DecidableEq

namespace CommandLine

/-- The environment variable that names the configuration file. -/
def configVariable : String := "STROBE_CONFIG"

/-- The options that every command has. -/
def commonOptions : List Opt :=
  [⟨"verbose", some 'v', .tally⟩, ⟨"config", some 'c', .value .path (some configVariable)⟩,
    .help]

/-- The options of commands that compile something. -/
def deliveryOptions : List Opt :=
  [.taking "output" .path (some 'o'), .taking "format" .format (some 'f')]

/-- How the sequence is to be handed over; a table, if nothing is said. -/
def delivery (gs : Givens) : Delivery := ⟨gs.path? "output", (gs.format? "format").getD .table⟩

/-- The command that compiles an experiment step. -/
def compileCommand : Command Task :=
  .action "compile" (.taking "input" .path (some 'i') :: (deliveryOptions ++ commonOptions))
    fun gs =>
      match gs.path? "input" with
      | some input => .ok (.compile input (delivery gs))
      | none => .error (.missingOption "input")

/-- The command that compiles a protocol. Each setting has an option, and those that are not given
keep their standard value. -/
def protocolCommand {P : Type} (name : String) (standard : P) (protocol : P → Protocol)
    (settings : List (String × (P → Nanoseconds → P))) : Command Task :=
  let settingOptions := settings.map fun (option, _) => Opt.taking option .nanoseconds none
  let planOptions :=
    [Opt.taking "repetitions" .count (some 'r'), .taking "interval-ns" .nanoseconds none]
  .action name (settingOptions ++ planOptions ++ deliveryOptions ++ commonOptions) fun gs =>
    let p := settings.foldl
      (fun p (option, set) => ((gs.number? option).map (set p)).getD p) standard
    .ok (.preset (protocol p) ⟨gs.number? "repetitions", gs.number? "interval-ns"⟩ (delivery gs))

/-- The command for pulsed magnetic resonance. -/
def odmrCommand : Command Task :=
  protocolCommand "odmr" {} .odmr
    [("laser-start-ns", fun p t => { p with laser.start := t }),
      ("laser-ns", fun p t => { p with laser.duration := t }),
      ("mw-start-ns", fun p t => { p with microwave.start := t }),
      ("mw-ns", fun p t => { p with microwave.duration := t }),
      ("detection-start-ns", fun p t => { p with detection.start := t }),
      ("detection-ns", fun p t => { p with detection.duration := t })]

/-- The command for Rabi oscillation. -/
def rabiCommand : Command Task :=
  protocolCommand "rabi" {} .rabi
    [("laser-ns", fun p t => { p with laser := t }), ("wait-ns", fun p t => { p with wait := t }),
      ("mw-ns", fun p t => { p with microwave := t }),
      ("detection-ns", fun p t => { p with detection := t })]

/-- The command for Ramsey interferometry. -/
def ramseyCommand : Command Task :=
  protocolCommand "ramsey" {} .ramsey
    [("laser-ns", fun p t => { p with laser := t }),
      ("pi-half-ns", fun p t => { p with piHalf := t }),
      ("tau-ns", fun p t => { p with tau := t }),
      ("detection-ns", fun p t => { p with detection := t })]

/-- The command for the spin echo. -/
def spinEchoCommand : Command Task :=
  protocolCommand "spin-echo" {} .spinEcho
    [("laser-ns", fun p t => { p with laser := t }),
      ("pi-half-ns", fun p t => { p with piHalf := t }), ("pi-ns", fun p t => { p with pi := t }),
      ("tau-ns", fun p t => { p with tau := t }),
      ("detection-ns", fun p t => { p with detection := t })]

/-- The command for T1 relaxation. -/
def t1Command : Command Task :=
  protocolCommand "t1" {} .t1
    [("init-delay-ns", fun p t => { p with initDelay := t }),
      ("init-laser-ns", fun p t => { p with initLaser := t }),
      ("delay-ns", fun p t => { p with delay := t }),
      ("readout-laser-ns", fun p t => { p with readoutLaser := t }),
      ("detection-ns", fun p t => { p with detection := t })]

/-- The command that compiles standard protocols. -/
def presetCommand : Command Task :=
  .group "preset" commonOptions
    [odmrCommand, rabiCommand, ramseyCommand, spinEchoCommand, t1Command]

/-- The command that shows the configuration. -/
def configCommand : Command Task := .action "config" commonOptions fun _ => .ok .config

/-- The program. -/
def program : Command Task :=
  .group "strobe" (.version :: commonOptions) [compileCommand, presetCommand, configCommand]

end CommandLine

namespace Invocation

/-- What a command line asks for. -/
def ofArguments (env : Environment) (arguments : List String) :
    Except UsageError Invocation := do
  let (task, given) ← CommandLine.program.scan env {} arguments
  return { verbosity := (given.number? "verbose").getD 0, config := given.path? "config", task }

end Invocation

end PulseTrain
