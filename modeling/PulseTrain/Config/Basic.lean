import PulseTrain.Compiler
import PulseTrain.Experiment.Params

/-!
# Configuration

What stays the same from one experiment to the next: the pulse generator, the default timing and
the level of logging. A configuration is kept as it was written; `validate` decides whether it can
be used, and a valid one has a compiler.
-/

namespace PulseTrain

/-- Why a configuration cannot be had or used. -/
inductive ConfigError where
  /-- Its file cannot be accessed. -/
  | unreadable (reason : String)
  /-- Its document is not that of a configuration. -/
  | malformed (reason : String)
  /-- One of its values is refused. -/
  | invalid (reason : String)
deriving DecidableEq

namespace ConfigError

/-- The wording of an error. -/
def message : ConfigError → String
  | unreadable reason => s!"IO error: {reason}"
  | malformed reason => s!"Parse error: {reason}"
  | invalid reason => s!"Validation error: {reason}"

/-- A fault of the pulse model, seen as a bad value of a configuration. -/
def ofModel (e : ModelError) : ConfigError := invalid e.message

end ConfigError

/-- The pulse generator. -/
structure Hardware where
  /-- The time step in nanoseconds. -/
  quantum : Nanoseconds := Quantum.default.ns
  /-- The channel names, in the order of the output lines. -/
  channels : List String := ChannelSet.odmr.names
deriving DecidableEq

/-- How much is logged. -/
structure Logging where
  /-- The level, one of `Logging.levels`. -/
  level : String := "warn"
deriving DecidableEq

namespace Logging

/-- The levels, from the most talkative to the most silent. -/
def levels : List String := ["trace", "debug", "info", "warn", "error"]

end Logging

/-- A configuration. -/
structure Config where
  /-- The pulse generator. -/
  hardware : Hardware := {}
  /-- The timing that experiment parameters are laid over. -/
  defaults : TimingDefaults := .odmr
  /-- How much is logged. -/
  logging : Logging := {}

namespace Config

/-- The declared channels, of which there is at least one. -/
def channelSet (c : Config) : Except ConfigError ChannelSet :=
  if c.hardware.channels.isEmpty then
    .error (.invalid "hardware.channels must not be empty")
  else
    (ChannelSet.ofNames c.hardware.channels).mapError .ofModel

/-- The step of the pulse generator. -/
def quantum (c : Config) : Except ConfigError Quantum :=
  (Quantum.ofNat c.hardware.quantum).mapError .ofModel

/-- The compiler for the pulse generator. -/
def compiler (c : Config) : Except ConfigError Compiler := do
  let channels ← c.channelSet
  let quantum ← c.quantum
  return { channels, quantum }

/-- Refuses a configuration that cannot be used: for its channels, its quantum, a default pulse on
a channel that is not declared, no repetitions, or an unknown log level, in this order. -/
def validate (c : Config) : Except ConfigError Unit := do
  let channels ← c.channelSet
  let _ ← c.quantum
  if let some name := c.defaults.pulses.keys.find? fun name => (channels.id? name).isNone then
    throw (.invalid s!"Default pulse on undeclared channel: {name}")
  if c.defaults.repetitions = 0 then
    throw (.invalid "defaults.repetitions must be greater than 0")
  if !Logging.levels.contains c.logging.level then
    throw (.invalid s!"Invalid log level: {c.logging.level}")

end Config

end PulseTrain
