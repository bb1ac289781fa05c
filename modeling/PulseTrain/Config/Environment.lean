import PulseTrain.Config.Basic
import PulseTrain.Nanoseconds
import PulseTrain.Program.Host
import PulseTrain.Text.Lowercase
import PulseTrain.Text.Value

/-!
# Settings from environment variables

An environment variable overrides the setting of a configuration that it stands for. White space at
the ends of its value does not count.
-/

namespace PulseTrain

namespace Config

/-- The variable of the quantum. -/
def quantumVariable : String := "STROBE_QUANTUM_NS"

/-- The variable of the channel names. -/
def channelsVariable : String := "STROBE_CHANNELS"

/-- The variable of the log level. -/
def levelVariable : String := "STROBE_LOG_LEVEL"

/-- The quantum that a text gives: a decimal number that a 64-bit counter can hold. -/
def readQuantum (value : String) : Except ConfigError Nanoseconds :=
  match Decimal.natural? Nanoseconds.limit (Text.trim value) with
  | some n => .ok n
  | none => .error (.invalid s!"{quantumVariable} is not a number: {value}")

/-- The channel names that a text gives, separated by commas; blank ones are left out. -/
def readChannels (value : String) : List String :=
  ((value.splitOn ",").map Text.trim).filter (· ≠ "")

/-- The log level that a text gives, in any case. -/
def readLevel (value : String) : String := Text.lowercase (Text.trim value)

/-- The configuration with the settings of the variables that are set. -/
def withEnvironment (c : Config) (env : Environment) :
    Except ConfigError Config := do
  let quantum ← match env quantumVariable with
    | some v => readQuantum v
    | none => pure c.hardware.quantum
  return { c with
    hardware :=
      { quantum
        channels := ((env channelsVariable).map readChannels).getD c.hardware.channels }
    logging := ⟨((env levelVariable).map readLevel).getD c.logging.level⟩ }

end Config

end PulseTrain
