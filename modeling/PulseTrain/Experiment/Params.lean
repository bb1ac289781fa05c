import PulseTrain.Channel.Set
import PulseTrain.Nanoseconds
import Std.Data.TreeMap

/-!
# Experiment parameters

An experiment step is described by a pulse window for each channel name and a repetition plan. The
windows come from defaults; the parameters of a step override them in part. Overrides are signed,
so that a negative one is refused by name and not as unreadable.
-/

namespace PulseTrain

/-- Values by name, in the order of the names. -/
abbrev NameMap (α : Type) := Std.TreeMap String α

/-- When a pulse begins and how long it lasts. -/
structure PulseWindow where
  /-- When the pulse begins, counted from the start of the unit. -/
  start : Nanoseconds
  /-- How long it lasts. -/
  duration : Nanoseconds
deriving DecidableEq

/-- What a step changes in the pulse window of a channel. -/
structure PulseOverride where
  /-- When the pulse begins. -/
  start : Option Int
  /-- How long it lasts. -/
  duration : Option Int
deriving DecidableEq

/-- What a step changes in the defaults. -/
structure TimingParams where
  /-- The changes to pulse windows, by channel name. -/
  pulses : NameMap PulseOverride
  /-- The time with all lines off between two repetitions. -/
  interval : Option Int
  /-- How often the unit is played. -/
  repetitions : Option Int

namespace TimingParams

/-- A step that changes nothing. -/
def empty : TimingParams := ⟨∅, none, none⟩

end TimingParams

/-- The pulse windows and the repetition plan of a step that changes nothing. -/
structure TimingDefaults where
  /-- The pulse windows, by channel name. -/
  pulses : NameMap PulseWindow
  /-- The time with all lines off between two repetitions. -/
  interval : Nanoseconds
  /-- How often the unit is played. -/
  repetitions : Nat

namespace TimingDefaults

/-- Laser, microwave and detection windows of a pulsed magnetic resonance measurement, played once;
two repetitions would be 10 µs apart. -/
def odmr : TimingDefaults :=
  { pulses := .ofList
      [(ChannelSet.laser, PulseWindow.mk 48 1000), (ChannelSet.microwave, PulseWindow.mk 104 104),
        (ChannelSet.detection, PulseWindow.mk 200 504)]
    interval := 10000
    repetitions := 1 }

/-- No pulses, played once. -/
def empty : TimingDefaults := ⟨∅, 0, 1⟩

end TimingDefaults

end PulseTrain
