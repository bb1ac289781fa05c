import PulseTrain.Channel.Set
import PulseTrain.Pulse.TimingSpec
import PulseTrain.Sequence.Basic

/-!
# Channel patterns

What one line does over a sequence: how long it is held at each level, in turn. Digital pattern
generators take one such array for each line. Read back as pulses, the patterns of all lines give a
timing spec with the same waveform.
-/

namespace PulseTrain

/-- A level and how long it is held. -/
structure Run where
  /-- How long. -/
  duration : Nanoseconds
  /-- Whether the line is on. -/
  on : Bool
deriving DecidableEq

namespace Run

/-- Puts a run in front of others; a first run with the same level is lengthened instead. -/
def prepend (r : Run) : List Run → List Run
  | [] => [r]
  | first :: rest =>
    if first.on = r.on then ⟨r.duration + first.duration, r.on⟩ :: rest else r :: first :: rest

end Run

namespace CompiledSequence

/-- How long a line is held at each level, in turn. -/
def channelPattern (s : CompiledSequence) (c : ChannelId) : List Run :=
  s.segments.foldr (fun seg runs => Run.prepend ⟨seg.duration, seg.state.isOn c⟩ runs) []

/-- How long a line is on in total. -/
def onTime (s : CompiledSequence) (c : ChannelId) : Nanoseconds :=
  s.segments.foldr (fun seg t => if seg.state.isOn c then seg.duration + t else t) 0

/-- A pulse for every run that is on, the first run starting at `start`. Every run has to end
within the range of a 64-bit counter. -/
def pulsesFrom (c : ChannelId) (start : Nanoseconds) :
    List Run → Except ModelError (List PulseEvent)
  | [] => .ok []
  | r :: rest =>
    match Nanoseconds.add? start r.duration with
    | none => .error (.overflow "channel pattern length")
    | some stop => do
      let later ← pulsesFrom c stop rest
      return if r.on then ⟨c, start, r.duration⟩ :: later else later

/-- The spec that plays the sequence once: a pulse for every run of every channel that is on, and
the sequence's own length as the least length of the unit. -/
def toTimingSpec (s : CompiledSequence) (channels : ChannelSet) :
    Except ModelError TimingSpec := do
  let pulses ← channels.ids.mapM fun c => pulsesFrom c 0 (s.channelPattern c)
  TimingSpec.ofParts pulses.flatten 0 1 s.total

end CompiledSequence

end PulseTrain
