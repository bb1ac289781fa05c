import PulseTrain.Channel.State

/-!
# Errors of the pulse model

Why a quantum, a channel set, a timing spec, a timeline or a sequence is refused.
-/

namespace PulseTrain

/-- Why a value of the pulse model is refused. -/
inductive ModelError where
  /-- A parameter is outside its range. -/
  | invalidParameter (parameter reason : String)
  /-- A pulse is on a channel beyond the declared ones. -/
  | unknownChannel (channel : ChannelId) (declared : Nat)
  /-- No channel has this name. -/
  | unknownChannelName (name : String)
  /-- Two channels share a name. -/
  | duplicateChannel (name : String)
  /-- There are more channels than a state has lines. -/
  | tooManyChannels (max got : Nat)
  /-- No pulse has a positive duration. -/
  | emptyTimingSpec
  /-- The unit has no length. -/
  | degenerateSequence
  /-- The spans do not tile an interval that starts at zero. -/
  | invalidTimeline (reason : String)
  /-- The segments are not those of a sequence. -/
  | invalidSequence (reason : String)
  /-- A total does not fit in a 64-bit counter. -/
  | overflow (quantity : String)
deriving DecidableEq

namespace ModelError

/-- The wording of an error. -/
def message : ModelError → String
  | invalidParameter parameter reason => s!"Invalid parameter '{parameter}': {reason}"
  | unknownChannel channel declared =>
    s!"Channel {channel.label} is not declared (channel set has {declared} channels)"
  | unknownChannelName name => s!"Channel '{name}' is not declared"
  | duplicateChannel name => s!"Channel '{name}' is declared more than once"
  | tooManyChannels max got => s!"Channel set holds at most {max} channels, got {got}"
  | emptyTimingSpec => "Timing spec contains no events with non-zero duration"
  | degenerateSequence => "Sequence has zero length"
  | invalidTimeline reason => s!"Invalid timeline: {reason}"
  | invalidSequence reason => s!"Invalid compiled sequence: {reason}"
  | overflow quantity => s!"Arithmetic overflow computing {quantity}"

end ModelError

end PulseTrain
