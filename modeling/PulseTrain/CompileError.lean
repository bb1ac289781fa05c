import PulseTrain.ModelError

/-!
# Errors of compilation

Why a timing spec, or the parameters that describe one, cannot be compiled.
-/

namespace PulseTrain

/-- Why a compilation fails. -/
inductive CompileError where
  /-- A parameter is outside its range. -/
  | invalidParameter (parameter reason : String)
  /-- A pulse is on a channel that is not declared. -/
  | unknownChannel (channel : String)
  /-- No pulse has a positive duration. -/
  | emptyTimingSpec
  /-- The unit has no length. -/
  | degenerateSequence
  /-- A total does not fit in a 64-bit counter. -/
  | overflow (quantity : String)
  /-- A pass found fault with the timeline. -/
  | passFailed (pass reason : String)
  /-- A pass lacks a property that it needs. -/
  | missingProperty (property : String)
  /-- Any other fault of the pulse model. -/
  | model (error : ModelError)
deriving DecidableEq

namespace CompileError

/-- The wording of an error. -/
def message : CompileError → String
  | invalidParameter parameter reason => s!"Invalid parameter '{parameter}': {reason}"
  | unknownChannel channel => s!"Unknown channel '{channel}'"
  | emptyTimingSpec => "Timing spec is empty: nothing to compile"
  | degenerateSequence => "Sequence has zero length"
  | overflow quantity => s!"Arithmetic overflow computing {quantity}"
  | passFailed pass reason => s!"Pass '{pass}' failed: {reason}"
  | missingProperty property => s!"Missing property '{property}' for pass"
  | model error => s!"IR error: {error.message}"

/-- A fault of the pulse model, seen as a failure of the compilation. -/
def ofModel : ModelError → CompileError
  | .invalidParameter parameter reason => invalidParameter parameter reason
  | .unknownChannel channel _ => unknownChannel channel.label
  | .unknownChannelName name => unknownChannel name
  | .emptyTimingSpec => emptyTimingSpec
  | .degenerateSequence => degenerateSequence
  | .overflow quantity => overflow quantity
  | .duplicateChannel name => model (.duplicateChannel name)
  | .tooManyChannels max got => model (.tooManyChannels max got)
  | .invalidTimeline reason => model (.invalidTimeline reason)
  | .invalidSequence reason => model (.invalidSequence reason)

end CompileError

/-- A step that builds a part of the pulse model, within a compilation. -/
instance : MonadLift (Except ModelError) (Except CompileError) :=
  ⟨fun r => r.mapError CompileError.ofModel⟩

end PulseTrain
