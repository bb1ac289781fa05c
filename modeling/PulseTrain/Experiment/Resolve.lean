import PulseTrain.CompileError
import PulseTrain.Compiler
import PulseTrain.Experiment.Params

/-!
# From experiment parameters to timing specs

The parameters of a step are laid over the defaults. Every channel that is named in either gets one
pulse, a pulse of no duration included; pulses come in the order of their channels.
-/

namespace PulseTrain

/-- The number of repetitions is below this one. -/
def repetitionLimit : Nat := Word.limit32

/-- The parameter's value, which must not be negative. -/
def nonNegative (parameter : String) (value : Int) : Except CompileError Nanoseconds :=
  if 0 ≤ value then
    .ok value.toNat
  else
    .error (.invalidParameter parameter s!"must be non-negative, got {value}")

/-- The number of repetitions that a step asks for, which has to be positive and to fit in 32
bits. -/
def repetitionCount (value : Int) : Except CompileError Nat :=
  if 1 ≤ value ∧ value < repetitionLimit then
    .ok value.toNat
  else
    .error (.invalidParameter "repetitions"
      s!"must be between 1 and {repetitionLimit - 1}, got {value}")

namespace PulseOverride

/-- The window of a channel with the changes of a step. Without a default window the pulse begins
at zero, and the step has to say how long it lasts. -/
def onto (o : PulseOverride) (name : String) (base : Option PulseWindow) :
    Except CompileError PulseWindow := do
  let start ← match o.start with
    | some v => nonNegative s!"{name}.start_ns" v
    | none => pure ((base.map PulseWindow.start).getD 0)
  let duration ← match o.duration, base with
    | some v, _ => nonNegative s!"{name}.duration_ns" v
    | none, some w => pure w.duration
    | none, none =>
      throw (.invalidParameter s!"{name}.duration_ns"
        "required for a channel without a default pulse")
  return ⟨start, duration⟩

end PulseOverride

namespace TimingParams

/-- The windows of all channels: those of the defaults, with the changes of the step. -/
def windows (p : TimingParams) (d : TimingDefaults) :
    Except CompileError (NameMap PulseWindow) :=
  p.pulses.toList.foldlM
    (fun w (name, o) => do return w.insert name (← o.onto name d.pulses[name]?)) d.pulses

/-- The pulse of a window on the channel of that name. -/
def pulse (channels : ChannelSet) (name : String) (w : PulseWindow) :
    Except CompileError PulseEvent := do
  let channel ← channels.require name
  return ⟨channel, w.start, w.duration⟩

/-- The timing spec of a step. Refused are, in this order: a bad override, in the order of the
names; a name that is not declared; a step without any pulse; a bad interval; a bad number of
repetitions; a pulse that ends too late. -/
def resolve (p : TimingParams) (channels : ChannelSet) (d : TimingDefaults) :
    Except CompileError TimingSpec := do
  let windows ← p.windows d
  let events ← windows.toList.mapM fun (name, w) => pulse channels name w
  if events.isEmpty then
    throw .emptyTimingSpec
  let events := events.mergeSort fun a b => a.channel.index ≤ b.channel.index
  let interval ← match p.interval with
    | some v => nonNegative "sequence_interval_ns" v
    | none => pure d.interval
  let repetitions ← match p.repetitions with
    | some v => repetitionCount v
    | none => pure d.repetitions
  TimingSpec.ofParts events interval repetitions 0

end TimingParams

namespace Compiler

/-- Compiles a step. -/
def compileParams (c : Compiler) (p : TimingParams) (d : TimingDefaults) :
    Except CompileError CompiledSequence := do
  c.compile (← p.resolve c.channels d)

end Compiler

end PulseTrain
