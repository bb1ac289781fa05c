import PulseTrain.Pipeline.Plan
import PulseTrain.Sequence.Basic
import PulseTrain.Timeline.Sweep

/-!
# The compiler

A timing spec becomes a sequence: its unit is turned into a timeline, the standard pipeline moves
it to the grid and repeats it, and the timeline is frozen into segments.
-/

namespace PulseTrain

/-- Compiles for one set of channels and one quantum. -/
structure Compiler where
  /-- The declared channels. -/
  channels : ChannelSet
  /-- The step of the pulse generator. -/
  quantum : Quantum
  /-- Whether the result is verified. -/
  verified : Bool := true
deriving DecidableEq

/-- A compiled sequence, with what the passes found out. -/
structure CompileReport where
  /-- The sequence. -/
  sequence : CompiledSequence
  /-- The length of one repetition on the grid. -/
  unitLength : Nanoseconds
  /-- The time between two repetitions on the grid; zero if there is but one. -/
  gap : Nanoseconds
  /-- The spans of one unit that disappeared. -/
  collapsed : CollapsedSpans
deriving DecidableEq

namespace CompileReport

/-- The report on a workpiece that has come through the pipeline. -/
def ofWorkpiece {K : NoteKinds} (w : Workpiece K) : CompileReport :=
  let sequence := CompiledSequence.ofTimeline w.timeline
  { sequence
    unitLength := w.properties.unitLength.getD sequence.total
    gap := w.properties.gap.getD 0
    collapsed := (w.properties.notes.get? .collapsed).getD .none }

end CompileReport

namespace Compiler

/-- The pipeline for a spec. -/
def plan (c : Compiler) (spec : TimingSpec) : PipelinePlan .none :=
  { (({} : PipelinePlan .none).withQuantum c.quantum).forSpec spec with verified := c.verified }

/-- Compiles a spec, and reports what the passes found out. -/
def compileWithReport (c : Compiler) (spec : TimingSpec) : Except CompileError CompileReport := do
  let timeline ← Timeline.ofSpec spec c.channels
  let plan := c.plan spec
  match (Workpiece.mk timeline plan.properties).process plan.passes with
  | (.ok (), w) => return .ofWorkpiece w
  | (.error e, _) => throw e

/-- Compiles a spec. -/
def compile (c : Compiler) (spec : TimingSpec) : Except CompileError CompiledSequence :=
  CompileReport.sequence <$> c.compileWithReport spec

end Compiler

end PulseTrain
