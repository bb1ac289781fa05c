import PulseTrain.Pipeline.Pass
import PulseTrain.Pulse.TimingSpec

/-!
# Pipelines

Passes run one after the other; one that has nothing to do is left out, and the first failure ends
the run. The standard pipeline quantizes, repeats and verifies.
-/

namespace PulseTrain

variable {K : NoteKinds}

/-- Runs passes in turn. -/
def runPasses (passes : List (Pass K)) : PassM K Unit :=
  passes.forM fun pass => do
    if pass.shouldRun (← get) then
      pass.action

namespace Workpiece

/-- What passes make of a workpiece: whether they failed, and what they left. -/
def process (w : Workpiece K) (passes : List (Pass K)) : Except CompileError Unit × Workpiece K :=
  (runPasses passes).run.run w

end Workpiece

namespace Properties

/-- The properties for a spec that is compiled for a quantum. -/
def ofSpec (spec : TimingSpec) (q : Quantum) : Properties K :=
  (initial.withQuantum q).withRepetitions spec.repetitions spec.interval

end Properties

/-- The standard pipeline, and the properties that it starts from. -/
structure PipelinePlan (K : NoteKinds) where
  /-- The properties before the first pass. -/
  properties : Properties K := Properties.initial.withQuantum .default
  /-- Whether the result is verified. -/
  verified : Bool := true

namespace PipelinePlan

/-- Takes the repetition plan of a spec. -/
def forSpec (p : PipelinePlan K) (spec : TimingSpec) : PipelinePlan K :=
  { p with properties := p.properties.withRepetitions spec.repetitions spec.interval }

/-- Takes a quantum. -/
def withQuantum (p : PipelinePlan K) (q : Quantum) : PipelinePlan K :=
  { p with properties := p.properties.withQuantum q }

/-- Takes a repetition plan. -/
def withRepetitions (p : PipelinePlan K) (repetitions : Nat) (interval : Nanoseconds) :
    PipelinePlan K :=
  { p with properties := p.properties.withRepetitions repetitions interval }

/-- The passes of the pipeline. -/
def passes (p : PipelinePlan K) : List (Pass K) :=
  [.quantize, .expand] ++ if p.verified then [.verify] else []

end PipelinePlan

end PulseTrain
