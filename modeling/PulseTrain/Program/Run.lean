import PulseTrain.CommandLine.Invocation
import PulseTrain.CommandLine.Usage
import PulseTrain.Experiment.Resolve
import PulseTrain.Program.Load
import PulseTrain.Report.Format

/-!
# The program

From a command line to an outcome. A table is printed with a summary in front; JSON is printed as
it is, so that other programs can read it; what goes to a file leaves a summary behind.
-/

namespace PulseTrain

/-- How a run of the program ends. -/
structure Outcome where
  /-- The exit status. -/
  status : Nat
  /-- What is printed. -/
  output : String
  /-- What is said about a failure. -/
  complaint : String
deriving DecidableEq

namespace PlanOverride

/-- The repetitions of a protocol; what is not given is as configured. -/
def onto (o : PlanOverride) (d : TimingDefaults) : RepetitionPlan :=
  { repetitions := o.repetitions.getD d.repetitions, interval := o.interval.getD d.interval }

end PlanOverride

namespace Program

/-- The name and version of the program. -/
def version : String := "strobe 0.3.0"

/-- The line that sums up a sequence. -/
def summaryLine (s : CompiledSequence) : String := s!"✓ Compiled: {s.summary}\n"

/-- The sequence of an experiment step. -/
def compileParams (c : Config) (p : TimingParams) :
    Except ProgramError (Compiler × CompiledSequence) := do
  let compiler ← c.compiler.mapError .config
  let sequence ← (compiler.compileParams p c.defaults).mapError .compile
  return (compiler, sequence)

/-- The sequence of a protocol. -/
def compilePreset (c : Config) (p : Protocol) (o : PlanOverride) :
    Except ProgramError (Compiler × CompiledSequence) := do
  let compiler ← c.compiler.mapError .config
  let spec ← (p.timingSpec compiler.channels (o.onto c.defaults)).mapError (.badPreset p.name)
  let sequence ← (compiler.compile spec).mapError .compile
  return (compiler, sequence)

variable {m : Type → Type} [Monad m] [Host m]

/-- Hands over a sequence; the answer is what to print. -/
def deliver (d : Delivery) (channels : ChannelSet) (s : CompiledSequence) :
    m (Except ProgramError String) := do
  let text := s.render channels false d.format
  match d.output, d.format with
  | some path, _ =>
    match ← Host.save path text with
    | .ok () => return .ok s!"{summaryLine s}  Output: {path}\n"
    | .error fault => return .error (.unwritable path fault)
  | none, .table => return .ok s!"{summaryLine s}{text}"
  | none, _ => return .ok s!"{text}\n"

/-- Does a task with a configuration; the answer is what to print. -/
def perform (c : Config) : Task → m (Except ProgramError String)
  | .config => return .ok c.render
  | .compile input d => do
    match (← TimingParams.load input) >>= compileParams c with
    | .ok (compiler, s) => deliver d compiler.channels s
    | .error e => return .error e
  | .preset p o d =>
    match compilePreset c p o with
    | .ok (compiler, s) => deliver d compiler.channels s
    | .error e => return .error e

/-- The environment variables that the program looks at. -/
def knownVariables : List String :=
  [CommandLine.configVariable, Config.quantumVariable, Config.channelsVariable,
    Config.levelVariable]

/-- The values of those variables. -/
def environment : m Environment := do
  let values ← knownVariables.mapM fun name => do return (name, ← Host.readVariable name)
  return fun name => (values.lookup name).join

/-- What is said about a command line that asks for nothing the program can do. -/
def refuse (e : UsageError) : Outcome :=
  let usage := "\n".intercalate (CommandLine.program.usage "")
  match e with
  | .versionWanted => ⟨e.exitStatus, s!"{version}\n", ""⟩
  | .helpWanted => ⟨e.exitStatus, s!"{usage}\n", ""⟩
  | e => ⟨e.exitStatus, "", s!"error: {e.message}\n\n{usage}\n"⟩

/-- Runs the program. -/
def run (arguments : List String) : m Outcome := do
  let env ← environment
  match Invocation.ofArguments env arguments with
  | .error e => return refuse e
  | .ok invocation =>
    let result ← match ← Config.load invocation.config env with
      | .ok c => perform c invocation.task
      | .error e => pure (.error (.config e))
    match result with
    | .ok text => return ⟨0, text, ""⟩
    | .error e => return ⟨1, "", s!"Error: {e.message}\n"⟩

end Program

end PulseTrain
