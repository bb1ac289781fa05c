import PulseTrain.Pipeline.Properties

/-!
# Passes

A pass transforms or inspects the timeline of a compilation. It sees and may change the timeline and
the properties that all passes share, and it may fail; what it changed before failing stays changed.
-/

namespace PulseTrain

/-- A timeline on its way through the passes. -/
structure Workpiece (K : NoteKinds) where
  /-- The timeline. -/
  timeline : Timeline
  /-- What the passes share. -/
  properties : Properties K

/-- A computation of a pass: it may fail, and it leaves a workpiece in either case. -/
abbrev PassM (K : NoteKinds) := ExceptT CompileError (StateM (Workpiece K))

/-- Whether a pass may change the timeline. -/
inductive PassKind where
  /-- The pass only reads the timeline. -/
  | analysis
  /-- The pass transforms the timeline. -/
  | transformation
deriving DecidableEq

/-- One transformation or inspection of the timeline. -/
structure Pass (K : NoteKinds) where
  /-- The name of the pass. -/
  name : String
  /-- Whether it may change the timeline. -/
  kind : PassKind
  /-- Whether there is anything for it to do. -/
  shouldRun : Workpiece K → Bool := fun _ => true
  /-- What it does. -/
  action : PassM K Unit

variable {K : NoteKinds}

namespace Pass

/-- Moves every breakpoint to the grid; notes the length of the unit and the spans that
disappeared. -/
def quantize : Pass K where
  name := "quantize_timeline"
  kind := .transformation
  action := do
    let w ← get
    let q ← w.properties.requireQuantum
    let (timeline, collapsed) ← w.timeline.quantized q
    let properties := { w.properties with unitLength := some timeline.length }
    set (Workpiece.mk timeline (properties.withNote .collapsed collapsed))

/-- Plays the unit as often as the plan says; notes the gap between repetitions, and the length of
the unit unless it is known. -/
def expand : Pass K where
  name := "expand_repetitions"
  kind := .transformation
  shouldRun := fun w => w.properties.repetitions ≠ 1
  action := do
    let w ← get
    let p := w.properties
    let q ← p.requireQuantum
    let (timeline, gap) ← w.timeline.repeated q p.repetitions p.interval
    let unitLength := p.unitLength <|> some w.timeline.length
    set (Workpiece.mk timeline { p with unitLength, gap := some gap })

/-- Looks for flaws; notes what was verified. -/
def verify : Pass K where
  name := "verify_sequence"
  kind := .analysis
  action := do
    let w ← get
    let p := w.properties
    match w.timeline.verify p.quantum p.repetitions p.unitLength (p.gap.getD 0) with
    | .ok verification =>
      set { w with properties := p.withNote .verification verification }
    | .error flaw => throw (.passFailed "verify_sequence" flaw.message)

end Pass

end PulseTrain
