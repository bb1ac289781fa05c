import PulseTrain.Quantum
import PulseTrain.Timeline.Basic
import PulseTrain.Timeline.Repeated

/-!
# Verified timelines

What a pulse generator needs of a timeline: the spans tile an interval from zero, each lasts a
positive multiple of the quantum, neighbours differ in state, and the whole lasts as long as the
repetitions of the unit that it was made from.
-/

namespace PulseTrain

/-- What is wrong with a timeline. -/
inductive Flaw where
  /-- There is no quantum to compare with. -/
  | noQuantum
  /-- There are no spans. -/
  | noSpans
  /-- A span does not begin where the one before it ends. -/
  | misplaced (span : Nat) (start expected : Nanoseconds)
  /-- A span has no duration. -/
  | noDuration (span : Nat)
  /-- A duration is not a multiple of the quantum. -/
  | unaligned (span : Nat) (duration : Nanoseconds) (quantum : Quantum)
  /-- A span has the state of the one before it. -/
  | sharedState (span : Nat) (state : ChannelState)
  /-- The whole does not last as long as the repetitions of the unit. -/
  | wrongTotal (total : Nanoseconds) (repetitions : Nat) (unit gap : Nanoseconds)
deriving DecidableEq

namespace Flaw

/-- The wording of a flaw. -/
def message : Flaw → String
  | noQuantum => "no quantum set"
  | noSpans => "timeline has no spans"
  | misplaced span start expected =>
    s!"span {span} starts at {start} ns, expected {expected} ns"
  | noDuration span => s!"span {span} has zero duration"
  | unaligned span duration quantum =>
    s!"span {span} lasts {duration} ns, not a multiple of {quantum.label}"
  | sharedState span state => s!"spans {span - 1} and {span} share state {state.label}"
  | wrongTotal total repetitions unit gap =>
    s!"total is {total} ns, expected {repetitions} x {unit} ns + {repetitions - 1} x {gap} ns"

end Flaw

/-- What a verified timeline was found to be. -/
structure Verification where
  /-- Whether no flaw was found. -/
  passed : Bool
  /-- The number of spans. -/
  spansChecked : Nat
  /-- The length of the timeline. -/
  total : Nanoseconds
deriving DecidableEq

namespace Timeline

/-- Looks at the spans in turn, the first of them span `i` at the instant `cursor`, and gives the
end of the last. -/
def checkSpans (q : Quantum) (i : Nat) (cursor : Nanoseconds) (previous : Option ChannelState) :
    List Span → Except Flaw Nanoseconds
  | [] => .ok cursor
  | s :: rest =>
    if s.start ≠ cursor then
      .error (.misplaced i s.start cursor)
    else if s.duration = 0 then
      .error (.noDuration i)
    else if !q.isAligned s.duration then
      .error (.unaligned i s.duration q)
    else if previous = some s.state then
      .error (.sharedState i s.state)
    else
      checkSpans q (i + 1) s.stop (some s.state) rest

/-- Looks for a flaw in a timeline that plays a unit of length `unit`, if that is known, with a gap
between two repetitions. A count of zero repetitions stands for one. -/
def verify (t : Timeline) (quantum : Option Quantum) (repetitions : Nat)
    (unit : Option Nanoseconds) (gap : Nanoseconds) : Except Flaw Verification := do
  let some q := quantum | throw .noQuantum
  if t.isEmpty then
    throw .noSpans
  let total ← checkSpans q 0 0 none t.spans
  if let some unit := unit then
    let times := max repetitions 1
    if repeatedLength? times unit gap ≠ some total then
      throw (.wrongTotal total times unit gap)
  return ⟨true, t.size, total⟩

end Timeline

end PulseTrain
