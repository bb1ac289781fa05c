import PulseTrain.CompileError
import PulseTrain.Quantum
import PulseTrain.Timeline.Builder

/-!
# Repeated timelines

A unit is played several times, with all lines off for a gap between two repetitions and no gap
after the last. The gap is moved up to the grid once; the unit is copied as it is, so no repetition
drifts against the first.
-/

namespace PulseTrain

/-- The length of `repetitions` units with gaps between them. -/
def repeatedLength (repetitions : Nat) (unit gap : Nanoseconds) : Nat :=
  repetitions * unit + (repetitions - 1) * gap

/-- The same length, if a 64-bit counter can hold it: the units, the gaps and the sum of the two are
checked one after the other. -/
def repeatedLength? (repetitions : Nat) (unit gap : Nanoseconds) : Option Nanoseconds := do
  let units ← Nanoseconds.mul? repetitions unit
  let gaps ← Nanoseconds.mul? (repetitions - 1) gap
  Nanoseconds.add? units gaps

theorem repeatedLength?_eq (repetitions unit gap : Nat) :
    repeatedLength? repetitions unit gap =
      Nanoseconds.check? (repeatedLength repetitions unit gap) :=
  Nanoseconds.check?_add _ _

/-- The check makes no difference to a comparison with a length that fits. -/
theorem repeatedLength?_eq_some_iff {repetitions unit gap n : Nat} (h : n < Nanoseconds.limit) :
    repeatedLength? repetitions unit gap = some n ↔ repeatedLength repetitions unit gap = n := by
  rw [repeatedLength?_eq, Nanoseconds.check?_eq_some_iff]
  exact ⟨And.right, fun hn => ⟨hn ▸ h, hn⟩⟩

namespace TimelineBuilder

/-- Appends the spans of a unit, each with its own duration. -/
def appendUnit (b : TimelineBuilder) (unit : List Span) : Except ModelError TimelineBuilder :=
  unit.foldlM (fun b s => b.push s.duration s.state) b

/-- Appends a gap and a unit, `n` times. -/
def appendRepetitions (unit : List Span) (gap : Nanoseconds) :
    (n : Nat) → TimelineBuilder → Except ModelError TimelineBuilder
  | 0, b => .ok b
  | n + 1, b => do
    let b ← b.push gap .off
    let b ← b.appendUnit unit
    appendRepetitions unit gap n b

end TimelineBuilder

namespace Timeline

/-- The unit played `repetitions` times, with the gap that separates two of them. -/
def repeated (t : Timeline) (q : Quantum) (repetitions : Nat) (interval : Nanoseconds) :
    Except CompileError (Timeline × Nanoseconds) := do
  if repetitions = 0 then
    throw (.invalidParameter "repetitions" "must be at least 1")
  if t.length = 0 then
    throw .degenerateSequence
  let some gap := q.alignUp interval
    | throw (.overflow s!"sequence interval {interval} ns aligned to {q.label}")
  let some _ := repeatedLength? repetitions t.length gap
    | throw (.overflow
      s!"total length of {repetitions} repetitions of {t.length} ns with {gap} ns gaps")
  let first ← TimelineBuilder.empty.appendUnit t.spans
  let all ← TimelineBuilder.appendRepetitions t.spans gap (repetitions - 1) first
  return (all.timeline, gap)

end Timeline

end PulseTrain
