import PulseTrain.Proofs.Pipeline
import PulseTrain.Proofs.Reading
import PulseTrain.Proofs.Repeated

/-!
# Repetition as a pass

The pass that repeats the unit leaves a timeline that is periodic up to its end, however the copies
merge with each other and with the gaps. It fails only before it appends anything.
-/

namespace PulseTrain

variable {K : NoteKinds}

namespace Workpiece

variable {w : Workpiece K} {q : Quantum}

/-- Repetition succeeds iff the gap, rounded up to the grid, and the length of the whole fit in the
counter; then none of the pushes fails. At an instant that lies in some repetition the timeline
shows what the unit shows as long after its beginning, and in between all lines are off. Noted are
the gap and, unless it is known, the length of the unit; nothing else changes. -/
theorem expand_periodic (hq : w.properties.quantum = some q) (hcan : w.timeline.Canonical)
    (hne : w.timeline.spans ≠ []) (hrep : 1 ≤ w.properties.repetitions) :
    let t := w.timeline
    let p := w.properties
    let unit := t.length
    let gap := q.ceil p.interval
    let total := p.repetitions * unit + (p.repetitions - 1) * gap
    (Nanoseconds.limit ≤ gap ∨ Nanoseconds.limit ≤ total →
      ∃ quantity, Pass.expand.perform w = (.error (.overflow quantity), w)) ∧
    (gap < Nanoseconds.limit → total < Nanoseconds.limit →
      ∃ left, Pass.expand.perform w = (.ok (), left) ∧
        left.timeline.Canonical ∧ left.timeline.length = total ∧
        (∀ i < total, let u := i % (unit + gap)
          left.timeline.stateAt i = if u < unit then t.stateAt u else some .off) ∧
        left.properties =
          { p with unitLength := some (p.unitLength.getD unit), gap := some gap } ∧
        ∃ first, TimelineBuilder.empty.appendUnit t.spans = .ok first ∧
          ∃ all, TimelineBuilder.appendRepetitions t.spans gap (p.repetitions - 1) first = .ok all ∧
            left.timeline = all.timeline) := by
  intro t p unit gap total
  have hpos : 0 < t.length := hcan.length_pos hne
  constructor
  · intro hle
    obtain ⟨quantity, herror⟩ := Timeline.repeated_of_le hpos hrep hle
    exact ⟨quantity, performs_expand.perform_of_error (repeated_of_error hq herror)⟩
  · intro hgap htotal
    obtain ⟨u, hok, hrenders⟩ := Timeline.repeated_renders hcan.renders hpos hrep hgap htotal
    have hu : u.Renders total (t.waveform.repeated unit gap) := hrenders
    have hperform := performs_expand.perform_of_ok (repeated_of_ok hq hok)
    refine ⟨_, hperform, hu.canonical, hu.length, ?_, ?_, ?_⟩
    · intro i hi
      show u.stateAt i = _
      rw [hu.stateAt_eq, if_pos hi, hcan.renders.stateAt_eq]
      unfold Waveform.repeated
      dsimp only
      split_ifs
      · rfl
      · rfl
    · show { p with unitLength := p.unitLength <|> some unit, gap := some gap } = _
      cases p.unitLength with
      | none => rfl
      | some n => rfl
    · -- What the pushes append renders the same waveform, so it is the timeline that was left.
      have hfits : repeatedLength p.repetitions unit gap < Nanoseconds.limit := htotal
      obtain ⟨first, all, hunit, hrest, hall⟩ :=
        Timeline.pushes_render hcan.renders hrep hfits
      exact ⟨first, hunit, all, hrest, hu.unique hall⟩

/-- A unit that begins and ends with the same line on, to be played three times. The length of the
unit has been noted before, and is not the length of the timeline. -/
def pulsed : Workpiece .none where
  timeline := ⟨[⟨0, 8, ⟨1⟩⟩, ⟨8, 24, .off⟩, ⟨24, 32, ⟨1⟩⟩]⟩
  properties := { Properties.initial with
    quantum := some .default
    repetitions := 3
    interval := 3
    unitLength := some 7 }

/-- The first repetition is followed by a gap of one tick, and the last one by none. -/
theorem expand_periodic_pulsed : ∃ left, Pass.expand.perform pulsed = (.ok (), left) ∧
    left.timeline.length = 112 ∧ left.timeline.stateAt 34 = some .off ∧
    left.timeline.stateAt 111 = some ⟨1⟩ ∧ left.properties.unitLength = some 7 ∧
    left.properties.gap = some 8 := by
  have hcan : pulsed.timeline.Canonical := by decide
  obtain ⟨left, hperform, -, hlength, hstate, hproperties, -⟩ :=
    (expand_periodic (q := .default) rfl hcan (by decide) (by decide)).2 (by decide) (by decide)
  refine ⟨left, hperform, hlength, hstate 34 (by decide), ?_, ?_, ?_⟩
  · rw [hstate 111 (by decide)]
    exact hcan.stateAt_of_contains (s := ⟨24, 32, ⟨1⟩⟩) (by decide) (by decide)
  · rw [hproperties]
    rfl
  · rw [hproperties]
    rfl

end Workpiece

end PulseTrain
