import PulseTrain.Proofs.Compiled

/-!
# What a compiled sequence plays

At each instant the lines are on that some pulse covers at the beginning of the tick, counted from
the beginning of the repetition.
-/

namespace PulseTrain

namespace TimingSpec

variable {s : TimingSpec} {q : Quantum} {channels : ChannelSet}

theorem isOn_playedWaveform (h : s.undeclared? channels = none) (c : ChannelId) (t : Nat) :
    (s.playedWaveform q t).isOn c = true ↔
      t % (s.alignedUnit q + s.alignedGap q) < s.alignedUnit q ∧
        s.Covers c (q.floor (t % (s.alignedUnit q + s.alignedGap q))) := by
  unfold playedWaveform Waveform.repeated Waveform.sampled
  dsimp only
  split_ifs with hu
  · rw [isOn_waveform_of_declared h]
    exact (and_iff_right hu).symm
  · simp [hu]

theorem playedLength_eq (s : TimingSpec) (q : Quantum) : s.playedLength q =
    (s.repetitions - 1) * (s.alignedUnit q + s.alignedGap q) + s.alignedUnit q := by
  obtain ⟨m, hm⟩ := Nat.exists_eq_add_of_le' s.repetitions_pos
  unfold playedLength
  rw [hm, repeatedLength_succ, Nat.add_sub_cancel]

end TimingSpec

namespace Compiler

/-- End to end: the length of a compiled sequence is that of the repetitions with the gaps between
them, and a line is on at an instant iff this is within a repetition and some pulse on the line
covers the tick there. So no line is on that is not declared, every repetition looks like the first,
and the last one is not followed by a gap. -/
theorem compileWithReport_plays {c : Compiler} {spec : TimingSpec} {report : CompileReport}
    (h : c.compileWithReport spec = .ok report) :
    let q := c.quantum
    let unit := q.ceil spec.unitLength
    let gap := if 2 ≤ spec.repetitions then q.ceil spec.interval else 0
    let s := report.sequence
    report.unitLength = unit ∧ report.gap = gap ∧
      s.total = spec.repetitions * unit + (spec.repetitions - 1) * gap ∧
      (∀ t < s.total, ∃ state, s.stateAt t = some state ∧
        (∀ ch, state.isOn ch = true ↔
          t % (unit + gap) < unit ∧ spec.Covers ch (q.floor (t % (unit + gap)))) ∧
        ∀ ch, c.channels.contains ch = false → state.isOn ch = false) ∧
      (∀ t, s.total ≤ t → s.stateAt t = none) ∧
      (∀ k t, t < unit + gap → k * (unit + gap) + t < s.total →
        s.stateAt (k * (unit + gap) + t) = s.stateAt t) ∧
      s.total = (spec.repetitions - 1) * (unit + gap) + unit := by
  intro q unit gap s
  obtain ⟨hdecl, -, -⟩ := compileWithReport_inv h
  obtain ⟨t, ht, hseq, hunit, hgap⟩ := compileWithReport_renders h
  have htotal : s.total = spec.playedLength q := by
    show report.sequence.total = _
    rw [hseq]
    exact ht.length
  have hstate : ∀ i, s.stateAt i =
      if i < s.total then some (spec.playedWaveform q i) else none := by
    intro i
    show report.sequence.stateAt i = _
    rw [htotal, hseq]
    exact ht.stateAt_ofTimeline i
  refine ⟨hunit, hgap, htotal, ?_, ?_, ?_, htotal.trans (spec.playedLength_eq q)⟩
  · intro i hi
    have hon := TimingSpec.isOn_playedWaveform (q := q) hdecl
    refine ⟨_, by rw [hstate, if_pos hi], fun ch => hon ch i, fun ch hch => ?_⟩
    rw [Bool.eq_false_iff]
    intro htrue
    have hcontains := TimingSpec.contains_of_covers hdecl ((hon ch i).mp htrue).2
    exact Bool.false_ne_true (hch.symm.trans hcontains)
  · intro i hi
    rw [hstate, if_neg (not_lt.mpr hi)]
  · intro k i hi hk
    have hfirst : i < s.total := (Nat.le_add_left i _).trans_lt hk
    rw [hstate, hstate, if_pos hk, if_pos hfirst]
    exact congrArg some (Waveform.repeated_add k hi)

/-- A compiler for three lines and a grid of 4 ns. -/
def blinker : Compiler := { channels := .odmr, quantum := ⟨4, by decide⟩ }

/-- Two repetitions of a pulse that is shorter than a tick and one that ends between two ticks. -/
def blink : TimingSpec where
  events := [⟨⟨0⟩, 0, 2⟩, ⟨⟨1⟩, 3, 8⟩]
  interval := 3
  repetitions := 2
  minUnitLength := 0
  repetitions_pos := by decide
  stop_lt := by decide

/-- The darkness between the two pulses lies between two ticks and is lost. That between the two
repetitions is not. -/
theorem compileWithReport_blink : blinker.compileWithReport blink = .ok
    ⟨⟨[⟨⟨1⟩, 4⟩, ⟨⟨2⟩, 8⟩, ⟨⟨0⟩, 4⟩, ⟨⟨1⟩, 4⟩, ⟨⟨2⟩, 8⟩], 28⟩, 12, 4, ⟨1, 0⟩⟩ := by
  have hedges : Schedule blink.activeEvents
      [⟨0, ⟨0⟩, true⟩, ⟨2, ⟨0⟩, false⟩, ⟨3, ⟨1⟩, true⟩, ⟨11, ⟨1⟩, false⟩] :=
    ⟨by decide, by decide⟩
  have hunit : Timeline.ofSpec blink .odmr = .ok ⟨[⟨0, 2, ⟨1⟩⟩, ⟨2, 3, ⟨0⟩⟩, ⟨3, 11, ⟨2⟩⟩]⟩ :=
    Timeline.ofSpec_eq_swept (by decide) (by decide) hedges
  exact @compileWithReport_of_ok blinker blink _ hunit true

/-- In the second repetition the second pulse has begun at the tick of the instant 21. -/
theorem compileWithReport_plays_blink : ∃ report, blinker.compileWithReport blink = .ok report ∧
    report.unitLength = 12 ∧ report.gap = 4 ∧ report.sequence.total = 28 ∧
    ∃ state, report.sequence.stateAt 21 = some state ∧ state.isOn ⟨1⟩ = true := by
  obtain ⟨hunit, hgap, htotal, hstate, -⟩ := compileWithReport_plays compileWithReport_blink
  obtain ⟨state, hat, hon, -⟩ := hstate 21 (by decide)
  refine ⟨_, compileWithReport_blink, hunit, hgap, htotal, state, hat, (hon ⟨1⟩).mpr ?_⟩
  decide

end Compiler

end PulseTrain
