import PulseTrain.Proofs.Outcome
import PulseTrain.Proofs.Runs

/-!
# Overlapping pulses

The pulses of a line cover a union of intervals. Compilation moves the two ends of each maximal
interval up to the grid, by less than a tick, and the runs of the line are the maximal intervals of
what comes out: an interval that lies between two ticks is gone, and two that now touch are one.
-/

namespace PulseTrain

namespace Quantum

/-- The interval with both ends on the grid. -/
def ceilInterval (q : Quantum) (i : Interval) : Interval := ⟨q.ceil i.start, q.ceil i.stop⟩

variable {q : Quantum} {i : Interval} {l : List Interval} {t : Nat}

theorem contains_ceilInterval : (q.ceilInterval i).Contains t ↔ i.Contains (q.floor t) :=
  and_congr q.ceil_le_iff q.lt_ceil_iff

theorem covered_map_ceilInterval :
    Interval.Covered (l.map q.ceilInterval) t ↔ Interval.Covered l (q.floor t) := by
  unfold Interval.Covered
  simp [contains_ceilInterval]

end Quantum

namespace TimingSpec

/-- The pulses of a line, as intervals. -/
def pulsesOn (s : TimingSpec) (c : ChannelId) : List Interval :=
  (s.events.filter fun e => e.channel = c).map fun e => ⟨e.start, e.stop⟩

variable {s : TimingSpec} {c : ChannelId} {q : Quantum} {t : Nat}

theorem covered_pulsesOn : Interval.Covered (s.pulsesOn c) t ↔ s.Covers c t := by
  unfold Interval.Covered pulsesOn Covers
  simp [Interval.Contains, PulseEvent.Covers, and_assoc]

/-- The maximal intervals over which some pulse covers a line. -/
theorem components_pulsesOn (s : TimingSpec) (c : ChannelId) :
    Interval.Components (s.Covers c) (Interval.joined (s.pulsesOn c)) :=
  (Interval.components_joined _).congr fun _ => covered_pulsesOn

/-- What covers a tick belongs to the unit. -/
theorem lt_alignedUnit_of_covers (h : s.Covers c (q.floor t)) : t < s.alignedUnit q :=
  q.lt_ceil_iff.mpr (lt_unitLength_of_covers h)

end TimingSpec

namespace Compiler

variable {c : Compiler} {spec : TimingSpec} {s : CompiledSequence} {ch : ChannelId}

/-- In a unit that is played once, a line is on iff some pulse covers the tick. -/
theorem isOn_of_single (h : c.compile spec = .ok s) (hone : spec.repetitions = 1) (t : Nat) :
    (∃ state, s.stateAt t = some state ∧ state.isOn ch = true) ↔
      spec.Covers ch (c.quantum.floor t) := by
  obtain ⟨hdecl, -, -⟩ := compile_inv h
  obtain ⟨u, hu, rfl⟩ := compile_renders h
  rw [TimingSpec.playedLength_of_single hone] at hu
  rw [hu.stateAt_ofTimeline]
  have hon := TimingSpec.isOn_waveform_of_declared hdecl ch (c.quantum.floor t)
  by_cases ht : t < spec.alignedUnit c.quantum
  · simp only [if_pos ht, Option.some.injEq, exists_eq_left']
    rw [TimingSpec.playedWaveform_of_lt ht]
    exact hon
  · have hnot : ¬ spec.Covers ch (c.quantum.floor t) := fun hcov =>
      ht (TimingSpec.lt_alignedUnit_of_covers hcov)
    simp [ht, hnot]

/-- The runs of a line that are on, over a unit that is played once: they are the maximal intervals
of the union of the pulses, with both ends moved up to the grid and joined again. Every edge is the
edge of such an interval and late by less than a tick, and time that pulses cover without a break
gives at most one run. Together with the runs that are off, which alternate with them, they fill the
whole sequence. -/
theorem compile_unites (h : c.compile spec = .ok s) (hone : spec.repetitions = 1)
    (ch : ChannelId) :
    let q := c.quantum
    let pulses := Interval.joined (spec.pulsesOn ch)
    let moved := pulses.map q.ceilInterval
    let pattern := s.channelPattern ch
    let runs := Run.onIntervals 0 pattern
    Interval.Components (spec.Covers ch) pulses ∧
      runs = Interval.joined moved ∧ Interval.Components (Interval.Covered moved) runs ∧
      (pattern.IsChain fun a b => a.on ≠ b.on) ∧ Run.total pattern = s.total ∧
      (∀ r ∈ runs,
        (∃ i ∈ pulses, r.start = q.ceil i.start ∧ i.start ≤ r.start ∧ r.start < i.start + q.ns) ∧
        ∃ i ∈ pulses, r.stop = q.ceil i.stop ∧ i.stop ≤ r.stop ∧ r.stop < i.stop + q.ns) ∧
      ∀ j : Interval, (∀ t, j.Contains t → spec.Covers ch t) →
        ∀ r ∈ runs, ∀ r' ∈ runs, r.Meets (q.ceilInterval j) → r'.Meets (q.ceilInterval j) →
          r = r' := by
  intro q pulses moved pattern runs
  have hvalid := compile_valid h
  have hregular := hvalid.regular_channelPattern ch
  -- A run is on where a pulse covers the tick, and that is where an interval has been moved to.
  have hmoved : ∀ t, Interval.Covered moved t ↔ spec.Covers ch (q.floor t) := by
    intro t
    rw [Quantum.covered_map_ceilInterval, Interval.covered_joined, TimingSpec.covered_pulsesOn]
  have hruns : Interval.Components (Interval.Covered moved) runs :=
    (hvalid.components_onIntervals ch).congr fun t =>
      (isOn_of_single h hone t).trans (hmoved t).symm
  have hmax : ∀ r ∈ runs, r.MaximalIn (Interval.Covered moved) := fun r => (hruns.mem_iff r).mp
  refine ⟨spec.components_pulsesOn ch, hruns.unique (Interval.components_joined moved), hruns,
    hregular.alternates, hvalid.total_channelPattern ch, ?_, ?_⟩
  · intro r hr
    constructor
    · obtain ⟨j, hj, hstart⟩ := (hmax r hr).exists_start
      obtain ⟨i, hi, rfl⟩ := List.mem_map.mp hj
      have hceil : r.start = q.ceil i.start := hstart.symm
      exact ⟨i, hi, hceil, hceil ▸ q.le_ceil _, hceil ▸ q.ceil_lt _⟩
    · obtain ⟨j, hj, hstop⟩ := (hmax r hr).exists_stop
      obtain ⟨i, hi, rfl⟩ := List.mem_map.mp hj
      have hceil : r.stop = q.ceil i.stop := hstop.symm
      exact ⟨i, hi, hceil, hceil ▸ q.le_ceil _, hceil ▸ q.ceil_lt _⟩
  · intro j hj r hr r' hr' hmeets hmeets'
    have himage : ∀ t, (q.ceilInterval j).Contains t → Interval.Covered moved t := fun t ht =>
      (hmoved t).mpr (hj _ (Quantum.contains_ceilInterval.mp ht))
    -- The first run holds all that the interval has become, so the runs have an instant in common.
    obtain ⟨hstart, hstop⟩ := (hmax r hr).le_of_meets himage hmeets
    obtain ⟨t, ht', htj⟩ := hmeets'
    have ht : r.Contains t := ⟨hstart.trans htj.1, htj.2.trans_le hstop⟩
    exact (hmax r hr).eq_of_contains (hmax r' hr') ht ht'

/-- Two pulses overlap, a third begins less than a tick after them, and a fourth one is lost. -/
theorem compile_unites_overlapping : ∃ spec s,
    Compiler.compile ⟨.odmr, .default, true⟩ spec = .ok s ∧
    spec.events = [⟨⟨0⟩, 1, 2⟩, ⟨⟨0⟩, 7, 10⟩, ⟨⟨0⟩, 5, 4⟩, ⟨⟨1⟩, 10, 30⟩, ⟨⟨0⟩, 23, 3⟩] ∧
    Run.onIntervals 0 (s.channelPattern ⟨0⟩) = [⟨8, 32⟩] := by
  let spec : TimingSpec :=
    ⟨[⟨⟨0⟩, 1, 2⟩, ⟨⟨0⟩, 7, 10⟩, ⟨⟨0⟩, 5, 4⟩, ⟨⟨1⟩, 10, 30⟩, ⟨⟨0⟩, 23, 3⟩], 0, 1, 0, le_rfl,
      by decide⟩
  let c : Compiler := ⟨.odmr, .default, true⟩
  have hfits : ¬ spec.Overflows c.quantum := by decide
  obtain ⟨report, hreport⟩ := exists_compileWithReport (by decide) (by decide) hfits
  have h : c.compile spec = .ok report.sequence := compile_eq_ok_iff.mpr ⟨report, hreport, rfl⟩
  obtain ⟨-, hruns, -⟩ := compile_unites h rfl ⟨0⟩
  exact ⟨spec, _, h, rfl, hruns.trans (by decide)⟩

end Compiler

end PulseTrain
