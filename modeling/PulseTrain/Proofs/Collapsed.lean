import PulseTrain.Proofs.Playback
import PulseTrain.Proofs.Sampled
import PulseTrain.Proofs.United

/-!
# Lost pulses are reported

What a line does over a maximal interval may be cut into many spans by the edges of other lines. All
the same, if the whole interval lies between two ticks then so does the span at its beginning, which
has the line on. So an interval that is lost leaves its mark in the count of lost spans.
-/

namespace PulseTrain

namespace Quantum

variable {q : Quantum} {i : Interval}

/-- An interval whose ends do not move to one tick is sampled where its beginning moves to. -/
theorem contains_ceil_start (h : q.ceil i.start < q.ceil i.stop) :
    i.Contains (q.floor (q.ceil i.start)) :=
  contains_ceilInterval.mp ⟨le_rfl, h⟩

/-- The ends of an interval move to one tick iff no tick is sampled within the interval. -/
theorem ceil_eq_iff_not_contains (hi : i.start < i.stop) :
    q.ceil i.start = q.ceil i.stop ↔ ∀ t, ¬ i.Contains (q.floor t) := by
  constructor
  · intro heq t ht
    obtain ⟨hstart, hstop⟩ := contains_ceilInterval.mpr ht
    have hempty : q.ceil i.start < q.ceil i.stop := hstart.trans_lt hstop
    omega
  · intro hnone
    by_contra hne
    have hlt : q.ceil i.start < q.ceil i.stop := lt_of_le_of_ne (q.ceil_mono hi.le) hne
    exact hnone _ (contains_ceil_start hlt)

end Quantum

namespace Timeline

variable {t : Timeline} {n : Nat} {w : Waveform} {c : ChannelId} {i : Interval} {S : Nat → Prop}

/-- The span at the beginning of a maximal interval has the line on and does not reach beyond the
interval, since the line is on over the whole span. -/
theorem Renders.exists_span_of_maximal (ht : t.Renders n w)
    (hS : ∀ x, (w x).isOn c = true ↔ S x) (hi : i.MaximalIn S) (hn : i.start < n) :
    ∃ s ∈ t.spans, i.start ≤ s.start ∧ s.stop ≤ i.stop ∧ s.state.isOn c = true := by
  have hend : endFrom 0 t.spans = n := ht.length
  obtain ⟨s, hs, hcontains⟩ := TilesFrom.exists_contains ht.canonical (Nat.zero_le i.start)
    (hend ▸ hn)
  have hbegin : i.Contains i.start := ⟨le_rfl, hi.nonempty⟩
  have hon : s.state.isOn c = true := by
    rw [← ht.shows s hs _ hcontains]
    exact (hS _).mpr (hi.inside _ hbegin)
  have hspan : ∀ x, (Interval.mk s.start s.stop).Contains x → S x := by
    intro x hx
    rw [← hS, ht.shows s hs x hx]
    exact hon
  obtain ⟨hstart, hstop⟩ := hi.le_of_meets hspan ⟨i.start, hbegin, hcontains⟩
  exact ⟨s, hs, hstart, hstop, hon⟩

end Timeline

namespace Compiler

variable {c : Compiler} {spec : TimingSpec} {report : CompileReport}

/-- The report counts the spans of the unit that lie between two ticks and have a line on. -/
theorem withActiveChannels_eq (h : c.compileWithReport spec = .ok report) :
    ∃ unit : Timeline, unit.Renders spec.unitLength spec.waveform ∧
      report.collapsed.withActiveChannels = unit.spans.countP fun s =>
        ¬ s.MeetsTick c.quantum ∧ s.state ≠ ChannelState.off := by
  obtain ⟨hdecl, hne, hfits⟩ := compileWithReport_inv h
  obtain ⟨unit, t, hspec, -, hreport⟩ := compileWithReport_of_fits hdecl hne hfits
  obtain ⟨u, hu, hrenders⟩ := Timeline.ofSpec_renders hdecl hne
  obtain rfl : u = unit := Except.ok.inj (hu.symm.trans hspec)
  obtain rfl := Except.ok.inj (h.symm.trans (hreport c.verified))
  have hspans : ∀ s ∈ u.spans, s.start ≤ s.stop := fun s hs =>
    (Timeline.TilesFrom.bounds hrenders.canonical hs).2.1.le
  refine ⟨u, hrenders, ?_⟩
  dsimp only
  rw [CollapsedSpans.foldl_note hspans]
  simp [CollapsedSpans.none]

/-- An interval that lies between two ticks is counted. -/
theorem withActiveChannels_pos (h : c.compileWithReport spec = .ok report) {ch : ChannelId}
    {i : Interval} (hi : i.MaximalIn (spec.Covers ch))
    (hlost : c.quantum.ceil i.start = c.quantum.ceil i.stop) :
    1 ≤ report.collapsed.withActiveChannels := by
  obtain ⟨hdecl, -, -⟩ := compileWithReport_inv h
  obtain ⟨unit, hunit, hcount⟩ := withActiveChannels_eq h
  have hbegin : spec.Covers ch i.start := hi.inside _ ⟨le_rfl, hi.nonempty⟩
  obtain ⟨s, hs, hstart, hstop, hon⟩ := hunit.exists_span_of_maximal
    (TimingSpec.isOn_waveform_of_declared hdecl ch) hi (TimingSpec.lt_unitLength_of_covers hbegin)
  have hticks : ¬ s.MeetsTick c.quantum := by
    rintro ⟨x, hdvd, hsx, hxs⟩
    have hnone := (Quantum.ceil_eq_iff_not_contains hi.nonempty).mp hlost x
    rw [c.quantum.floor_eq_self hdvd] at hnone
    exact hnone ⟨hstart.trans hsx, hxs.trans_le hstop⟩
  have hstate : s.state ≠ .off := by
    intro hoff
    rw [hoff, ChannelState.isOn_off] at hon
    exact Bool.false_ne_true hon
  rw [hcount]
  exact List.countP_pos_iff.mpr ⟨s, hs, by simp [hticks, hstate]⟩

/-- A line that some pulse covers at a tick of the unit is on at this tick of every repetition. -/
theorem isOn_repetition (h : c.compileWithReport spec = .ok report) {ch : ChannelId} {k m : Nat}
    (hk : k < spec.repetitions) (hm : c.quantum.floor m = m) (hcov : spec.Covers ch m) :
    ∃ state, report.sequence.stateAt (k * (report.unitLength + report.gap) + m) = some state ∧
      state.isOn ch = true := by
  obtain ⟨hdecl, -, -⟩ := compileWithReport_inv h
  obtain ⟨t, ht, hseq, hunit, hgap⟩ := compileWithReport_renders h
  have hlt : m < spec.alignedUnit c.quantum :=
    TimingSpec.lt_alignedUnit_of_covers (by rw [hm]; exact hcov)
  have hperiod : m < spec.alignedUnit c.quantum + spec.alignedGap c.quantum :=
    hlt.trans_le (Nat.le_add_right _ _)
  rw [hseq, hunit, hgap, ht.stateAt_ofTimeline]
  have hend : k * (spec.alignedUnit c.quantum + spec.alignedGap c.quantum) + m <
      spec.playedLength c.quantum := by
    rw [TimingSpec.playedLength_eq]
    have hle : k ≤ spec.repetitions - 1 := by omega
    have hbefore :=
      Nat.mul_le_mul_right (spec.alignedUnit c.quantum + spec.alignedGap c.quantum) hle
    omega
  refine ⟨_, if_pos hend, ?_⟩
  rw [TimingSpec.isOn_playedWaveform hdecl, Waveform.add_mod_period k hperiod, hm]
  exact ⟨hlt, hcov⟩

/-- No pulse is lost in silence. A maximal interval over which pulses cover a line is lost if its
two ends move to one tick, that is, if it is not sampled anywhere in the unit. In this case the
report counts a lost span with a line on. If it counts none, then in every repetition each such
interval has its line on at the tick of its beginning. -/
theorem compileWithReport_counts_lost (h : c.compileWithReport spec = .ok report) :
    let q := c.quantum
    let active := report.collapsed.withActiveChannels
    let period := report.unitLength + report.gap
    (∀ ch (i : Interval), i.MaximalIn (spec.Covers ch) →
      (q.ceil i.start = q.ceil i.stop ↔ ∀ t < report.unitLength, ¬ i.Contains (q.floor t))) ∧
    (∀ ch (i : Interval), i.MaximalIn (spec.Covers ch) → q.ceil i.start = q.ceil i.stop →
      1 ≤ active) ∧
    (active = 0 → ∀ ch (i : Interval), i.MaximalIn (spec.Covers ch) →
      ∀ k < spec.repetitions, ∃ state,
        report.sequence.stateAt (k * period + q.ceil i.start) = some state ∧
          state.isOn ch = true) := by
  intro q active period
  refine ⟨?_, ?_, ?_⟩
  · intro ch i hi
    obtain ⟨-, -, -, hunit, -⟩ := compileWithReport_renders h
    rw [Quantum.ceil_eq_iff_not_contains hi.nonempty]
    constructor
    · exact fun hnone t _ => hnone t
    · -- Past the unit nothing is covered.
      intro hnone t ht
      have hlt : t < report.unitLength := by
        rw [hunit]
        exact TimingSpec.lt_alignedUnit_of_covers (hi.inside _ ht)
      exact hnone t hlt ht
  · intro ch i hi hlost
    exact withActiveChannels_pos h hi hlost
  · intro hzero ch i hi k hk
    have hkept : q.ceil i.start ≠ q.ceil i.stop := by
      intro hlost
      have hpos := withActiveChannels_pos h hi hlost
      omega
    have hlt : q.ceil i.start < q.ceil i.stop :=
      lt_of_le_of_ne (q.ceil_mono hi.nonempty.le) hkept
    have hfloor : q.floor (q.ceil i.start) = q.ceil i.start := q.floor_eq_self (q.dvd_ceil _)
    have htick : i.Contains (q.ceil i.start) := hfloor ▸ Quantum.contains_ceil_start hlt
    exact isOn_repetition h hk hfloor (hi.inside _ htick)

/-- A pulse that lies between two ticks while another line changes, and the same without it. -/
theorem compileWithReport_counts_lost_blink :
    (∃ spec report, spec.events = [⟨⟨0⟩, 1, 5⟩, ⟨⟨1⟩, 3, 20⟩] ∧
      Compiler.compileWithReport ⟨.odmr, .default, true⟩ spec = .ok report ∧
      1 ≤ report.collapsed.withActiveChannels) ∧
    ∃ report, blinker.compileWithReport blink = .ok report ∧
      ∃ state, report.sequence.stateAt 20 = some state ∧ state.isOn ⟨1⟩ = true := by
  constructor
  · let spec : TimingSpec := ⟨[⟨⟨0⟩, 1, 5⟩, ⟨⟨1⟩, 3, 20⟩], 0, 1, 0, le_rfl, by decide⟩
    let c : Compiler := ⟨.odmr, .default, true⟩
    have hfits : ¬ spec.Overflows c.quantum := by decide
    obtain ⟨report, h⟩ := exists_compileWithReport (by decide) (by decide) hfits
    obtain ⟨-, hlost, -⟩ := compileWithReport_counts_lost h
    have hi : (Interval.mk 1 6).MaximalIn (spec.Covers ⟨0⟩) :=
      ((spec.components_pulsesOn ⟨0⟩).mem_iff _).mp (by decide)
    exact ⟨spec, report, rfl, h, hlost ⟨0⟩ _ hi (by decide)⟩
  · obtain ⟨-, -, hkept⟩ := compileWithReport_counts_lost compileWithReport_blink
    have hi : (Interval.mk 3 11).MaximalIn (blink.Covers ⟨1⟩) :=
      ((blink.components_pulsesOn ⟨1⟩).mem_iff _).mp (by decide)
    exact ⟨_, compileWithReport_blink, hkept rfl ⟨1⟩ _ hi 1 (by decide)⟩

end Compiler

end PulseTrain
