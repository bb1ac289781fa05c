import PulseTrain.Proofs.Outcome
import PulseTrain.Proofs.Reading

/-!
# The timeline of merged pulses

A line is on at an instant of the timeline of a spec iff some pulse on the line covers the instant.
The timeline breaks exactly where the set of covered lines changes, and this happens only where a
pulse starts or stops.
-/

namespace PulseTrain

namespace TimingSpec

variable {s : TimingSpec} {channels : ChannelSet} {c : ChannelId} {b i j : Nat}

theorem waveform_ne_iff (h : s.undeclared? channels = none) :
    s.waveform i ≠ s.waveform j ↔ ∃ c, ¬ (s.Covers c i ↔ s.Covers c j) := by
  have hon := fun c => isOn_waveform_of_declared h c
  constructor
  · intro hne
    by_contra hsame
    rw [not_exists] at hsame
    apply hne
    refine ChannelState.ext_isOn fun c => ?_
    rw [Bool.eq_iff_iff, hon, hon]
    exact not_not.mp (hsame c)
  · rintro ⟨c, hchange⟩ heq
    apply hchange
    rw [← hon, ← hon, heq]

/-- What covers an instant but not the one before it starts there, and what covers only the one
before stops there. -/
theorem exists_edge_of_change (hb : 0 < b) (h : ¬ (s.Covers c (b - 1) ↔ s.Covers c b)) :
    ∃ e ∈ s.events, 0 < e.duration ∧ (b = e.start ∨ b = e.stop) := by
  by_cases hcov : s.Covers c b
  · obtain ⟨e, he, hc, hstart, hstop⟩ := hcov
    have hbefore : ¬ e.Covers c (b - 1) := fun hbefore =>
      h (iff_of_true ⟨e, he, hbefore⟩ ⟨e, he, hc, hstart, hstop⟩)
    have hlate : b - 1 < e.start := by
      by_contra hle
      exact hbefore ⟨hc, not_lt.mp hle, (Nat.sub_le b 1).trans_lt hstop⟩
    unfold PulseEvent.stop at hstop
    exact ⟨e, he, by lia, .inl (by lia)⟩
  · have hbefore : s.Covers c (b - 1) := by
      by_contra hnot
      exact h (iff_of_false hnot hcov)
    obtain ⟨e, he, hc, hstart, hstop⟩ := hbefore
    have hearly : e.stop ≤ b := by
      by_contra hlt
      exact hcov ⟨e, he, hc, hstart.trans (Nat.sub_le b 1), not_le.mp hlt⟩
    have hstopEq : b = e.stop := by lia
    unfold PulseEvent.stop at hstop
    exact ⟨e, he, by lia, .inr hstopEq⟩

end TimingSpec

namespace Timeline

variable {spec : TimingSpec} {channels : ChannelSet}

theorem ofSpec_ne_degenerate (spec : TimingSpec) (channels : ChannelSet) :
    ofSpec spec channels ≠ .error .degenerateSequence := by
  rcases ofSpec_cases spec channels with ⟨c, h⟩ | h | ⟨t, h, -⟩
  · simp [h]
  · simp [h]
  · simp [h]

/-- The sweep does what the naive definition says. The first pulse on a line that is not declared is
named; then some pulse has to have a duration; and then there is a canonical timeline that lasts as
long as the unit, in which a line is on iff a pulse covers the instant. It breaks exactly where the
covered lines change, and some pulse with a duration starts or stops there. -/
theorem ofSpec_outcome (spec : TimingSpec) (channels : ChannelSet) :
    (∀ before e after, spec.events = before ++ e :: after →
      (∀ d ∈ before, d.channel.index < channels.size) → channels.size ≤ e.channel.index →
        ofSpec spec channels = .error (.unknownChannel e.channel channels.size)) ∧
    ((∀ e ∈ spec.events, e.channel.index < channels.size) →
      ((∀ e ∈ spec.events, e.duration = 0) →
        ofSpec spec channels = .error .emptyTimingSpec) ∧
      ((∃ e ∈ spec.events, 0 < e.duration) → ∃ t, ofSpec spec channels = .ok t ∧
        t.Canonical ∧ t.length = spec.unitLength ∧
        (∀ i < t.length, ∃ state, t.stateAt i = some state ∧
          ∀ c, state.isOn c = true ↔ ∃ e ∈ spec.events,
            e.channel = c ∧ e.start ≤ i ∧ i < e.start + e.duration) ∧
        (∀ i, t.length ≤ i → t.stateAt i = none) ∧
        ∀ b, 0 < b → b < t.length →
          (b ∈ t.breakpoints ↔ ∃ c, ¬ (spec.Covers c (b - 1) ↔ spec.Covers c b)) ∧
          (b ∈ t.breakpoints →
            ∃ e ∈ spec.events, 0 < e.duration ∧ (b = e.start ∨ b = e.stop)))) ∧
    ofSpec spec channels ≠ .error .degenerateSequence := by
  refine ⟨?_, ?_, ofSpec_ne_degenerate spec channels⟩
  · intro before e after hs hbefore he
    exact ofSpec_of_undeclared (TimingSpec.undeclared?_eq_some hs hbefore he)
  · intro hall
    have hdecl := TimingSpec.undeclared?_eq_none_iff.mpr hall
    refine ⟨?_, ?_⟩
    · intro hzero
      exact ofSpec_of_inactive hdecl (TimingSpec.activeEvents_eq_nil_iff.mpr hzero)
    · intro hpos
      obtain ⟨t, hok, ht⟩ := ofSpec_renders hdecl (TimingSpec.activeEvents_ne_nil_iff.mpr hpos)
      refine ⟨t, hok, ht.canonical, ht.length, ?_, ?_, ?_⟩
      · intro i hi
        rw [ht.length] at hi
        refine ⟨spec.waveform i, ?_, fun c => ?_⟩
        · rw [ht.stateAt_eq, if_pos hi]
        · exact TimingSpec.isOn_waveform_of_declared hdecl c i
      · intro i hi
        exact ht.canonical.stateAt_of_le hi
      · intro b hb hlt
        rw [ht.length] at hlt
        have hchange := (ht.mem_breakpoints_iff hb hlt).trans (TimingSpec.waveform_ne_iff hdecl)
        refine ⟨hchange, fun hbreak => ?_⟩
        obtain ⟨c, hc⟩ := hchange.mp hbreak
        exact TimingSpec.exists_edge_of_change hb hc

/-- Two pulses on one line overlap, and one on another line begins with the second. The line stays
on where the first pulse ends, and the timeline breaks where the third ends. -/
theorem ofSpec_outcome_overlapping : ∃ spec t,
    spec.events = [⟨⟨0⟩, 2, 5⟩, ⟨⟨0⟩, 4, 6⟩, ⟨⟨1⟩, 4, 1⟩] ∧ ofSpec spec .odmr = .ok t ∧
      t.length = 10 ∧ (∃ state, t.stateAt 7 = some state ∧ state.isOn ⟨0⟩ = true) ∧
      5 ∈ t.breakpoints := by
  let spec : TimingSpec :=
    ⟨[⟨⟨0⟩, 2, 5⟩, ⟨⟨0⟩, 4, 6⟩, ⟨⟨1⟩, 4, 1⟩], 0, 1, 0, le_rfl, by decide⟩
  obtain ⟨-, hdeclared, -⟩ := ofSpec_outcome spec .odmr
  obtain ⟨t, hok, -, hlen, hstate, -, hbreak⟩ := (hdeclared (by decide)).2 (by decide)
  have hten : t.length = 10 := hlen
  obtain ⟨state, hat, hon⟩ := hstate 7 (by rw [hten]; decide)
  refine ⟨spec, t, rfl, hok, hten, ⟨state, hat, (hon ⟨0⟩).mpr (by decide)⟩, ?_⟩
  exact (hbreak 5 (by decide) (by rw [hten]; decide)).1.mpr ⟨⟨1⟩, by decide⟩

end Timeline

end PulseTrain
