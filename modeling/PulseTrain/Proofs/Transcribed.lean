import PulseTrain.Proofs.Outcome
import PulseTrain.Proofs.Pattern
import PulseTrain.Proofs.Reading

/-!
# Specs of sequences lose nothing

The spec that is read from a sequence describes what the sequence plays, so the sweep gives back the
timeline that the sequence was made from. Only a sequence that is dark throughout is lost, as its
spec has no pulses.
-/

namespace PulseTrain

namespace CompiledSequence

variable {channels : ChannelSet} {spec : TimingSpec} {t : Timeline} {n i : Nat} {w : Waveform}

/-- The spec of a sequence describes what the sequence plays, if no undeclared line is on. -/
theorem waveform_of_transcribes (ht : t.Renders n w)
    (hw : ∀ i c, (w i).isOn c = true → c.index < channels.size)
    (hs : Transcribes channels (.ofTimeline t) spec) (hi : i < n) : spec.waveform i = w i := by
  refine ChannelState.ext_isOn fun c => ?_
  rw [Bool.eq_iff_iff, TimingSpec.isOn_waveform_of_declared
    (TimingSpec.undeclared?_eq_none_iff.mpr hs.declared), hs.covers, ht.stateAt_ofTimeline,
    if_pos hi]
  simpa using hw i c

/-- Some line is on in the spec of a sequence iff one is on while the sequence plays. -/
theorem activeEvents_of_transcribes (ht : t.Renders n w)
    (hw : ∀ i c, (w i).isOn c = true → c.index < channels.size)
    (hs : Transcribes channels (.ofTimeline t) spec) :
    spec.activeEvents ≠ [] ↔ ∃ c, ∃ i < n, (w i).isOn c = true := by
  rw [TimingSpec.activeEvents_ne_nil_iff_covers]
  refine exists_congr fun c => exists_congr fun i => ?_
  rw [hs.covers, ht.stateAt_ofTimeline]
  by_cases hi : i < n
  · simpa [hi] using hw i c
  · simp [hi]

/-- A sequence is dark iff no line is on while it plays. -/
theorem dark_iff (ht : t.Renders n w) :
    (∀ g ∈ (ofTimeline t).segments, g.state = .off) ↔ ¬ ∃ c, ∃ i < n, (w i).isOn c = true := by
  have hend : Timeline.endFrom 0 t.spans = n := ht.length
  constructor
  · rintro hdark ⟨c, i, hi, hon⟩
    obtain ⟨span, hspan, hcontains⟩ := Timeline.TilesFrom.exists_contains ht.canonical
      (Nat.zero_le i) (hend ▸ hi)
    have hoff : span.state = .off := hdark span.segment (List.mem_map_of_mem hspan)
    rw [ht.shows span hspan i hcontains, hoff, ChannelState.isOn_off] at hon
    exact Bool.false_ne_true hon
  · intro hdark g hg
    obtain ⟨span, hspan, rfl⟩ := List.mem_map.mp hg
    obtain ⟨-, hlt, hstop⟩ := Timeline.TilesFrom.bounds ht.canonical hspan
    refine ChannelState.ext_isOn fun c => ?_
    rw [ChannelState.isOn_off, Bool.eq_false_iff]
    intro hon
    refine hdark ⟨c, span.start, hlt.trans_le (hend ▸ hstop), ?_⟩
    rw [ht.shows span hspan span.start ⟨le_rfl, hlt⟩]
    exact hon

/-- The sweep gives back the timeline of a sequence, if its spec has a pulse. -/
theorem ofSpec_of_transcribes (ht : t.Renders n w)
    (hw : ∀ i c, (w i).isOn c = true → c.index < channels.size)
    (hs : Transcribes channels (.ofTimeline t) spec) (hne : spec.activeEvents ≠ []) :
    Timeline.ofSpec spec channels = .ok t := by
  obtain ⟨u, hu, hrenders⟩ := Timeline.ofSpec_renders
    (TimingSpec.undeclared?_eq_none_iff.mpr hs.declared) hne
  have hlen : spec.unitLength = n := hs.unitLength.trans ht.length
  rw [hlen] at hrenders
  have hu' : u.Renders n w := hrenders.congr fun i hi => (waveform_of_transcribes ht hw hs hi).symm
  rw [hu, hu'.unique ht]

/-- Nothing of a sequence from outside is lost in its spec, provided that all lines that it switches
on are declared: the spec always exists, it is played once and lasts as long as the sequence, and
the sweep turns it into a timeline that is played by just this sequence. If no line is ever on then
there is no pulse, and the spec is refused. -/
theorem toTimingSpec_restores {segments : List Segment} {total : Nanoseconds}
    {s : CompiledSequence} {channels : ChannelSet} (h : ofSegments segments total = .ok s)
    (hdecl : ∀ g ∈ s.segments, ∀ c, g.state.isOn c = true → channels.contains c = true) :
    ∃ spec, s.toTimingSpec channels = .ok spec ∧ spec.repetitions = 1 ∧
      spec.unitLength = s.total ∧
      ((∃ g ∈ s.segments, ∃ c, g.state.isOn c = true) →
        ∃ t, Timeline.ofSpec spec channels = .ok t ∧ ofTimeline t = s) ∧
      ((∀ g ∈ s.segments, ∀ c, g.state.isOn c = false) →
        Timeline.ofSpec spec channels = .error .emptyTimingSpec) := by
  obtain ⟨-, hvalid⟩ := ofSegments_eq_ok_iff.mp h
  obtain ⟨spec, hspec, hs⟩ := hvalid.toTimingSpec_transcribes channels
  refine ⟨spec, hspec, hs.repetitions, hs.unitLength, ?_⟩
  have hof := hvalid.ofTimeline_toTimeline
  have hcan := hvalid.canonical_toTimeline
  -- From here on the sequence is seen as that of its timeline.
  generalize s.toTimeline = t at hof hcan
  subst hof
  have ht := hcan.renders
  have hw : ∀ i c, (t.waveform i).isOn c = true → c.index < channels.size := by
    intro i c hon
    obtain ⟨span, hspan, hspanOn⟩ := hcan.exists_span_of_isOn hon
    exact of_decide_eq_true (hdecl span.segment (List.mem_map_of_mem hspan) c hspanOn)
  have hactive := activeEvents_of_transcribes ht hw hs
  constructor
  · rintro ⟨g, hg, c, hon⟩
    have hlit : ∃ c, ∃ i < t.length, (t.waveform i).isOn c = true := by
      by_contra hdark
      rw [(dark_iff ht).mpr hdark g hg, ChannelState.isOn_off] at hon
      exact Bool.false_ne_true hon
    exact ⟨t, ofSpec_of_transcribes ht hw hs (hactive.mpr hlit), rfl⟩
  · intro hoff
    have hdark := (dark_iff ht).mp fun g hg => ChannelState.ext_isOn fun c => by
      rw [hoff g hg c, ChannelState.isOn_off]
    have hempty : spec.activeEvents = [] := not_not.mp fun hne => hdark (hactive.mp hne)
    exact Timeline.ofSpec_of_inactive (TimingSpec.undeclared?_eq_none_iff.mpr hs.declared) hempty

/-- Two lines that change at once, and darkness at the end. -/
def handover : List Segment :=
  [⟨.ofChannels [⟨0⟩], 1000⟩, ⟨.ofChannels [⟨1⟩, ⟨2⟩], 104⟩, ⟨.ofChannels [], 96⟩]

theorem toTimingSpec_restores_handover : ∃ s spec t, ofSegments handover 1200 = .ok s ∧
    s.toTimingSpec .odmr = .ok spec ∧ Timeline.ofSpec spec .odmr = .ok t ∧ ofTimeline t = s := by
  have h : ofSegments handover 1200 = .ok ⟨handover, 1200⟩ := by cbv
  have hon : ∀ cs : List ChannelId, (∀ c ∈ cs, c.index < 3) → ∀ c,
      (ChannelState.ofChannels cs).isOn c = true → ChannelSet.odmr.contains c = true := by
    intro cs hcs c hc
    have hmem := (ChannelState.isOn_ofChannels (fun d hd => (hcs d hd).trans (by decide)) c).mp hc
    exact decide_eq_true (hcs c hmem)
  have hdecl : ∀ g ∈ handover, ∀ c, g.state.isOn c = true → ChannelSet.odmr.contains c = true := by
    simp only [handover, List.forall_mem_cons]
    exact ⟨hon _ (by decide), hon _ (by decide), hon _ (by decide), by simp⟩
  obtain ⟨spec, hspec, -, -, hlit, -⟩ := toTimingSpec_restores h hdecl
  obtain ⟨t, ht, hback⟩ := hlit ⟨⟨.ofChannels [⟨0⟩], 1000⟩, by simp [handover], ⟨0⟩, by decide⟩
  exact ⟨_, spec, t, h, hspec, ht, hback⟩

end CompiledSequence

end PulseTrain
