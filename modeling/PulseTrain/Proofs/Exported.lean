import PulseTrain.Proofs.Frozen
import PulseTrain.Proofs.Runs
import PulseTrain.Report.PatternDocument

/-!
# Exported patterns lose nothing

The patterns of all lines that a sequence switches on show its state at each instant, and a valid
sequence is determined by its states. So no two valid sequences have the same patterns.
-/

namespace PulseTrain

namespace ChannelStore

theorem exists_mem_toList {s : ChannelStore} {c : ChannelId} (h : c.index < s.size) :
    ∃ name, (c, name) ∈ s.toList := by
  have hlength : s.ids.length ≤ s.names.length := length_ids.le
  have hids : s.toList.map Prod.fst = s.ids := List.map_fst_zip hlength
  have hmem : c ∈ s.toList.map Prod.fst := hids ▸ mem_ids.mpr h
  obtain ⟨⟨d, name⟩, hd, rfl⟩ := List.mem_map.mp hmem
  exact ⟨name, hd⟩

end ChannelStore

namespace CompiledSequence

variable {segments : List Segment} {s s' : CompiledSequence} {channels : ChannelSet} {t : Nat}

/-! ## Patterns -/

/-- The level of a line at an instant of its pattern is that of the state that is played then. -/
theorem levelAt_eq {state : ChannelState} (hstate : s.stateAt t = some state) (c : ChannelId) :
    Run.levelAt (s.channelPattern c) t = state.isOn c := by
  rw [Bool.eq_iff_iff, levelAt_channelPattern, hstate]
  simp

theorem channelPattern_eq_of_channels
    (h : (PatternDocument.ofSequence s channels).channels =
      (PatternDocument.ofSequence s' channels).channels) {c : ChannelId}
    (hc : c.index < channels.size) : s.channelPattern c = s'.channelPattern c := by
  obtain ⟨name, hname⟩ := ChannelStore.exists_mem_toList hc
  have hentry := List.map_inj_left.mp h (c, name) hname
  exact (ChannelPattern.mk.inj hentry).2.2

/-- Valid sequences with the same patterns are equal, if all lines that they switch on are
declared. -/
theorem Valid.eq_of_channels (h : s.Valid) (h' : s'.Valid)
    (hon : ∀ g ∈ s.segments, ∀ c, g.state.isOn c = true → channels.contains c = true)
    (hon' : ∀ g ∈ s'.segments, ∀ c, g.state.isOn c = true → channels.contains c = true)
    (htotal : s.total = s'.total)
    (hchannels : (PatternDocument.ofSequence s channels).channels =
      (PatternDocument.ofSequence s' channels).channels) : s = s' := by
  refine h.eq_of_stateAt h' htotal fun t ht => ?_
  obtain ⟨g, hg, hstate⟩ := h.exists_stateAt ht
  obtain ⟨g', hg', hstate'⟩ := h'.exists_stateAt (htotal ▸ ht)
  rw [hstate, hstate']
  refine congrArg some (ChannelState.ext_isOn fun c => ?_)
  by_cases hc : channels.contains c = true
  · have hsize : c.index < channels.size := of_decide_eq_true hc
    rw [← levelAt_eq hstate, ← levelAt_eq hstate', channelPattern_eq_of_channels hchannels hsize]
  · -- A line that is not declared is off in both.
    have hoff : g.state.isOn c = false := Bool.eq_false_iff.mpr fun htrue => hc (hon g hg c htrue)
    have hoff' : g'.state.isOn c = false :=
      Bool.eq_false_iff.mpr fun htrue => hc (hon' g' hg' c htrue)
    rw [hoff, hoff']

theorem onTime_le (h : s.Valid) (c : ChannelId) : s.onTime c ≤ s.total := by
  rw [← h.sum]
  unfold onTime
  induction s.segments with
  | nil => exact le_rfl
  | cons g rest ih =>
    rw [List.foldr_cons, duration_cons]
    split_ifs
    · exact Nat.add_le_add_left ih _
    · exact ih.trans (Nat.le_add_left _ _)

/-- The patterns of a sequence that passes the check. On every line the levels alternate and each is
held for some time; the durations fill the sequence, and no counter overflows when the runs are
joined in order of time; the level at each instant is the one that is played; and the line is on for
as long as its runs say. Another such sequence with the same length and the same patterns is the
same sequence, provided that all lines that the two switch on are declared. -/
theorem ofSequence_lossless {total : Nanoseconds} (h : ofSegments segments total = .ok s) :
    (∀ c, let pattern := s.channelPattern c
      (pattern.IsChain fun a b => a.on ≠ b.on) ∧ (∀ r ∈ pattern, 0 < r.duration) ∧
      Run.total pattern = s.total ∧ s.total < Nanoseconds.limit ∧
      (s.segments.map (Segment.run c)).foldlM Run.append? [] = some pattern.reverse ∧
      (∀ t < s.total, ∃ state, s.stateAt t = some state ∧
        Run.levelAt pattern t = state.isOn c) ∧
      s.onTime c = Run.total (pattern.filter Run.on) ∧ s.onTime c ≤ s.total) ∧
    ∀ segments' total' s', ofSegments segments' total' = .ok s' → ∀ channels : ChannelSet,
      (∀ g ∈ s.segments, ∀ c, g.state.isOn c = true → channels.contains c = true) →
      (∀ g ∈ s'.segments, ∀ c, g.state.isOn c = true → channels.contains c = true) →
      let document := PatternDocument.ofSequence s channels
      let document' := PatternDocument.ofSequence s' channels
      document.total = document'.total → document.channels = document'.channels → s = s' := by
  obtain ⟨-, hvalid⟩ := ofSegments_eq_ok_iff.mp h
  constructor
  · intro c pattern
    have hregular := hvalid.regular_channelPattern c
    refine ⟨hregular.alternates, hregular.positive, hvalid.total_channelPattern c, hvalid.fits,
      hvalid.foldlM_append? c, fun t ht => ?_, s.onTime_eq c, onTime_le hvalid c⟩
    obtain ⟨g, -, hstate⟩ := hvalid.exists_stateAt ht
    exact ⟨g.state, hstate, levelAt_eq hstate c⟩
  · intro segments' total' s' h' channels hon hon' document document' htotal hchannels
    obtain ⟨-, hvalid'⟩ := ofSegments_eq_ok_iff.mp h'
    exact hvalid.eq_of_channels hvalid' hon hon' htotal hchannels

/-- One line is on before the other, and for some time both are. -/
def staggered : List Segment :=
  [⟨.ofChannels [⟨0⟩], 16⟩, ⟨.ofChannels [⟨0⟩, ⟨1⟩], 8⟩, ⟨.ofChannels [⟨1⟩], 8⟩]

/-- The other way round the patterns differ, though each line is on for as long as before. -/
theorem ofSequence_lossless_staggered : ∃ s s', ofSegments staggered 32 = .ok s ∧
    ofSegments staggered.reverse 32 = .ok s' ∧
    (s.segments.map (Segment.run ⟨0⟩)).foldlM Run.append? [] =
      some (s.channelPattern ⟨0⟩).reverse ∧
    (PatternDocument.ofSequence s .odmr).channels ≠
      (PatternDocument.ofSequence s' .odmr).channels := by
  have h : ofSegments staggered 32 = .ok ⟨staggered, 32⟩ := by cbv
  have h' : ofSegments staggered.reverse 32 = .ok ⟨staggered.reverse, 32⟩ := by cbv
  have hdecl : ∀ g ∈ staggered, ∀ c, g.state.isOn c = true →
      ChannelSet.odmr.contains c = true := by
    simp only [staggered, List.forall_mem_cons]
    refine ⟨?_, ?_, ?_, by simp⟩
    · exact fun c => ChannelSet.contains_of_isOn_ofChannels (by decide)
    · exact fun c => ChannelSet.contains_of_isOn_ofChannels (by decide)
    · exact fun c => ChannelSet.contains_of_isOn_ofChannels (by decide)
  obtain ⟨hpattern, hsame⟩ := ofSequence_lossless h
  obtain ⟨-, -, -, -, hfold, -⟩ := hpattern ⟨0⟩
  refine ⟨_, _, h, h', hfold, fun hchannels => ?_⟩
  have hdecl' : ∀ g ∈ staggered.reverse, ∀ c, g.state.isOn c = true →
      ChannelSet.odmr.contains c = true := fun g hg => hdecl g (List.mem_reverse.mp hg)
  have heq := hsame _ _ _ h' .odmr hdecl hdecl' rfl hchannels
  exact absurd heq (by decide)

end CompiledSequence

end PulseTrain
