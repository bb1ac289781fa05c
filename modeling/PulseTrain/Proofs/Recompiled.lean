import PulseTrain.Proofs.Documents
import PulseTrain.Proofs.Transcribed

/-!
# Compiling a compiled sequence

The spec of a compiled sequence describes the waveform that the sequence plays. This lies on the
grid already, so it is compiled to the same sequence, provided that a line is on at some time. A
sequence that is dark throughout has a spec without pulses, which is refused. It is compiled from a
spec whose pulses all lie between two ticks.
-/

namespace PulseTrain

namespace TimingSpec

variable {s : TimingSpec} {q : Quantum}

/-- A line is on at some time of what is played iff some pulse covers a tick. -/
theorem exists_isOn_playedWaveform_iff {channels : ChannelSet}
    (h : s.undeclared? channels = none) :
    (∃ c, ∃ t < s.playedLength q, (s.playedWaveform q t).isOn c = true) ↔
      ∃ c k, s.Covers c (k * q.ns) := by
  constructor
  · rintro ⟨c, t, -, hon⟩
    have hcov := ((isOn_playedWaveform h c t).mp hon).2
    obtain ⟨k, hk⟩ := q.dvd_floor (t % (s.alignedUnit q + s.alignedGap q))
    rw [hk, Nat.mul_comm] at hcov
    exact ⟨c, k, hcov⟩
  · rintro ⟨c, k, hcov⟩
    have hunit : k * q.ns < s.alignedUnit q :=
      (lt_unitLength_of_covers hcov).trans_le (q.le_ceil _)
    have hlen : k * q.ns < s.playedLength q := by
      rw [playedLength_eq]
      exact hunit.trans_le (Nat.le_add_left _ _)
    refine ⟨c, k * q.ns, hlen, ?_⟩
    rw [playedWaveform_of_lt hunit]
    unfold Waveform.sampled
    rw [q.floor_eq_self (Dvd.intro_left k rfl)]
    exact (isOn_waveform_of_declared h c _).mpr hcov

end TimingSpec

namespace Compiler

open CompiledSequence

variable {c : Compiler} {spec again : TimingSpec} {s : CompiledSequence} {t : Timeline}
  {n : Nat} {w : Waveform}

/-- A timeline on the grid is compiled from the spec of its sequence, if that has a pulse. -/
theorem compile_of_transcribes (ht : t.Renders n w)
    (hw : ∀ i c', (w i).isOn c' = true → c'.index < c.channels.size)
    (hs : Transcribes c.channels (.ofTimeline t) again) (hdvd : c.quantum.ns ∣ n)
    (hfloor : ∀ i, w (c.quantum.floor i) = w i) (hn : n < Nanoseconds.limit)
    (hne : again.activeEvents ≠ []) : c.compile again = .ok (.ofTimeline t) := by
  have hlen : again.unitLength = n := hs.unitLength.trans ht.length
  have hunit : again.alignedUnit c.quantum = n := by
    unfold TimingSpec.alignedUnit
    rw [hlen, c.quantum.ceil_eq_self hdvd]
  have hfits : ¬ again.Overflows c.quantum := by
    unfold TimingSpec.Overflows
    rw [hunit, hs.repetitions]
    omega
  obtain ⟨_, u, -, hu, hok⟩ := compileWithReport_of_fits
    (TimingSpec.undeclared?_eq_none_iff.mpr hs.declared) hne hfits
  rw [TimingSpec.playedLength_of_single hs.repetitions, hunit] at hu
  have hplay : ∀ i < n, w i = again.playedWaveform c.quantum i := by
    intro i hi
    have hi' : c.quantum.floor i < n := (c.quantum.floor_lt_of_dvd_iff hdvd).mpr hi
    rw [TimingSpec.playedWaveform_of_lt (by rw [hunit]; exact hi)]
    unfold Waveform.sampled
    rw [waveform_of_transcribes ht hw hs hi', hfloor]
  -- Both timelines render the waveform, and it has only one.
  have htu : u = t := (hu.congr hplay).unique ht
  subst htu
  exact compile_eq_ok_iff.mpr ⟨_, hok c.verified, rfl⟩

/-- A compiled sequence always has a spec. This is compiled to the same sequence if some pulse
covered a tick in the first place. If none did, then the sequence is dark, and its spec is refused
as it has no pulses. -/
theorem compile_toTimingSpec (h : c.compile spec = .ok s) :
    ∃ again, s.toTimingSpec c.channels = .ok again ∧
      ((∃ ch k, spec.Covers ch (k * c.quantum.ns)) →
        c.compile again = .ok s ∧ ∃ g ∈ s.segments, g.state ≠ .off) ∧
      ((∀ ch k, ¬ spec.Covers ch (k * c.quantum.ns)) →
        c.compile again = .error .emptyTimingSpec ∧ ∀ g ∈ s.segments, g.state = .off) := by
  have hvalid := compile_valid h
  obtain ⟨hdecl, hne, hfits⟩ := compile_inv h
  obtain ⟨t, ht, rfl⟩ := compile_renders h
  obtain ⟨again, hagain, hs⟩ := hvalid.toTimingSpec_transcribes c.channels
  have hw : ∀ i c', (spec.playedWaveform c.quantum i).isOn c' = true →
      c'.index < c.channels.size := by
    intro i c' hon
    have hcov := ((TimingSpec.isOn_playedWaveform hdecl c' i).mp hon).2
    exact of_decide_eq_true (TimingSpec.contains_of_covers hdecl hcov)
  have hticks := TimingSpec.exists_isOn_playedWaveform_iff (q := c.quantum) hdecl
  have hactive := activeEvents_of_transcribes ht hw hs
  refine ⟨again, hagain, fun hcov => ⟨?_, ?_⟩, fun hnone => ?_⟩
  · exact compile_of_transcribes ht hw hs (spec.dvd_playedLength c.quantum)
      (TimingSpec.playedWaveform_floor hne) (TimingSpec.playedLength_lt hfits)
      (hactive.mpr (hticks.mpr hcov))
  · by_contra hnone
    have hdark : ∀ g ∈ (ofTimeline t).segments, g.state = .off := fun g hg =>
      by_contra fun hon => hnone ⟨g, hg, hon⟩
    exact (dark_iff ht).mp hdark (hticks.mpr hcov)
  · have hdark : ¬ ∃ c', ∃ i < spec.playedLength c.quantum,
        (spec.playedWaveform c.quantum i).isOn c' = true := by
      rw [hticks]
      rintro ⟨ch, k, hcov⟩
      exact hnone ch k hcov
    refine ⟨?_, (dark_iff ht).mpr hdark⟩
    have hempty : again.activeEvents = [] := not_not.mp fun hne => hdark (hactive.mp hne)
    exact compile_eq_error_iff.mpr (compileWithReport_of_inactive
      (TimingSpec.undeclared?_eq_none_iff.mpr hs.declared) hempty)

/-- The case in which the sequence is compiled again. -/
theorem compile_toTimingSpec_blink : ∃ s again, blinker.compile blink = .ok s ∧
    s.toTimingSpec blinker.channels = .ok again ∧ blinker.compile again = .ok s := by
  have h := compile_eq_ok_iff.mpr ⟨_, compileWithReport_blink, rfl⟩
  obtain ⟨again, hagain, hsame, -⟩ := compile_toTimingSpec h
  exact ⟨_, again, h, hagain, (hsame ⟨⟨1⟩, 1, by decide⟩).1⟩

/-- A pulse between two ticks of a grid of 8 ns. -/
def glitch : TimingSpec where
  events := [⟨⟨0⟩, 1, 2⟩]
  interval := 0
  repetitions := 1
  minUnitLength := 0
  repetitions_pos := by decide
  stop_lt := by decide

/-- The other case does occur: a pulse between two ticks leaves a dark sequence, which cannot be
compiled again. -/
theorem not_compile_again : ¬ ∀ (c : Compiler) (spec : TimingSpec) (s : CompiledSequence),
    c.compile spec = .ok s →
      ∃ again, s.toTimingSpec c.channels = .ok again ∧ c.compile again = .ok s := by
  intro hall
  have hedges : Schedule glitch.activeEvents [⟨1, ⟨0⟩, true⟩, ⟨3, ⟨0⟩, false⟩] :=
    ⟨by decide, by decide⟩
  have hunit : Timeline.ofSpec glitch .odmr = .ok ⟨[⟨0, 1, .off⟩, ⟨1, 3, ⟨1⟩⟩]⟩ :=
    Timeline.ofSpec_eq_swept (by decide) (by decide) hedges
  have hreport := @compileWithReport_of_ok ⟨.odmr, .default, true⟩ glitch _ hunit true
  have h : Compiler.compile ⟨.odmr, .default, true⟩ glitch = .ok ⟨[⟨.off, 8⟩], 8⟩ :=
    compile_eq_ok_iff.mpr ⟨⟨⟨[⟨.off, 8⟩], 8⟩, 8, 0, ⟨1, 1⟩⟩, hreport, rfl⟩
  have hspec : toTimingSpec ⟨[⟨.off, 8⟩], 8⟩ .odmr = .ok ⟨[], 0, 1, 8, le_rfl, by simp⟩ := rfl
  have herror : Compiler.compile ⟨.odmr, .default, true⟩ ⟨[], 0, 1, 8, le_rfl, by simp⟩ =
      .error .emptyTimingSpec := rfl
  obtain ⟨again, hagain, hok⟩ := hall _ _ _ h
  obtain rfl := Except.ok.inj (hspec.symm.trans hagain)
  exact absurd (herror.symm.trans hok) (by simp)

end Compiler

end PulseTrain
