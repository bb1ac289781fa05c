import PulseTrain.Compiler
import PulseTrain.Proofs.Pipeline
import PulseTrain.Proofs.Quantized
import PulseTrain.Proofs.Repeated
import PulseTrain.Proofs.Segments
import PulseTrain.Proofs.Sweep
import PulseTrain.Proofs.Verified

/-!
# What the compiler compiles

The stages are put together. Four cases are told apart, in the order of the checks: a pulse on a
line that is not declared, no pulse with a duration, a length that does not fit in the counter, and
success. In the last case the result plays `playedWaveform`: the waveform of the spec, sampled at
the ticks and repeated. Verification has no case of its own, as it accepts all that comes out of
the other passes.
-/

namespace PulseTrain

namespace TimingSpec

variable {s : TimingSpec} {q : Quantum}

/-- The length of one repetition on the grid. -/
def alignedUnit (s : TimingSpec) (q : Quantum) : Nat := q.ceil s.unitLength

/-- The time between two repetitions on the grid; zero if there is but one. -/
def alignedGap (s : TimingSpec) (q : Quantum) : Nat :=
  if 2 ≤ s.repetitions then q.ceil s.interval else 0

/-- The length of all repetitions with the gaps between them. -/
def playedLength (s : TimingSpec) (q : Quantum) : Nat :=
  repeatedLength s.repetitions (s.alignedUnit q) (s.alignedGap q)

/-- The waveform of the spec as it is sampled at the ticks, repeated with the gaps. -/
def playedWaveform (s : TimingSpec) (q : Quantum) : Waveform :=
  (s.waveform.sampled q).repeated (s.alignedUnit q) (s.alignedGap q)

/-- Some length does not fit in the counter: that of the unit or, if there is more than one
repetition, that of a gap or that of the whole. -/
def Overflows (s : TimingSpec) (q : Quantum) : Prop :=
  Nanoseconds.limit ≤ s.alignedUnit q ∨
    2 ≤ s.repetitions ∧
      (Nanoseconds.limit ≤ q.ceil s.interval ∨ Nanoseconds.limit ≤ s.playedLength q)

instance (s : TimingSpec) (q : Quantum) : Decidable (s.Overflows q) :=
  inferInstanceAs (Decidable (_ ∨ _))

theorem dvd_alignedUnit (s : TimingSpec) (q : Quantum) : q.ns ∣ s.alignedUnit q := q.dvd_ceil _

theorem dvd_alignedGap (s : TimingSpec) (q : Quantum) : q.ns ∣ s.alignedGap q := by
  unfold alignedGap
  split_ifs
  · exact q.dvd_ceil _
  · exact Nat.dvd_zero _

theorem alignedUnit_pos (h : s.activeEvents ≠ []) : 0 < s.alignedUnit q :=
  q.ceil_pos (unitLength_pos h)

theorem playedLength_pos (h : s.activeEvents ≠ []) : 0 < s.playedLength q :=
  Nat.add_pos_left (Nat.mul_pos s.repetitions_pos (alignedUnit_pos h)) _

theorem dvd_playedLength (s : TimingSpec) (q : Quantum) : q.ns ∣ s.playedLength q :=
  Nat.dvd_add (Dvd.dvd.mul_left (s.dvd_alignedUnit q) _) (Dvd.dvd.mul_left (s.dvd_alignedGap q) _)

theorem alignedGap_of_single (h : s.repetitions = 1) : s.alignedGap q = 0 :=
  if_neg (by omega)

theorem playedLength_of_single (h : s.repetitions = 1) : s.playedLength q = s.alignedUnit q := by
  simp [playedLength, repeatedLength, h]

/-- The length of what is played fits in the counter unless some length does not. -/
theorem playedLength_lt (h : ¬ s.Overflows q) : s.playedLength q < Nanoseconds.limit := by
  unfold Overflows at h
  rw [not_or, not_and, not_or, not_le, not_le, not_le] at h
  rcases s.repetitions_pos.eq_or_lt with hone | htwo
  · rw [playedLength_of_single hone.symm]
    exact h.1
  · exact (h.2 htwo).2

/-- What is played is constant over each tick. -/
theorem playedWaveform_floor (h : s.activeEvents ≠ []) (i : Nat) :
    s.playedWaveform q (q.floor i) = s.playedWaveform q i :=
  Waveform.repeated_floor (alignedUnit_pos h) (s.dvd_alignedUnit q) (s.dvd_alignedGap q)
    (Waveform.sampled_floor _ q) i

/-- In the first repetition nothing is repeated yet. -/
theorem playedWaveform_of_lt {i : Nat} (hi : i < s.alignedUnit q) :
    s.playedWaveform q i = s.waveform.sampled q i := by
  have hunit : (s.waveform.sampled q).repeated (s.alignedUnit q) (s.alignedGap q)
      (0 * (s.alignedUnit q + s.alignedGap q) + i) = _ := Waveform.repeated_unit 0 hi
  rw [Nat.zero_mul, Nat.zero_add] at hunit
  exact hunit

end TimingSpec

namespace Workpiece

variable {K : NoteKinds} {w : Workpiece K} {q : Quantum} {e : CompileError}

/-- What comes out of the quantization of a spec's timeline. -/
structure Quantized (spec : TimingSpec) (q : Quantum) (collapsed : CollapsedSpans)
    (w : Workpiece K) : Prop where
  /-- The quantum is known. -/
  quantum : w.properties.quantum = some q
  /-- So is the repetition plan. -/
  repetitions : w.properties.repetitions = spec.repetitions
  /-- The time between repetitions is the one that was asked for. -/
  interval : w.properties.interval = spec.interval
  /-- The length of the unit has been noted. -/
  unitLength : w.properties.unitLength = some (spec.alignedUnit q)
  /-- There is no gap yet. -/
  gap : w.properties.gap = none
  /-- The spans that disappeared have been noted. -/
  collapsed : w.properties.notes.get? .collapsed = some collapsed
  /-- The timeline is one unit on the grid. -/
  renders : w.timeline.Renders (spec.alignedUnit q) (spec.waveform.sampled q)

/-- What comes out of the repetition of a spec's unit, be it played once or more often. -/
structure Expanded (spec : TimingSpec) (q : Quantum) (collapsed : CollapsedSpans)
    (w : Workpiece K) : Prop where
  /-- The quantum is known. -/
  quantum : w.properties.quantum = some q
  /-- So is the repetition plan. -/
  repetitions : w.properties.repetitions = spec.repetitions
  /-- The length of the unit has been noted. -/
  unitLength : w.properties.unitLength = some (spec.alignedUnit q)
  /-- A gap has been noted unless there is none. -/
  gap : w.properties.gap.getD 0 = spec.alignedGap q
  /-- The spans that disappeared have been noted. -/
  collapsed : w.properties.notes.get? .collapsed = some collapsed
  /-- The timeline is what is to be played. -/
  renders : w.timeline.Renders (spec.playedLength q) (spec.playedWaveform q)

variable {spec : TimingSpec} {collapsed : CollapsedSpans}

/-- Quantization succeeds if the unit fits in the counter. -/
theorem process_quantize (ht : w.timeline.Renders spec.unitLength spec.waveform)
    (hne : spec.activeEvents ≠ []) (hfits : spec.alignedUnit q < Nanoseconds.limit)
    (hw : w.properties = .ofSpec spec q) :
    ∃ w' : Workpiece K, (∀ ps, w.process (.quantize :: ps) = w'.process ps) ∧
      w'.Quantized spec q (w.timeline.spans.foldl (CollapsedSpans.note q) .none) := by
  have hq : w.properties.quantum = some q := by rw [hw]; rfl
  obtain ⟨u, hquant, hu⟩ := Timeline.quantized_renders ht (TimingSpec.unitLength_pos hne) hfits
  refine ⟨_, fun _ => process_cons_of_ok performs_quantize rfl (quantized_of_ok hq hquant), ?_⟩
  rw [hw, hu.length]
  exact ⟨rfl, rfl, rfl, rfl, rfl, Notes.get?_insert_self _ _ _, hu⟩

/-- Quantization fails if the unit does not fit in the counter. -/
theorem process_quantize_of_le (ht : w.timeline.Renders spec.unitLength spec.waveform)
    (hle : Nanoseconds.limit ≤ spec.alignedUnit q) (hq : w.properties.quantum = some q) :
    ∃ quantity, ∀ ps, w.process (.quantize :: ps) = (.error (.overflow quantity), w) := by
  unfold TimingSpec.alignedUnit at hle
  rw [← ht.length] at hle
  obtain ⟨quantity, hquant⟩ := Timeline.quantized_of_le ht.canonical hle
  exact ⟨quantity, fun _ =>
    process_cons_of_error performs_quantize rfl (quantized_of_error hq hquant)⟩

/-- The unit on the grid is repeated if it is to be played more than once. In either case the
timeline then renders what is to be played. -/
theorem Quantized.process_expand (h : w.Quantized spec q collapsed)
    (hne : spec.activeEvents ≠ []) (hfits : ¬ spec.Overflows q) :
    ∃ w' : Workpiece K, (∀ ps, w.process (.expand :: ps) = w'.process ps) ∧
      w'.Expanded spec q collapsed := by
  by_cases hone : spec.repetitions = 1
  · -- The pass is left out, so it notes no gap, and the unit is the whole.
    have hskip : Pass.expand.shouldRun w = false := by simp [Pass.expand, h.repetitions, hone]
    refine ⟨w, fun _ => process_cons_of_skip hskip, h.quantum, h.repetitions, h.unitLength, ?_,
      h.collapsed, ?_⟩
    · rw [h.gap, TimingSpec.alignedGap_of_single hone]
      rfl
    · rw [TimingSpec.playedLength_of_single hone]
      exact h.renders.congr fun i hi => TimingSpec.playedWaveform_of_lt hi
  · have htwo : 2 ≤ spec.repetitions := by
      have := spec.repetitions_pos
      omega
    have hrun : Pass.expand.shouldRun w = true := by simp [Pass.expand, h.repetitions, hone]
    have halign : q.ceil spec.interval = spec.alignedGap q := (if_pos htwo).symm
    unfold TimingSpec.Overflows at hfits
    rw [not_or, not_and, not_or, not_le, not_le, not_le] at hfits
    obtain ⟨hgapFits, hlenFits⟩ := hfits.2 htwo
    unfold TimingSpec.playedLength at hlenFits
    rw [← halign] at hlenFits
    obtain ⟨t, hrepeated, hrenders⟩ := Timeline.repeated_renders h.renders
      (TimingSpec.alignedUnit_pos hne) spec.repetitions_pos hgapFits hlenFits
    rw [← h.repetitions, ← h.interval] at hrepeated
    refine ⟨_, fun _ => process_cons_of_ok performs_expand hrun
      (repeated_of_ok h.quantum hrepeated), h.quantum, h.repetitions, ?_, ?_, h.collapsed, ?_⟩
    · dsimp only
      rw [h.unitLength]
      rfl
    · rw [h.interval]
      exact halign
    · rw [halign] at hrenders
      exact hrenders

/-- Repetition fails if the unit fits in the counter, but a gap or the whole does not. -/
theorem Quantized.process_expand_of_overflows (h : w.Quantized spec q collapsed)
    (hne : spec.activeEvents ≠ []) (hfits : spec.alignedUnit q < Nanoseconds.limit)
    (hover : spec.Overflows q) :
    ∃ quantity, ∀ ps, w.process (.expand :: ps) = (.error (.overflow quantity), w) := by
  obtain ⟨htwo, hlong⟩ := hover.resolve_left (not_le.mpr hfits)
  have hrun : Pass.expand.shouldRun w = true := by
    have hne1 : spec.repetitions ≠ 1 := by omega
    simp [Pass.expand, h.repetitions, hne1]
  have halign : q.ceil spec.interval = spec.alignedGap q := (if_pos htwo).symm
  unfold TimingSpec.playedLength at hlong
  rw [← halign, ← h.renders.length] at hlong
  have hpos : 0 < w.timeline.length := by
    rw [h.renders.length]
    exact TimingSpec.alignedUnit_pos hne
  obtain ⟨quantity, hrepeated⟩ := Timeline.repeated_of_le hpos spec.repetitions_pos hlong
  rw [← h.repetitions, ← h.interval] at hrepeated
  exact ⟨quantity, fun _ =>
    process_cons_of_error performs_expand hrun (repeated_of_error h.quantum hrepeated)⟩

/-- What is to be played passes verification. -/
theorem Expanded.playable (h : w.Expanded spec q collapsed) (hne : spec.activeEvents ≠ []) :
    w.timeline.Playable q w.properties.repetitions w.properties.unitLength
      (w.properties.gap.getD 0) := by
  have hgrid := h.renders.onGrid (spec.dvd_playedLength q) fun i _ =>
    TimingSpec.playedWaveform_floor hne i
  refine ⟨?_, h.renders.canonical, fun s hs => hgrid.dvd_duration hs, ?_⟩
  · intro hnil
    have hlen := h.renders.length
    rw [Timeline.length_eq_endFrom, hnil, Timeline.endFrom_nil] at hlen
    exact (TimingSpec.playedLength_pos hne).ne hlen
  · rw [h.unitLength, h.gap, h.repetitions, h.renders.length, max_eq_left spec.repetitions_pos]
    simp [TimingSpec.playedLength]

/-- Verification, if it is wanted, lets what is to be played through. All it adds is a note, and the
report does not read it. -/
theorem Expanded.process_verify (h : w.Expanded spec q collapsed) (hne : spec.activeEvents ≠ [])
    (hfits : ¬ spec.Overflows q) (b : Bool) :
    ∃ w', w.process (if b then [.verify] else []) = (.ok (), w') ∧
      CompileReport.ofWorkpiece w' = CompileReport.ofWorkpiece w := by
  cases b with
  | false => exact ⟨w, process_nil w, rfl⟩
  | true =>
    have hlength : w.timeline.length < Nanoseconds.limit :=
      h.renders.length ▸ TimingSpec.playedLength_lt hfits
    have hverify := (Timeline.verify_eq_ok_iff hlength).mpr ⟨q, h.quantum, h.playable hne, rfl⟩
    have hprocess : w.process [.verify] = _ :=
      process_cons_of_ok performs_verify rfl (verified_of_ok hverify)
    refine ⟨_, hprocess, ?_⟩
    have hnotes := w.properties.notes.get?_insert_of_ne
      (⟨true, w.timeline.size, w.timeline.length⟩ : Verification)
      (show NoteKind.verification ≠ .collapsed from nofun)
    unfold CompileReport.ofWorkpiece
    simp [Properties.withNote, hnotes]

/-- What is reported. -/
theorem Expanded.report_eq (h : w.Expanded spec q collapsed) : CompileReport.ofWorkpiece w =
    { sequence := .ofTimeline w.timeline
      unitLength := spec.alignedUnit q
      gap := spec.alignedGap q
      collapsed } := by
  unfold CompileReport.ofWorkpiece
  rw [h.unitLength, h.gap, h.collapsed]
  rfl

end Workpiece

namespace Compiler

variable {c : Compiler} {spec : TimingSpec}

theorem compileWithReport_of_ok {t : Timeline} (h : Timeline.ofSpec spec c.channels = .ok t)
    (b : Bool) : { c with verified := b }.compileWithReport spec =
      match (⟨t, .ofSpec spec c.quantum⟩ : Workpiece .none).process
          (.quantize :: .expand :: if b then [.verify] else []) with
      | (.ok (), w) => .ok (.ofWorkpiece w)
      | (.error e, _) => .error e := by
  unfold compileWithReport
  rw [h]
  rfl

/-! ## The four cases -/

/-- The first pulse on a line that is not declared is named. -/
theorem compileWithReport_of_undeclared {e : PulseEvent}
    (h : spec.undeclared? c.channels = some e) :
    c.compileWithReport spec = .error (.unknownChannel e.channel.label) := by
  unfold compileWithReport
  rw [Timeline.ofSpec_of_undeclared h]
  rfl

theorem compileWithReport_of_inactive (h : spec.undeclared? c.channels = none)
    (hempty : spec.activeEvents = []) : c.compileWithReport spec = .error .emptyTimingSpec := by
  unfold compileWithReport
  rw [Timeline.ofSpec_of_inactive h hempty]
  rfl

/-- A unit that does not fit is found by the first pass; a gap or a whole that does not fit is
found by the second. The third is not reached. -/
theorem compileWithReport_of_overflows (h : spec.undeclared? c.channels = none)
    (hne : spec.activeEvents ≠ []) (hover : spec.Overflows c.quantum) :
    ∃ quantity, ∀ b, { c with verified := b }.compileWithReport spec =
      .error (.overflow quantity) := by
  obtain ⟨t, hspec, ht⟩ := Timeline.ofSpec_renders h hne
  rcases lt_or_ge (spec.alignedUnit c.quantum) Nanoseconds.limit with hunit | hunit
  · obtain ⟨w, hquantize, hw⟩ := Workpiece.process_quantize
      (K := .none) (w := ⟨t, .ofSpec spec c.quantum⟩) ht hne hunit rfl
    obtain ⟨quantity, hexpand⟩ := hw.process_expand_of_overflows hne hunit hover
    refine ⟨quantity, fun b => ?_⟩
    rw [compileWithReport_of_ok hspec b, hquantize, hexpand]
  · obtain ⟨quantity, hquantize⟩ := Workpiece.process_quantize_of_le
      (K := .none) (w := ⟨t, .ofSpec spec c.quantum⟩) ht hunit rfl
    refine ⟨quantity, fun b => ?_⟩
    rw [compileWithReport_of_ok hspec b, hquantize]

/-- If every length fits, then the result plays what is to be played, and the spans of the unit that
disappeared are counted. -/
theorem compileWithReport_of_fits (h : spec.undeclared? c.channels = none)
    (hne : spec.activeEvents ≠ []) (hfits : ¬ spec.Overflows c.quantum) :
    ∃ unit t, Timeline.ofSpec spec c.channels = .ok unit ∧
      t.Renders (spec.playedLength c.quantum) (spec.playedWaveform c.quantum) ∧
      ∀ b, { c with verified := b }.compileWithReport spec = .ok
        { sequence := .ofTimeline t
          unitLength := spec.alignedUnit c.quantum
          gap := spec.alignedGap c.quantum
          collapsed := unit.spans.foldl (CollapsedSpans.note c.quantum) .none } := by
  obtain ⟨unit, hspec, ht⟩ := Timeline.ofSpec_renders h hne
  have hunit : spec.alignedUnit c.quantum < Nanoseconds.limit := not_le.mp fun h => hfits (.inl h)
  obtain ⟨w1, hquantize, hw1⟩ := Workpiece.process_quantize
    (K := .none) (w := ⟨unit, .ofSpec spec c.quantum⟩) ht hne hunit rfl
  obtain ⟨w2, hexpand, hw2⟩ := hw1.process_expand hne hfits
  refine ⟨unit, w2.timeline, hspec, hw2.renders, fun b => ?_⟩
  obtain ⟨w3, hverify, hreport⟩ := hw2.process_verify hne hfits b
  rw [compileWithReport_of_ok hspec b, hquantize, hexpand, hverify, ← hw2.report_eq, ← hreport]

/-! ## Success -/

/-- Success excludes the other three cases. -/
theorem compileWithReport_inv {report : CompileReport}
    (h : c.compileWithReport spec = .ok report) :
    spec.undeclared? c.channels = none ∧ spec.activeEvents ≠ [] ∧ ¬ spec.Overflows c.quantum := by
  have hdecl : spec.undeclared? c.channels = none := by
    cases hfound : spec.undeclared? c.channels with
    | none => rfl
    | some e =>
      rw [compileWithReport_of_undeclared hfound] at h
      exact absurd h (by simp)
  have hne : spec.activeEvents ≠ [] := by
    intro hempty
    rw [compileWithReport_of_inactive hdecl hempty] at h
    exact absurd h (by simp)
  refine ⟨hdecl, hne, fun hover => ?_⟩
  obtain ⟨quantity, herror⟩ := compileWithReport_of_overflows hdecl hne hover
  have hfail := h.symm.trans (herror c.verified)
  exact absurd hfail (by simp)

/-- The other three cases are all that can go wrong. -/
theorem exists_compileWithReport (h : spec.undeclared? c.channels = none)
    (hne : spec.activeEvents ≠ []) (hfits : ¬ spec.Overflows c.quantum) :
    ∃ report, c.compileWithReport spec = .ok report := by
  obtain ⟨unit, t, -, -, hok⟩ := compileWithReport_of_fits h hne hfits
  exact ⟨_, hok c.verified⟩

/-- What is reported plays what is to be played. -/
theorem compileWithReport_renders {report : CompileReport}
    (h : c.compileWithReport spec = .ok report) :
    ∃ t, t.Renders (spec.playedLength c.quantum) (spec.playedWaveform c.quantum) ∧
      report.sequence = .ofTimeline t ∧ report.unitLength = spec.alignedUnit c.quantum ∧
      report.gap = spec.alignedGap c.quantum := by
  obtain ⟨hdecl, hne, hfits⟩ := compileWithReport_inv h
  obtain ⟨unit, t, -, ht, hreport⟩ := compileWithReport_of_fits hdecl hne hfits
  have hok := Except.ok.inj (h.symm.trans (hreport c.verified))
  subst hok
  exact ⟨t, ht, rfl, rfl, rfl⟩

theorem compile_eq_ok_iff {s : CompiledSequence} :
    c.compile spec = .ok s ↔ ∃ report, c.compileWithReport spec = .ok report ∧
      report.sequence = s :=
  map_eq_ok

theorem compile_eq_error_iff {e : CompileError} :
    c.compile spec = .error e ↔ c.compileWithReport spec = .error e :=
  map_eq_error

theorem compile_renders {s : CompiledSequence} (h : c.compile spec = .ok s) :
    ∃ t : Timeline, t.Renders (spec.playedLength c.quantum) (spec.playedWaveform c.quantum) ∧
      s = .ofTimeline t := by
  obtain ⟨report, hreport, rfl⟩ := compile_eq_ok_iff.mp h
  obtain ⟨t, ht, hseq, -⟩ := compileWithReport_renders hreport
  exact ⟨t, ht, hseq⟩

theorem compile_inv {s : CompiledSequence} (h : c.compile spec = .ok s) :
    spec.undeclared? c.channels = none ∧ spec.activeEvents ≠ [] ∧
      ¬ spec.Overflows c.quantum := by
  obtain ⟨report, hreport, -⟩ := compile_eq_ok_iff.mp h
  exact compileWithReport_inv hreport

/-- A compiled sequence obeys the rules for sequences from outside. -/
theorem compile_valid {s : CompiledSequence} (h : c.compile spec = .ok s) : s.Valid := by
  obtain ⟨-, -, hfits⟩ := compile_inv h
  obtain ⟨t, ht, rfl⟩ := compile_renders h
  exact ht.valid (TimingSpec.playedLength_lt hfits)

end Compiler

end PulseTrain
