import Mathlib.Logic.Relation
import PulseTrain.Proofs.Outcome

/-!
# Specs that describe one waveform

How the pulses of a spec are written down does not matter. They may be reordered, repeated, split
and united, and pulses without duration may be added (`Redraws`): the covered instants stay the
same, and the compiler sees nothing else of the pulses.
-/

namespace PulseTrain

/-- One change in how pulses are written down. -/
inductive Redraws : List PulseEvent → List PulseEvent → Prop
  /-- Another order. -/
  | reorder {es es' : List PulseEvent} (h : es.Perm es') : Redraws es es'
  /-- A pulse that is there already. -/
  | again {e : PulseEvent} {es : List PulseEvent} (h : e ∈ es) : Redraws es (e :: es)
  /-- A pulse without duration. -/
  | empty {e : PulseEvent} (es : List PulseEvent) (h : e.duration = 0) : Redraws es (e :: es)
  /-- Two pulses that meet, in place of one. -/
  | split (c : ChannelId) (start first second : Nanoseconds) (es : List PulseEvent) :
      Redraws (⟨c, start, first + second⟩ :: es)
        (⟨c, start, first⟩ :: ⟨c, start + first, second⟩ :: es)
  /-- The union of two pulses on one line that overlap or meet. -/
  | unite {a b : PulseEvent} (es : List PulseEvent) (hc : b.channel = a.channel)
      (hab : a.start ≤ b.start) (hba : b.start ≤ a.stop) :
      Redraws (a :: b :: es) (⟨a.channel, a.start, max a.stop b.stop - a.start⟩ :: es)

namespace Redraws

variable {es es' : List PulseEvent} {c : ChannelId} {t : Nat}

/-- No change covers or uncovers an instant. -/
theorem covers_iff (h : Redraws es es') :
    (∃ e ∈ es, e.Covers c t) ↔ ∃ e ∈ es', e.Covers c t := by
  cases h with
  | reorder hperm => simp only [hperm.mem_iff]
  | again hmem =>
    rw [List.exists_mem_cons_iff]
    exact ⟨Or.inr, fun h => h.elim (fun hcov => ⟨_, hmem, hcov⟩) id⟩
  | empty es hzero =>
    rw [List.exists_mem_cons_iff]
    refine ⟨Or.inr, fun h => h.resolve_left ?_⟩
    rintro ⟨-, hstart, hstop⟩
    unfold PulseEvent.stop at hstop
    lia
  | split ch start first second es =>
    simp only [List.exists_mem_cons_iff, PulseEvent.Covers, PulseEvent.stop, ← or_assoc]
    refine or_congr_left ?_
    lia
  | @unite a b es hch hab hba =>
    simp only [List.exists_mem_cons_iff, ← or_assoc]
    refine or_congr_left ?_
    simp only [PulseEvent.Covers, PulseEvent.stop, hch] at hba ⊢
    lia

/-- Nor does any number of them, be they made or undone. -/
theorem covers_iff_of_eqvGen (h : Relation.EqvGen Redraws es es') :
    (∃ e ∈ es, e.Covers c t) ↔ ∃ e ∈ es', e.Covers c t := by
  induction h with
  | rel _ _ hstep => exact hstep.covers_iff
  | refl _ => exact Iff.rfl
  | symm _ _ _ ih => exact ih.symm
  | trans _ _ _ _ _ ih ih' => exact ih.trans ih'

end Redraws

namespace TimingSpec

variable {s s' : TimingSpec} {n : Nat}

/-- The length of the unit, too, can be read off the minimum and the covered instants. -/
theorem unitLength_le_iff_covers :
    s.unitLength ≤ n ↔ s.minUnitLength ≤ n ∧ ∀ c t, s.Covers c t → t < n := by
  rw [unitLength_le_iff]
  refine and_congr_right fun _ => ⟨?_, ?_⟩
  · intro hstop c t hcov
    obtain ⟨e, he, -, -, hlt⟩ := covers_iff_active.mp hcov
    exact hlt.trans_le (hstop e he)
  · intro hcovers e he
    have hlt := start_lt_stop_of_mem he
    have hlast := hcovers e.channel (e.stop - 1)
      (covers_iff_active.mpr ⟨e, he, rfl, Nat.le_sub_one_of_lt hlt, Nat.sub_one_lt_of_lt hlt⟩)
    exact Nat.le_of_pred_lt hlast

theorem unitLength_eq_of_covers (hmin : s.minUnitLength = s'.minUnitLength)
    (hcov : ∀ c t, s.Covers c t ↔ s'.Covers c t) : s.unitLength = s'.unitLength := by
  refine eq_of_forall_ge_iff fun n => ?_
  rw [unitLength_le_iff_covers, unitLength_le_iff_covers, hmin]
  simp only [hcov]

end TimingSpec

namespace Timeline

variable {spec spec' : TimingSpec} {channels : ChannelSet}

/-- Two specs that cover the same instants have one timeline, as a waveform has but one. -/
theorem ofSpec_congr (hdecl : spec.undeclared? channels = none)
    (hdecl' : spec'.undeclared? channels = none) (hunit : spec.unitLength = spec'.unitLength)
    (hcov : ∀ c t, spec.Covers c t ↔ spec'.Covers c t) :
    ofSpec spec channels = ofSpec spec' channels := by
  have hactive : spec.activeEvents ≠ [] ↔ spec'.activeEvents ≠ [] := by
    rw [TimingSpec.activeEvents_ne_nil_iff_covers, TimingSpec.activeEvents_ne_nil_iff_covers]
    simp only [hcov]
  by_cases hne : spec.activeEvents = []
  · have hne' : spec'.activeEvents = [] := by
      by_contra hsome
      exact hactive.mpr hsome hne
    rw [ofSpec_of_inactive hdecl hne, ofSpec_of_inactive hdecl' hne']
  · obtain ⟨t, ht, hrenders⟩ := ofSpec_renders hdecl hne
    obtain ⟨t', ht', hrenders'⟩ := ofSpec_renders hdecl' (hactive.mp hne)
    have hwave : spec.waveform = spec'.waveform := by
      funext i
      refine ChannelState.ext_isOn fun c => ?_
      rw [Bool.eq_iff_iff, TimingSpec.isOn_waveform_of_declared hdecl,
        TimingSpec.isOn_waveform_of_declared hdecl']
      exact hcov c i
    rw [hunit, hwave] at hrenders
    rw [ht, ht', hrenders.unique hrenders']

end Timeline

namespace Compiler

variable {c : Compiler} {spec spec' : TimingSpec}

/-- Of the pulses the compiler sees the timeline only. -/
theorem compileWithReport_congr
    (htimeline : Timeline.ofSpec spec c.channels = Timeline.ofSpec spec' c.channels)
    (hrep : spec.repetitions = spec'.repetitions) (hint : spec.interval = spec'.interval) :
    c.compileWithReport spec = c.compileWithReport spec' := by
  unfold compileWithReport plan PipelinePlan.forSpec
  rw [htimeline, hrep, hint]

/-- Compilation depends on the described waveform only: two specs with the same repetition plan and
the same length of the unit that cover the same instants are compiled with one result, be it a
sequence or an error. So it does not matter how the pulses are written down. -/
theorem compile_congr (hdecl : ∀ e ∈ spec.events, e.channel.index < c.channels.size)
    (hdecl' : ∀ e ∈ spec'.events, e.channel.index < c.channels.size)
    (hrep : spec.repetitions = spec'.repetitions) (hint : spec.interval = spec'.interval) :
    (spec.unitLength = spec'.unitLength →
      (∀ ch t, (∃ e ∈ spec.events, e.channel = ch ∧ e.start ≤ t ∧ t < e.start + e.duration) ↔
        ∃ e ∈ spec'.events, e.channel = ch ∧ e.start ≤ t ∧ t < e.start + e.duration) →
      c.compileWithReport spec = c.compileWithReport spec' ∧ c.compile spec = c.compile spec') ∧
    (spec.minUnitLength = spec'.minUnitLength →
      Relation.EqvGen Redraws spec.events spec'.events →
      c.compileWithReport spec = c.compileWithReport spec' ∧ c.compile spec = c.compile spec') := by
  have hcongr : spec.unitLength = spec'.unitLength →
      (∀ ch t, spec.Covers ch t ↔ spec'.Covers ch t) →
      c.compileWithReport spec = c.compileWithReport spec' ∧ c.compile spec = c.compile spec' := by
    intro hunit hcov
    have htimeline := Timeline.ofSpec_congr (TimingSpec.undeclared?_eq_none_iff.mpr hdecl)
      (TimingSpec.undeclared?_eq_none_iff.mpr hdecl') hunit hcov
    have hreport := compileWithReport_congr htimeline hrep hint
    exact ⟨hreport, congrArg (CompileReport.sequence <$> ·) hreport⟩
  refine ⟨hcongr, fun hmin hdrawn => ?_⟩
  have hcov : ∀ ch t, spec.Covers ch t ↔ spec'.Covers ch t := fun ch t =>
    Redraws.covers_iff_of_eqvGen hdrawn
  exact hcongr (TimingSpec.unitLength_eq_of_covers hmin hcov) hcov

/-- A pulse in one piece, and in two pieces of which the later comes first. -/
theorem compile_congr_pieces : ∃ whole pieces : TimingSpec,
    whole.events = [⟨⟨0⟩, 0, 9⟩] ∧ pieces.events = [⟨⟨0⟩, 3, 6⟩, ⟨⟨0⟩, 0, 3⟩] ∧
      Relation.EqvGen Redraws whole.events pieces.events ∧
      compile ⟨.odmr, .default, true⟩ whole = compile ⟨.odmr, .default, true⟩ pieces := by
  let whole : TimingSpec := ⟨[⟨⟨0⟩, 0, 9⟩], 5, 2, 0, by decide, by decide⟩
  let pieces : TimingSpec := ⟨[⟨⟨0⟩, 3, 6⟩, ⟨⟨0⟩, 0, 3⟩], 5, 2, 0, by decide, by decide⟩
  have hsplit : Redraws whole.events [⟨⟨0⟩, 0, 3⟩, ⟨⟨0⟩, 3, 6⟩] := .split ⟨0⟩ 0 3 6 []
  have hswap : Redraws [⟨⟨0⟩, 0, 3⟩, ⟨⟨0⟩, 3, 6⟩] pieces.events := .reorder (.swap _ _ _)
  have hdrawn := Relation.EqvGen.trans _ _ _ (.rel _ _ hsplit) (.rel _ _ hswap)
  obtain ⟨-, hpieces⟩ := @compile_congr ⟨.odmr, .default, true⟩ whole pieces (by decide)
    (by decide) rfl rfl
  exact ⟨whole, pieces, rfl, rfl, hdrawn, (hpieces rfl hdrawn).2⟩

end Compiler

end PulseTrain
