import PulseTrain.Proofs.Compiled

/-!
# When compilation fails

Which of the four outcomes a compilation has can be read off the spec, and the verification of the
result makes no difference.
-/

namespace PulseTrain

namespace TimingSpec

variable {s : TimingSpec} {q : Quantum} {channels : ChannelSet}

/-- The search for an undeclared line stops at the first pulse on one. -/
theorem undeclared?_eq_some {before after : List PulseEvent} {e : PulseEvent}
    (hs : s.events = before ++ e :: after)
    (hbefore : ∀ d ∈ before, d.channel.index < channels.size)
    (he : channels.size ≤ e.channel.index) : s.undeclared? channels = some e := by
  unfold undeclared?
  rw [List.find?_eq_some_iff_append]
  refine ⟨?_, before, after, hs, fun d hd => ?_⟩
  · simpa [ChannelStore.contains, ChannelStore.size] using he
  · simpa [ChannelStore.contains, ChannelStore.size] using hbefore d hd

theorem undeclared?_eq_none_iff : s.undeclared? channels = none ↔
    ∀ e ∈ s.events, e.channel.index < channels.size := by
  unfold undeclared?
  rw [List.find?_eq_none]
  simp [ChannelStore.contains, ChannelStore.size]

theorem activeEvents_eq_nil_iff : s.activeEvents = [] ↔ ∀ e ∈ s.events, e.duration = 0 := by
  simp [activeEvents, PulseEvent.isEmpty]

theorem activeEvents_ne_nil_iff : s.activeEvents ≠ [] ↔ ∃ e ∈ s.events, 0 < e.duration := by
  rw [Ne, activeEvents_eq_nil_iff]
  simp [Nat.pos_iff_ne_zero]

/-- With more than one repetition the gap is the aligned interval. -/
theorem overflows_iff : s.Overflows q ↔
    Nanoseconds.limit ≤ q.ceil s.unitLength ∨
      2 ≤ s.repetitions ∧ (Nanoseconds.limit ≤ q.ceil s.interval ∨
        Nanoseconds.limit ≤
          s.repetitions * q.ceil s.unitLength + (s.repetitions - 1) * q.ceil s.interval) := by
  unfold Overflows playedLength repeatedLength alignedUnit alignedGap
  by_cases htwo : 2 ≤ s.repetitions
  · simp [htwo]
  · simp [htwo]

end TimingSpec

namespace Compiler

variable {c : Compiler} {spec : TimingSpec}

/-- Every compilation that gets to the passes succeeds, with some sequence, or overflows. -/
theorem compile_cases (hdecl : spec.undeclared? c.channels = none) (hne : spec.activeEvents ≠ []) :
    (spec.Overflows c.quantum ∧ ∃ quantity, c.compile spec = .error (.overflow quantity)) ∨
      (¬ spec.Overflows c.quantum ∧ ∃ s, c.compile spec = .ok s) := by
  by_cases hover : spec.Overflows c.quantum
  · obtain ⟨quantity, herror⟩ := compileWithReport_of_overflows hdecl hne hover
    exact .inl ⟨hover, quantity, compile_eq_error_iff.mpr (herror c.verified)⟩
  · obtain ⟨unit, t, -, -, hok⟩ := compileWithReport_of_fits hdecl hne hover
    exact .inr ⟨hover, _, compile_eq_ok_iff.mpr ⟨_, hok c.verified, rfl⟩⟩

/-- Verification never changes a result: it has no fault to find. -/
theorem compile_verified (c : Compiler) (spec : TimingSpec) (b : Bool) :
    { c with verified := b }.compile spec = c.compile spec := by
  unfold compile
  congr 1
  cases hdecl : spec.undeclared? c.channels with
  | some e =>
    rw [compileWithReport_of_undeclared hdecl]
    exact compileWithReport_of_undeclared hdecl
  | none =>
    by_cases hne : spec.activeEvents = []
    · rw [compileWithReport_of_inactive hdecl hne]
      exact compileWithReport_of_inactive hdecl hne
    · by_cases hover : spec.Overflows c.quantum
      · obtain ⟨quantity, herror⟩ := compileWithReport_of_overflows hdecl hne hover
        rw [herror b]
        exact (herror c.verified).symm
      · obtain ⟨unit, t, -, -, hok⟩ := compileWithReport_of_fits hdecl hne hover
        rw [hok b]
        exact (hok c.verified).symm

/-- The outcome of a compilation. The first pulse on a line that is not declared is named, be it
without duration or not; then some pulse has to have a duration; then the lengths have to fit in the
counter; and nothing else is asked for. The interval matters only if there is more than one
repetition. -/
theorem compile_outcome (c : Compiler) (spec : TimingSpec) :
    (∀ before e after, spec.events = before ++ e :: after →
      (∀ d ∈ before, d.channel.index < c.channels.size) → c.channels.size ≤ e.channel.index →
        c.compile spec = .error (.unknownChannel e.channel.label)) ∧
    ((∀ e ∈ spec.events, e.channel.index < c.channels.size) →
      ((∀ e ∈ spec.events, e.duration = 0) → c.compile spec = .error .emptyTimingSpec) ∧
      ((∃ e ∈ spec.events, 0 < e.duration) →
        let unit := c.quantum.ceil spec.unitLength
        let gap := c.quantum.ceil spec.interval
        let overflows := Nanoseconds.limit ≤ unit ∨ 2 ≤ spec.repetitions ∧
          (Nanoseconds.limit ≤ gap ∨
            Nanoseconds.limit ≤ spec.repetitions * unit + (spec.repetitions - 1) * gap)
        ((∃ quantity, c.compile spec = .error (.overflow quantity)) ↔ overflows) ∧
        ((∃ s, c.compile spec = .ok s) ↔ ¬ overflows))) ∧
    (∀ error, c.compile spec = .error error →
      (∃ e ∈ spec.events, error = .unknownChannel e.channel.label) ∨ error = .emptyTimingSpec ∨
        ∃ quantity, error = .overflow quantity) ∧
    ∀ b, { c with verified := b }.compile spec = c.compile spec := by
  refine ⟨?_, ?_, ?_, compile_verified c spec⟩
  · intro before e after hs hbefore he
    exact compile_eq_error_iff.mpr
      (compileWithReport_of_undeclared (TimingSpec.undeclared?_eq_some hs hbefore he))
  · intro hall
    have hdecl := TimingSpec.undeclared?_eq_none_iff.mpr hall
    refine ⟨fun hzero => ?_, fun hpos => ?_⟩
    · exact compile_eq_error_iff.mpr
        (compileWithReport_of_inactive hdecl (TimingSpec.activeEvents_eq_nil_iff.mpr hzero))
    · intro unit gap overflows
      have hover : overflows ↔ spec.Overflows c.quantum := TimingSpec.overflows_iff.symm
      rw [hover]
      rcases compile_cases hdecl (TimingSpec.activeEvents_ne_nil_iff.mpr hpos) with
        ⟨hyes, quantity, herror⟩ | ⟨hno, s, hok⟩
      · simp [herror, hyes]
      · simp [hok, hno]
  · intro error h
    cases hdecl : spec.undeclared? c.channels with
    | some e =>
      have hun := compile_eq_error_iff.mpr (compileWithReport_of_undeclared hdecl)
      exact .inl ⟨e, List.mem_of_find?_eq_some hdecl, Except.error.inj (h.symm.trans hun)⟩
    | none =>
      by_cases hne : spec.activeEvents = []
      · have hin := compile_eq_error_iff.mpr (compileWithReport_of_inactive hdecl hne)
        exact .inr (.inl (Except.error.inj (h.symm.trans hin)))
      · rcases compile_cases hdecl hne with ⟨-, quantity, herror⟩ | ⟨-, s, hok⟩
        · exact .inr (.inr ⟨quantity, Except.error.inj (h.symm.trans herror)⟩)
        · exact absurd (h.symm.trans hok) (by simp)

end Compiler

end PulseTrain
