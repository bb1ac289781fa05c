import PulseTrain.Proofs.Grid
import PulseTrain.Proofs.Waveform
import PulseTrain.Timeline.Verified

/-!
# What verification accepts

Verification accepts a timeline iff it is canonical, has spans, holds each of them for a multiple of
the quantum and lasts as long as the plan says. A timeline of a waveform that changes only at ticks
is of this kind: a span can only start where the waveform changes.
-/

namespace PulseTrain

namespace Timeline

variable {q : Quantum} {c m n i : Nat} {s : Span} {spans : List Span} {t : Timeline} {w : Waveform}

/-! ## The grid -/

/-- All breakpoints are multiples of the quantum. -/
def OnGrid (q : Quantum) (t : Timeline) : Prop := ∀ s ∈ t.spans, q.ns ∣ s.start ∧ q.ns ∣ s.stop

/-- A waveform that is constant over each tick has its breakpoints at ticks. -/
theorem Renders.onGrid (ht : t.Renders n w) (hn : q.ns ∣ n)
    (hw : ∀ i < n, w (q.floor i) = w i) : t.OnGrid q := by
  have hend : endFrom 0 t.spans = n := ht.length
  have hstart : ∀ s ∈ t.spans, q.ns ∣ s.start := by
    intro s hs
    by_contra hdvd
    have hpos : 0 < s.start := Nat.pos_of_ne_zero fun hzero => hdvd (hzero ▸ Nat.dvd_zero _)
    obtain ⟨-, hlt, hstop⟩ := TilesFrom.bounds ht.canonical hs
    have hsn : s.start < n := hend ▸ hlt.trans_le hstop
    apply TilesFrom.ne_at_start ht.canonical ht.shows hs hpos
    calc w (s.start - 1) = w (q.floor (s.start - 1)) := (hw _ (by lia)).symm
      _ = w (q.floor s.start) := by rw [q.floor_pred hdvd]
      _ = w s.start := hw _ hsn
  intro s hs
  refine ⟨hstart s hs, ?_⟩
  rcases TilesFrom.stop_eq ht.canonical hs with hlast | ⟨r, hr, hnext⟩
  · rw [hlast, hend]
    exact hn
  · exact hnext ▸ hstart r hr

theorem OnGrid.dvd_duration (h : t.OnGrid q) (hs : s ∈ t.spans) : q.ns ∣ s.duration :=
  Nat.dvd_sub (h s hs).2 (h s hs).1

/-! ## The verdict -/

/-- The spans pass iff they tile an interval and each lasts a multiple of the quantum. -/
theorem checkSpans_eq_ok_iff {previous : Option ChannelState} :
    checkSpans q i c previous spans = .ok m ↔
      TilesFrom c spans ∧ (∀ s ∈ spans, q.ns ∣ s.duration) ∧
        (∀ s ∈ spans.head?, previous ≠ some s.state) ∧ endFrom c spans = m := by
  induction spans generalizing i c previous with
  | nil => simp [checkSpans]
  | cons s rest ih =>
    unfold checkSpans
    rw [tilesFrom_cons, List.forall_mem_cons, endFrom_cons]
    by_cases hstart : s.start = c
    · by_cases hempty : s.duration = 0
      · have hlt : ¬ s.start < s.stop := by
          unfold Span.duration at hempty
          lia
        simp [hstart, hempty, hstart ▸ hlt]
      · have hlt : s.start < s.stop := by
          unfold Span.duration at hempty
          lia
        by_cases hdvd : q.ns ∣ s.duration
        · by_cases hprev : previous = some s.state
          · simp [hstart, hempty, q.isAligned_iff.mpr hdvd, hprev]
          · have hpass : (!q.isAligned s.duration) = false := by
              rw [q.isAligned_iff.mpr hdvd]
              rfl
            rw [if_neg (not_not.mpr hstart), if_neg hempty, hpass, if_neg Bool.false_ne_true,
              if_neg hprev, ih]
            simp only [List.head?_cons, Option.mem_some_iff, forall_eq', ne_eq,
              Option.some_inj, eq_comm (a := s.state)]
            tauto
        · have hfalse : q.isAligned s.duration = false := by
            rw [Bool.eq_false_iff, Ne, q.isAligned_iff]
            exact hdvd
          simp [hstart, hempty, hfalse, hdvd]
    · simp [hstart]

/-- What verification looks for: the timeline tiles an interval in steps of the quantum, and it
lasts as long as the plan says, if the plan says so. -/
structure Playable (q : Quantum) (repetitions : Nat) (unit : Option Nat) (gap : Nat)
    (t : Timeline) : Prop where
  /-- There is something to play. -/
  nonempty : t.spans ≠ []
  /-- The spans tile an interval from zero, and neighbours differ. -/
  canonical : t.Canonical
  /-- Each span lasts a multiple of the quantum. -/
  aligned : ∀ s ∈ t.spans, q.ns ∣ s.duration
  /-- The whole lasts as long as the repetitions of the unit. -/
  total : ∀ n ∈ unit, repeatedLength (max repetitions 1) n gap = t.length

/-- The spans of a playable timeline pass, and those of no other timeline but for its length. -/
theorem checkSpans_zero_iff : checkSpans q 0 0 none t.spans = .ok m ↔
    t.Canonical ∧ (∀ s ∈ t.spans, q.ns ∣ s.duration) ∧ t.length = m := by
  rw [checkSpans_eq_ok_iff]
  simp [Canonical, length_eq_endFrom]

/-- Verification accepts a timeline iff it is playable. The length that the plan asks for is checked
against the counter on the way, which makes no difference to a timeline that fits in it. -/
theorem verify_eq_ok_iff (hfits : t.length < Nanoseconds.limit) {quantum : Option Quantum}
    {repetitions gap : Nat} {unit : Option Nat} {v : Verification} :
    t.verify quantum repetitions unit gap = .ok v ↔
      ∃ q, quantum = some q ∧ t.Playable q repetitions unit gap ∧ v = ⟨true, t.size, t.length⟩ := by
  unfold verify
  cases quantum with
  | none => simp [throw, throwThe, MonadExceptOf.throw]
  | some q =>
    simp only [Option.some_inj, exists_eq_left']
    by_cases hempty : t.spans = []
    · have hnot : ¬ t.Playable q repetitions unit gap := fun h => h.nonempty hempty
      simp [isEmpty, hempty, hnot, throw, throwThe, MonadExceptOf.throw, bind, Except.bind]
    · have hsome : t.isEmpty = false := by simp [isEmpty, hempty]
      rw [hsome, if_neg Bool.false_ne_true]
      cases hcheck : checkSpans q 0 0 none t.spans with
      | error flaw =>
        constructor
        · intro h
          exact absurd h (by simp [bind, Except.bind])
        · rintro ⟨hplay, -⟩
          rw [checkSpans_zero_iff.mpr ⟨hplay.canonical, hplay.aligned, rfl⟩] at hcheck
          exact absurd hcheck (by simp)
      | ok total =>
        obtain ⟨hcan, hdvd, rfl⟩ := checkSpans_zero_iff.mp hcheck
        have hplay : t.Playable q repetitions unit gap ↔
            ∀ n ∈ unit, repeatedLength (max repetitions 1) n gap = t.length :=
          ⟨Playable.total, fun htotal => ⟨hempty, hcan, hdvd, htotal⟩⟩
        rw [hplay]
        cases unit with
        | none =>
          show Except.ok _ = Except.ok v ↔ _
          simp [eq_comm]
        | some n =>
          show (if _ then _ else _) = _ ↔ _
          by_cases hn : repeatedLength (max repetitions 1) n gap = t.length
          · rw [if_neg (not_not.mpr ((repeatedLength?_eq_some_iff hfits).mpr hn))]
            show Except.ok _ = Except.ok v ↔ _
            simp [hn, eq_comm]
          · rw [if_pos (mt (repeatedLength?_eq_some_iff hfits).mp hn)]
            simp [hn, throw, throwThe, MonadExceptOf.throw, bind, Except.bind]

end Timeline

end PulseTrain
