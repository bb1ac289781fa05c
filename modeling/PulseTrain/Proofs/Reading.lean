import Mathlib.Data.List.Pairwise
import PulseTrain.Proofs.Waveform

/-!
# Reading timelines

A canonical timeline is read in two ways: the state at an instant is found by bisection, and the
breakpoints are listed. Both show the waveform that the timeline renders: the first its value at the
instant, the second where it changes.
-/

namespace PulseTrain.Timeline

/-! ## Bisection -/

/-- Just the spans before position `r` end at or before `t`. -/
def SplitsAt (spans : Array Span) (t r : Nat) : Prop :=
  ∀ i (h : i < spans.size), spans[i].stop ≤ t ↔ i < r

section Bisection

variable {spans : Array Span} {t base size : Nat}

/-- Each round keeps the position within the part that is left: what comes before this part ends at
or before `t`, and what comes after it ends later. -/
theorem splitsAt_endedFrom {nonempty : 0 < size} {inside : base + size ≤ spans.size}
    (hsorted : ∀ i j (h : i ≤ j) (hj : j < spans.size), spans[i].stop ≤ spans[j].stop)
    (hbefore : ∀ i (h : i < spans.size), i < base → spans[i].stop ≤ t)
    (hafter : ∀ i (h : i < spans.size), base + size ≤ i → t < spans[i].stop) :
    SplitsAt spans t (endedFrom spans t base size nonempty inside) := by
  fun_induction endedFrom spans t base size nonempty inside with
  | case1 base size nonempty inside many half hle ih =>
    apply ih hsorted
    · intro i h hi
      exact (hsorted i (base + half) (by omega) (by omega)).trans hle
    · intro i h hi
      exact hafter i h (by omega)
  | case2 base size nonempty inside many half hgt ih =>
    apply ih hsorted hbefore
    intro i h hi
    have hmiddle : t < spans[base + half].stop := not_le.mp hgt
    exact hmiddle.trans_le (hsorted (base + half) i (by omega) h)
  | case3 base size nonempty inside single hle =>
    intro i h
    constructor
    · intro hi
      by_contra hlate
      exact absurd hi (not_le.mpr (hafter i h (by omega)))
    · intro hi
      exact (hsorted i base (by omega) (by omega)).trans hle
  | case4 base size nonempty inside single hgt =>
    intro i h
    constructor
    · intro hi
      by_contra hlate
      exact hgt ((hsorted base i (by omega) h).trans hi)
    · exact hbefore i h

theorem splitsAt_ended
    (hsorted : ∀ i j (h : i ≤ j) (hj : j < spans.size), spans[i].stop ≤ spans[j].stop) :
    SplitsAt spans t (ended spans t) := by
  unfold ended
  split_ifs with hsome
  · apply splitsAt_endedFrom hsorted
    · intro i h hi
      exact absurd hi (Nat.not_lt_zero i)
    · intro i h hi
      omega
  · intro i h
    omega

end Bisection

variable {c n i b : Nat} {s : Span} {spans : List Span} {t : Timeline} {w : Waveform}

/-! ## The state at an instant -/

theorem TilesFrom.pairwise (h : TilesFrom c spans) :
    spans.Pairwise fun a b => a.stop ≤ b.start := by
  induction spans generalizing c with
  | nil => exact List.Pairwise.nil
  | cons s rest ih =>
    obtain ⟨-, -, -, hrest⟩ := h
    refine List.pairwise_cons.mpr ⟨?_, ih hrest⟩
    intro r hr
    exact (hrest.bounds hr).1

/-- Spans of a tiling are found in order of time. -/
theorem TilesFrom.stop_le_start (h : TilesFrom c spans) {j k : Nat} (hjk : j < k)
    (hk : k < spans.length) : spans[j].stop ≤ spans[k].start :=
  List.pairwise_iff_getElem.mp h.pairwise j k (hjk.trans hk) hk hjk

theorem TilesFrom.stop_mono (h : TilesFrom c spans) {j k : Nat} (hjk : j ≤ k)
    (hk : k < spans.length) : spans[j].stop ≤ spans[k].stop := by
  rcases hjk.eq_or_lt with rfl | hlt
  · exact le_rfl
  · have hstart := h.stop_le_start hlt hk
    have hpos := (h.bounds (List.getElem_mem hk)).2.1
    exact hstart.trans hpos.le

theorem Canonical.splitsAt_ended (h : t.Canonical) (i : Nat) :
    SplitsAt t.spans.toArray i (ended t.spans.toArray i) := by
  apply Timeline.splitsAt_ended
  intro j k hjk hk
  exact TilesFrom.stop_mono h hjk hk

/-- The span that contains an instant is found. -/
theorem Canonical.stateAt_of_contains (h : t.Canonical) (hs : s ∈ t.spans) (hi : s.Contains i) :
    t.stateAt i = some s.state := by
  obtain ⟨k, hk, rfl⟩ := List.getElem_of_mem hs
  obtain ⟨hstart, hstop⟩ := hi
  have hsplit := h.splitsAt_ended i
  have hle : ended t.spans.toArray i ≤ k := by
    by_contra hlt
    have hended := (hsplit k hk).mpr (not_le.mp hlt)
    exact absurd hended (not_le.mpr hstop)
  have hge : k ≤ ended t.spans.toArray i := by
    by_contra hlt
    have hbefore := TilesFrom.stop_le_start h (not_le.mp hlt) hk
    have hended := (hsplit _ (show _ < t.spans.length by omega)).mp (hbefore.trans hstart)
    exact lt_irrefl _ hended
  have hfound : ended t.spans.toArray i = k := le_antisymm hle hge
  unfold stateAt
  dsimp only
  rw [hfound]
  simp [hk]

/-- Nothing is found past the end. -/
theorem Canonical.stateAt_of_le (h : t.Canonical) (hi : t.length ≤ i) : t.stateAt i = none := by
  have hall : t.spans.length ≤ ended t.spans.toArray i := by
    by_contra hlt
    have hk := not_le.mp hlt
    have hstop := (TilesFrom.bounds h (List.getElem_mem hk)).2.2
    have hended := ((h.splitsAt_ended i) _ hk).mp (hstop.trans hi)
    exact lt_irrefl _ hended
  unfold stateAt
  simp [hall]

/-- A timeline is read as the waveform that it renders. -/
theorem Renders.stateAt_eq (h : t.Renders n w) (i : Nat) :
    t.stateAt i = if i < n then some (w i) else none := by
  have hend : endFrom 0 t.spans = n := h.length
  split_ifs with hi
  · obtain ⟨s, hs, hcontains⟩ := TilesFrom.exists_contains h.canonical (Nat.zero_le i) (hend ▸ hi)
    rw [h.canonical.stateAt_of_contains hs hcontains, h.shows s hs i hcontains]
  · apply h.canonical.stateAt_of_le
    rw [h.length]
    exact not_lt.mp hi

/-- The waveform that a timeline is read as, with all lines off past its end. -/
def waveform (t : Timeline) : Waveform := fun i => (t.stateAt i).getD .off

/-- Every canonical timeline renders the waveform that it is read as. -/
theorem Canonical.renders (h : t.Canonical) : t.Renders t.length t.waveform := by
  obtain ⟨w, hw⟩ := h.exists_renders
  refine hw.congr fun i hi => ?_
  unfold waveform
  rw [hw.stateAt_eq, if_pos hi]
  rfl

theorem Canonical.exists_span_of_isOn (h : t.Canonical) {c : ChannelId}
    (hon : (t.waveform i).isOn c = true) : ∃ s ∈ t.spans, s.state.isOn c = true := by
  rcases lt_or_ge i t.length with hi | hi
  · obtain ⟨s, hs, hcontains⟩ := TilesFrom.exists_contains h (Nat.zero_le i) hi
    refine ⟨s, hs, ?_⟩
    rw [← h.renders.shows s hs i hcontains]
    exact hon
  · unfold waveform at hon
    rw [h.stateAt_of_le hi] at hon
    simp at hon

/-! ## Breakpoints -/

theorem mem_breakpoints_of_pos (hb : 0 < b) : b ∈ t.breakpoints ↔ ∃ s ∈ t.spans, s.stop = b := by
  unfold breakpoints isEmpty
  cases hspans : t.spans with
  | nil => simp
  | cons s rest => simp [hb.ne', eq_comm]

/-- Inside a timeline the breakpoints are the instants at which the waveform changes. -/
theorem Renders.mem_breakpoints_iff (h : t.Renders n w) (hb : 0 < b) (hbn : b < n) :
    b ∈ t.breakpoints ↔ w (b - 1) ≠ w b := by
  have hend : endFrom 0 t.spans = n := h.length
  rw [mem_breakpoints_of_pos hb]
  constructor
  · rintro ⟨s, hs, rfl⟩
    rcases TilesFrom.stop_eq h.canonical hs with hlast | ⟨r, hr, hstart⟩
    · rw [hlast, hend] at hbn
      exact absurd hbn (lt_irrefl n)
    · rw [← hstart] at hb ⊢
      exact TilesFrom.ne_at_start h.canonical h.shows hr hb
  · intro hne
    obtain ⟨s, hs, hstart, hstop⟩ := TilesFrom.exists_contains h.canonical (Nat.zero_le (b - 1))
      (show b - 1 < endFrom 0 t.spans by rw [hend]; omega)
    refine ⟨s, hs, ?_⟩
    by_contra hother
    have hbefore : w (b - 1) = s.state := h.shows s hs _ ⟨hstart, hstop⟩
    have hat : w b = s.state := h.shows s hs _ ⟨by lia, by lia⟩
    exact hne (hbefore.trans hat.symm)

end PulseTrain.Timeline
