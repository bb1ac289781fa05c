import Mathlib.Order.MinMax
import PulseTrain.Channel.State
import PulseTrain.Proofs.Waveform
import PulseTrain.Pulse.TimingSpec

/-!
# What a spec describes

A spec describes a waveform: at each instant the lines are on of which some pulse covers the
instant. Pulses without duration cover nothing, and no pulse reaches beyond the length of the unit.
-/

namespace PulseTrain

namespace TimingSpec

/-- The waveform that a spec describes: at each instant, the lines of the pulses that cover it. -/
def waveform (s : TimingSpec) : Waveform := fun t =>
  .ofChannels ((s.events.filter fun e => decide (e.Covers e.channel t)).map PulseEvent.channel)

theorem isOn_waveform {s : TimingSpec} (hs : ∀ e ∈ s.events, e.channel.index < 64) (c : ChannelId)
    (t : Nat) : (s.waveform t).isOn c = true ↔ s.Covers c t := by
  unfold waveform
  rw [ChannelState.isOn_ofChannels]
  · constructor
    · intro h
      obtain ⟨e, he, rfl⟩ := List.mem_map.mp h
      obtain ⟨he, hcov⟩ := List.mem_filter.mp he
      exact ⟨e, he, of_decide_eq_true hcov⟩
    · rintro ⟨e, he, rfl, hcov⟩
      exact List.mem_map.mpr ⟨e, List.mem_filter.mpr ⟨he, decide_eq_true ⟨rfl, hcov⟩⟩, rfl⟩
  · intro c hc
    obtain ⟨e, he, rfl⟩ := List.mem_map.mp hc
    exact hs e (List.mem_filter.mp he).1

/-- A pulse that covers an instant has a duration. -/
theorem covers_iff_active {s : TimingSpec} {c : ChannelId} {t : Nat} :
    s.Covers c t ↔ ∃ e ∈ s.activeEvents, e.Covers c t := by
  constructor
  · rintro ⟨e, he, hcov⟩
    refine ⟨e, List.mem_filter.mpr ⟨he, ?_⟩, hcov⟩
    obtain ⟨-, hle, hlt⟩ := hcov
    unfold PulseEvent.stop at hlt
    have hpos : e.duration ≠ 0 := by lia
    simp [PulseEvent.isEmpty, hpos]
  · rintro ⟨e, he, hcov⟩
    exact ⟨e, (List.mem_filter.mp he).1, hcov⟩

theorem start_lt_stop_of_mem {s : TimingSpec} {e : PulseEvent} (he : e ∈ s.activeEvents) :
    e.start < e.stop := by
  have hpos : e.duration ≠ 0 := by simpa [PulseEvent.isEmpty] using (List.mem_filter.mp he).2
  unfold PulseEvent.stop
  lia

/-- Some pulse has a duration iff some line is on at some time. -/
theorem activeEvents_ne_nil_iff_covers {s : TimingSpec} :
    s.activeEvents ≠ [] ↔ ∃ c t, s.Covers c t := by
  constructor
  · intro hne
    obtain ⟨e, he⟩ := List.exists_mem_of_ne_nil _ hne
    have hlt : e.start < e.stop := start_lt_stop_of_mem he
    exact ⟨e.channel, e.start, covers_iff_active.mpr ⟨e, he, rfl, le_rfl, hlt⟩⟩
  · rintro ⟨c, t, hcov⟩ hnil
    obtain ⟨e, he, -⟩ := covers_iff_active.mp hcov
    rw [hnil] at he
    exact absurd he List.not_mem_nil

/-! ## The length of the unit -/

theorem foldl_max_le_iff {es : List PulseEvent} {m n : Nat} :
    es.foldl (fun t e => max t e.stop) m ≤ n ↔ m ≤ n ∧ ∀ e ∈ es, e.stop ≤ n := by
  induction es generalizing m with
  | nil => simp
  | cons e es ih =>
    rw [List.foldl_cons, ih, max_le_iff, List.forall_mem_cons, and_assoc]

/-- The length of the unit is the least that holds the minimum and every pulse with a duration. -/
theorem unitLength_le_iff {s : TimingSpec} {n : Nat} :
    s.unitLength ≤ n ↔ s.minUnitLength ≤ n ∧ ∀ e ∈ s.activeEvents, e.stop ≤ n :=
  foldl_max_le_iff

theorem minUnitLength_le_unitLength {s : TimingSpec} : s.minUnitLength ≤ s.unitLength :=
  (unitLength_le_iff.mp le_rfl).1

theorem stop_le_unitLength {s : TimingSpec} {e : PulseEvent} (he : e ∈ s.activeEvents) :
    e.stop ≤ s.unitLength :=
  (unitLength_le_iff.mp le_rfl).2 e he

theorem lt_unitLength_of_covers {s : TimingSpec} {c : ChannelId} {t : Nat} (h : s.Covers c t) :
    t < s.unitLength := by
  obtain ⟨e, he, -, -, hlt⟩ := covers_iff_active.mp h
  exact hlt.trans_le (stop_le_unitLength he)

theorem unitLength_pos {s : TimingSpec} (h : s.activeEvents ≠ []) : 0 < s.unitLength := by
  obtain ⟨e, he⟩ := List.exists_mem_of_ne_nil _ h
  exact (Nat.zero_le _).trans_lt ((start_lt_stop_of_mem he).trans_le (stop_le_unitLength he))

end TimingSpec

end PulseTrain
