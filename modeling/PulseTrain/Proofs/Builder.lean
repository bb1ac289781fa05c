import PulseTrain.Proofs.Waveform
import PulseTrain.Timeline.Builder

/-!
# What builders build

A builder that renders a waveform up to its cursor goes on rendering it when it is extended by the
state that the waveform has from there on. The waveform is fixed beforehand, so that a loop over
extensions has one invariant: the timeline so far renders the waveform.
-/

namespace PulseTrain.TimelineBuilder

open Timeline

variable {b : TimelineBuilder} {m n d : Nat} {σ : ChannelState} {w : Waveform}

theorem cursor_eq_length (b : TimelineBuilder) : b.cursor = b.timeline.length := by
  simp [cursor, timeline, Timeline.length]

theorem cursor_of_renders (h : b.timeline.Renders n w) : b.cursor = n :=
  b.cursor_eq_length.trans h.length

theorem renders_empty (w : Waveform) : TimelineBuilder.empty.timeline.Renders 0 w :=
  Timeline.renders_empty w

theorem cursor_extendTo (h : b.cursor ≤ m) : (b.extendTo m σ).cursor = m := by
  unfold extendTo
  split_ifs with hm
  · exact le_antisymm h hm
  · split
    · rfl
    · split_ifs <;> rfl

/-- Extending a builder renders the waveform up to the new end, if the waveform has the given state
from the cursor up to there. -/
theorem extendTo_renders (h : b.timeline.Renders n w) (hσ : ∀ i, n ≤ i → i < m → w i = σ) :
    (b.extendTo m σ).timeline.Renders (max n m) w := by
  have hcur := cursor_of_renders h
  unfold extendTo
  split_ifs with hm
  · rw [max_eq_left (hcur ▸ hm)]
    exact h
  · rw [hcur, not_le] at hm
    rw [max_eq_right hm.le]
    obtain ⟨spans⟩ := b
    cases spans with
    | nil =>
      obtain rfl : 0 = n := h.length
      show (⟨[] ++ [⟨0, m, σ⟩]⟩ : Timeline).Renders m w
      rw [renders_concat]
      exact ⟨⟨tilesFrom_nil, rfl, hm, by simp⟩, rfl, by simp [Shows],
        fun i hi => hσ i hi.1 hi.2⟩
    | cons last earlier =>
      have hold : (⟨earlier.reverse ++ [last]⟩ : Timeline).Renders n w := by
        simpa only [timeline, List.reverse_cons] using h
      obtain ⟨htiles, hstop, hshow, hlast⟩ := renders_concat.mp hold
      simp only [timeline]
      split_ifs with hstate
      · -- The last span is lengthened, and the waveform stays in its state.
        obtain ⟨hearlier, hstart, hlt, hdiff⟩ := htiles
        rw [List.reverse_cons, renders_concat]
        refine ⟨⟨hearlier, hstart, hlt.trans (hstop.trans_lt hm), hdiff⟩, rfl, hshow,
          fun i hi => ?_⟩
        by_cases hbefore : i < n
        · exact hlast i ⟨hi.1, hbefore.trans_eq hstop.symm⟩
        · rw [hσ i (not_lt.mp hbefore) hi.2, hstate]
      · -- A new span begins at the cursor.
        rw [List.reverse_cons, List.reverse_cons, renders_concat]
        exact ⟨⟨tilesFrom_concat.mpr htiles, endFrom_concat.symm, hstop.trans_lt hm,
          by simpa using hstate⟩, rfl, shows_concat.mpr ⟨hshow, hlast⟩,
          fun i hi => hσ i (hstop ▸ hi.1) hi.2⟩

/-- Every waveform has a timeline of every length, which is built instant by instant. -/
theorem exists_renders (n : Nat) (w : Waveform) :
    ∃ b : TimelineBuilder, b.timeline.Renders n w := by
  induction n with
  | zero => exact ⟨empty, renders_empty w⟩
  | succ n ih =>
    obtain ⟨b, hb⟩ := ih
    have hinstant : ∀ i, n ≤ i → i < n + 1 → w i = w n := fun i hn hi =>
      congrArg w (Nat.le_antisymm (Nat.le_of_lt_succ hi) hn)
    have hnext := extendTo_renders hb hinstant
    rw [max_eq_right (Nat.le_succ n)] at hnext
    exact ⟨_, hnext⟩

/-- A push whose end fits in the counter is an extension. -/
theorem push_of_lt (h : b.cursor + d < Nanoseconds.limit) :
    b.push d σ = .ok (b.extendTo (b.cursor + d) σ) := by
  simp [push, Nanoseconds.add?, Nanoseconds.check?_of_lt h]

theorem push_of_le (h : Nanoseconds.limit ≤ b.cursor + d) :
    b.push d σ = .error (.overflow "timeline length") := by
  simp [push, Nanoseconds.add?, Nanoseconds.check?_eq_none_iff.mpr h]

/-- A push renders the waveform for as long as it lasts. -/
theorem push_renders (h : b.timeline.Renders n w) (hlt : n + d < Nanoseconds.limit)
    (hσ : ∀ i, n ≤ i → i < n + d → w i = σ) :
    ∃ b', b.push d σ = .ok b' ∧ b'.timeline.Renders (n + d) w := by
  have hcur := cursor_of_renders h
  refine ⟨b.extendTo (n + d) σ, ?_, ?_⟩
  · rw [push_of_lt (by rw [hcur]; exact hlt), hcur]
  · have := extendTo_renders h hσ
    rwa [max_eq_right (Nat.le_add_right n d)] at this

end PulseTrain.TimelineBuilder
