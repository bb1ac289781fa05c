import PulseTrain.Proofs.Invariants

/-!
# Sample and hold

Quantization moves the two ends of each span by themselves and drops the spans whose ends meet. Seen
as a whole, the pass samples the timeline at the ticks and holds each sample for a tick, and the
spans that it drops are those that no tick lies in.
-/

namespace PulseTrain

namespace Span

variable {s : Span} {q : Quantum}

/-- Some tick lies within the span. -/
def MeetsTick (s : Span) (q : Quantum) : Prop := ∃ i, q.ns ∣ i ∧ s.Contains i

theorem meetsTick_iff : s.MeetsTick q ↔ q.ceil s.start < s.stop := by
  constructor
  · rintro ⟨i, hdvd, hstart, hstop⟩
    have hle : q.ceil s.start ≤ i := (q.isLeast_ceil s.start).2 ⟨hdvd, hstart⟩
    exact hle.trans_lt hstop
  · intro h
    exact ⟨q.ceil s.start, q.dvd_ceil _, q.le_ceil _, h⟩

instance (s : Span) (q : Quantum) : Decidable (s.MeetsTick q) :=
  decidable_of_iff _ meetsTick_iff.symm

/-- The two ends of a span move to one tick iff no tick lies within the span. -/
theorem ceil_stop_eq_iff (h : s.start ≤ s.stop) :
    q.ceil s.stop = q.ceil s.start ↔ ¬ s.MeetsTick q := by
  rw [meetsTick_iff, not_lt]
  constructor
  · intro heq
    exact heq ▸ q.le_ceil s.stop
  · intro hle
    have hback : q.ceil s.stop ≤ q.ceil s.start := (q.isLeast_ceil s.stop).2 ⟨q.dvd_ceil _, hle⟩
    exact le_antisymm hback (q.ceil_mono h)

end Span

namespace CollapsedSpans

variable {q : Quantum} {c : CollapsedSpans} {s : Span} {spans : List Span}

theorem note_of_meetsTick (hs : s.start ≤ s.stop) (h : s.MeetsTick q) : c.note q s = c := by
  unfold note
  rw [if_neg fun heq => (Span.ceil_stop_eq_iff hs).mp heq h]

theorem note_of_not_meetsTick (hs : s.start ≤ s.stop) (h : ¬ s.MeetsTick q) :
    c.note q s = c.add s.state := by
  unfold note
  rw [if_pos ((Span.ceil_stop_eq_iff hs).mpr h)]

/-- The spans that disappear are those that no tick lies in. -/
theorem foldl_note (hspans : ∀ s ∈ spans, s.start ≤ s.stop) : spans.foldl (note q) c =
    ⟨c.count + spans.countP (fun s => ¬ s.MeetsTick q),
      c.withActiveChannels +
        spans.countP (fun s => ¬ s.MeetsTick q ∧ s.state ≠ ChannelState.off)⟩ := by
  induction spans generalizing c with
  | nil => rfl
  | cons s rest ih =>
    obtain ⟨hs, hrest⟩ := List.forall_mem_cons.mp hspans
    rw [List.foldl_cons, ih hrest, List.countP_cons, List.countP_cons]
    by_cases hmeets : s.MeetsTick q
    · rw [note_of_meetsTick hs hmeets]
      simp [hmeets]
    · rw [note_of_not_meetsTick hs hmeets]
      have hone : ∀ a n : Nat, a + 1 + n = a + (n + 1) := by omega
      by_cases hoff : s.state = .off
      · simp [add, ChannelState.isOff, hmeets, hoff, hone]
      · simp [add, ChannelState.isOff, hmeets, hoff, hone]

end CollapsedSpans

variable {K : NoteKinds}

namespace Workpiece

variable {w : Workpiece K} {q : Quantum}

/-- Quantization succeeds iff the length of the unit, rounded up to the grid, fits in the counter.
The timeline then shows over each tick what it showed at the beginning of the tick. Noted are the
length and the spans that lie between two ticks, and nothing else changes. -/
theorem quantize_samples (hq : w.properties.quantum = some q) (hcan : w.timeline.Canonical)
    (hne : w.timeline.spans ≠ []) :
    let t := w.timeline
    let unit := q.ceil t.length
    (Nanoseconds.limit ≤ unit →
      ∃ quantity, Pass.quantize.perform w = (.error (.overflow quantity), w)) ∧
    (unit < Nanoseconds.limit → ∃ left, Pass.quantize.perform w = (.ok (), left) ∧
      left.timeline.Canonical ∧ left.timeline.length = unit ∧
      (∀ b ∈ left.timeline.breakpoints, q.ns ∣ b) ∧
      (∀ i < unit, left.timeline.stateAt i = t.stateAt (q.floor i)) ∧
      left.properties = { w.properties with unitLength := some unit }.withNote .collapsed
        ⟨t.spans.countP fun s : Span => ¬ s.MeetsTick q,
          t.spans.countP fun s : Span => ¬ s.MeetsTick q ∧ s.state ≠ ChannelState.off⟩) := by
  intro t unit
  constructor
  · intro hle
    obtain ⟨quantity, herror⟩ := Timeline.quantized_of_le hcan hle
    exact ⟨quantity, performs_quantize.perform_of_error (quantized_of_error hq herror)⟩
  · intro hlt
    have hpos : 0 < t.length := hcan.length_pos hne
    obtain ⟨u, hok, hu⟩ := Timeline.quantized_renders hcan.renders hpos hlt
    have hgrid : u.OnGrid q := (Timeline.onGrid_of_quantized hcan hok).2
    have hperform := performs_quantize.perform_of_ok (quantized_of_ok hq hok)
    refine ⟨_, hperform, hu.canonical, hu.length, fun b hb => hgrid.dvd_breakpoint hb, ?_, ?_⟩
    · -- Below the new end a tick begins before the old one, so there is something to sample.
      intro i hi
      have hfloor : q.floor i < t.length := q.lt_ceil_iff.mp hi
      show u.stateAt i = t.stateAt (q.floor i)
      rw [hu.stateAt_eq, if_pos hi, hcan.renders.stateAt_eq, if_pos hfloor]
      rfl
    · have hspans : ∀ s ∈ t.spans, s.start ≤ s.stop := fun s hs =>
        (Timeline.TilesFrom.bounds hcan hs).2.1.le
      rw [hu.length, CollapsedSpans.foldl_note hspans]
      simp [CollapsedSpans.none, t, unit]

/-- The second and the third span lie between the ticks 8 and 16. -/
def jittery : Workpiece .none where
  timeline := ⟨[⟨0, 9, ⟨1⟩⟩, ⟨9, 12, ⟨2⟩⟩, ⟨12, 14, .off⟩, ⟨14, 40, ⟨4⟩⟩]⟩
  properties := Properties.initial.withQuantum .default

/-- Of the two spans that disappear, one had a line on. -/
theorem quantize_samples_jittery : ∃ left, Pass.quantize.perform jittery = (.ok (), left) ∧
    left.timeline.length = 40 ∧ left.timeline.stateAt 15 = some ⟨1⟩ ∧
    left.timeline.stateAt 16 = some ⟨4⟩ ∧
    left.properties.notes.get? .collapsed = some ⟨2, 1⟩ := by
  have hcan : jittery.timeline.Canonical := by decide
  obtain ⟨left, hperform, -, hlength, -, hstate, hproperties⟩ :=
    (quantize_samples (q := .default) rfl hcan (by decide)).2 (by decide)
  refine ⟨left, hperform, hlength, ?_, ?_, ?_⟩
  · rw [hstate 15 (by decide)]
    exact hcan.stateAt_of_contains (s := ⟨0, 9, ⟨1⟩⟩) (by decide) (by decide)
  · rw [hstate 16 (by decide)]
    exact hcan.stateAt_of_contains (s := ⟨14, 40, ⟨4⟩⟩) (by decide) (by decide)
  · rw [hproperties]
    rfl

end Workpiece

end PulseTrain
