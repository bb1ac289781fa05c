import PulseTrain.Proofs.Builder
import PulseTrain.Proofs.Grid
import PulseTrain.Timeline.Quantized

/-!
# Quantization samples and holds

A timeline that renders a waveform is quantized to one that renders the waveform as it was sampled
at the beginning of each tick. The length is rounded up, and whether it fits in the counter decides
whether quantization succeeds: no breakpoint comes after the end.
-/

namespace PulseTrain

namespace Quantum

variable {q : Quantum} {t : Nat}

theorem tick_of_lt (h : q.ceil t < Nanoseconds.limit) : q.tick t = .ok (q.ceil t) := by
  unfold tick
  rw [q.alignUp_eq, Nanoseconds.check?_of_lt h]

theorem tick_of_le (h : Nanoseconds.limit ≤ q.ceil t) :
    ∃ quantity, q.tick t = .error (.overflow quantity) := by
  unfold tick
  rw [q.alignUp_eq, Nanoseconds.check?_eq_none_iff.mpr h]
  exact ⟨_, rfl⟩

end Quantum

namespace CollapsedSpans

/-- Counts a span if its two ends move to the same tick. -/
def note (q : Quantum) (c : CollapsedSpans) (s : Span) : CollapsedSpans :=
  if q.ceil s.stop = q.ceil s.start then c.add s.state else c

end CollapsedSpans

namespace Waveform

/-- A waveform as it is sampled at the beginning of each tick. -/
def sampled (w : Waveform) (q : Quantum) : Waveform := fun t => w (q.floor t)

/-- What has been sampled is constant over each tick. -/
theorem sampled_floor (w : Waveform) (q : Quantum) (t : Nat) :
    w.sampled q (q.floor t) = w.sampled q t := by
  simp [sampled]

end Waveform

namespace Timeline

variable {q : Quantum} {b : TimelineBuilder} {c : CollapsedSpans} {s : Span} {spans : List Span}
  {n p : Nat} {w : Waveform}

/-! ## One span -/

/-- A span that does not disappear extends the timeline to its last tick. So does one that
disappears, as the timeline has come that far already. -/
theorem appendQuantized_of_lt (hcur : b.cursor = q.ceil s.start) (hle : s.start ≤ s.stop)
    (hlt : q.ceil s.stop < Nanoseconds.limit) :
    appendQuantized q (b, c) s = .ok (b.extendTo (q.ceil s.stop) s.state, c.note q s) := by
  have hmono := q.ceil_mono hle
  unfold appendQuantized CollapsedSpans.note
  rw [Quantum.tick_of_lt (hmono.trans_lt hlt), Quantum.tick_of_lt hlt]
  by_cases heq : q.ceil s.stop = q.ceil s.start
  · have hsame : b.extendTo (q.ceil s.start) s.state = b := by
      unfold TimelineBuilder.extendTo
      rw [if_pos hcur.ge]
    rw [heq, hsame, if_pos rfl]
    show (if _ then _ else _) = _
    rw [if_pos rfl]
    rfl
  · rw [if_neg heq]
    show (if _ then _ else _) = _
    rw [if_neg heq]
    rfl

theorem appendQuantized_of_le (hstart : q.ceil s.start < Nanoseconds.limit)
    (hle : Nanoseconds.limit ≤ q.ceil s.stop) :
    ∃ quantity, appendQuantized q (b, c) s = .error (.overflow quantity) := by
  obtain ⟨quantity, hstop⟩ := Quantum.tick_of_le hle
  refine ⟨quantity, ?_⟩
  unfold appendQuantized
  rw [Quantum.tick_of_lt hstart, hstop]
  rfl

/-- At the ticks of a span the waveform is in the state of the span. -/
theorem sampled_eq (hs : ∀ i, s.Contains i → w i = s.state) {i : Nat} (h1 : q.ceil s.start ≤ i)
    (h2 : i < q.ceil s.stop) : w.sampled q i = s.state :=
  hs (q.floor i) ⟨q.ceil_le_iff.mp h1, q.lt_ceil_iff.mp h2⟩

/-! ## All spans -/

/-- The loop keeps the timeline rendering the sampled waveform, up to the tick that it has
reached. -/
theorem foldlM_appendQuantized (htile : TilesFrom p spans) (hshow : Shows w spans)
    (hb : b.timeline.Renders (q.ceil p) (w.sampled q))
    (hlt : q.ceil (endFrom p spans) < Nanoseconds.limit) :
    ∃ b', spans.foldlM (appendQuantized q) (b, c) =
        .ok (b', spans.foldl (CollapsedSpans.note q) c) ∧
      b'.timeline.Renders (q.ceil (endFrom p spans)) (w.sampled q) := by
  induction spans generalizing p b c with
  | nil => exact ⟨b, rfl, hb⟩
  | cons s rest ih =>
    obtain ⟨rfl, hpos, -, hrest⟩ := htile
    rw [endFrom_cons] at hlt ⊢
    have hstop : q.ceil s.stop < Nanoseconds.limit := (q.ceil_mono hrest.le_endFrom).trans_lt hlt
    have hext := TimelineBuilder.extendTo_renders hb fun i h1 h2 => sampled_eq hshow.head h1 h2
    rw [max_eq_right (q.ceil_mono hpos.le)] at hext
    obtain ⟨b', hfold, hb'⟩ := ih (c := c.note q s) hrest hshow.tail hext hlt
    refine ⟨b', ?_, hb'⟩
    rw [List.foldlM_cons,
      appendQuantized_of_lt (TimelineBuilder.cursor_of_renders hb) hpos.le hstop]
    exact hfold

/-- The loop fails at the first breakpoint whose tick does not fit in the counter, and there is one
if the tick of the end does not fit. -/
theorem foldlM_appendQuantized_of_le (htile : TilesFrom p spans) (hcur : b.cursor = q.ceil p)
    (hp : q.ceil p < Nanoseconds.limit) (hle : Nanoseconds.limit ≤ q.ceil (endFrom p spans)) :
    ∃ quantity, spans.foldlM (appendQuantized q) (b, c) = .error (.overflow quantity) := by
  induction spans generalizing p b c with
  | nil => exact absurd hle (not_le.mpr hp)
  | cons s rest ih =>
    obtain ⟨rfl, hpos, -, hrest⟩ := htile
    rw [endFrom_cons] at hle
    rw [List.foldlM_cons]
    rcases lt_or_ge (q.ceil s.stop) Nanoseconds.limit with hstop | hstop
    · rw [appendQuantized_of_lt hcur hpos.le hstop]
      exact ih hrest (TimelineBuilder.cursor_extendTo (hcur ▸ q.ceil_mono hpos.le)) hstop hle
    · obtain ⟨quantity, herr⟩ := appendQuantized_of_le (b := b) (c := c) hp hstop
      exact ⟨quantity, by rw [herr]; rfl⟩

/-- Quantization samples the waveform at the beginning of each tick and rounds the length up. -/
theorem quantized_renders {t : Timeline} (ht : t.Renders n w) (hn : 0 < n)
    (hlt : q.ceil n < Nanoseconds.limit) :
    ∃ u, t.quantized q = .ok (u, t.spans.foldl (CollapsedSpans.note q) .none) ∧
      u.Renders (q.ceil n) (w.sampled q) := by
  have hend : endFrom 0 t.spans = n := ht.length
  have hempty : TimelineBuilder.empty.timeline.Renders (q.ceil 0) (w.sampled q) := by
    rw [q.ceil_zero]
    exact TimelineBuilder.renders_empty _
  obtain ⟨b, hfold, hb⟩ := foldlM_appendQuantized (c := .none) ht.canonical ht.shows hempty
    (by rw [hend]; exact hlt)
  rw [hend] at hb
  refine ⟨b.timeline, ?_, hb⟩
  have hpos : b.timeline.length ≠ 0 := by
    rw [hb.length]
    exact (q.ceil_pos hn).ne'
  unfold quantized
  rw [hfold]
  show (if _ then _ else _) = _
  rw [if_neg hpos]
  rfl

/-- Quantization fails if the rounded length does not fit in the counter. -/
theorem quantized_of_le {t : Timeline} (ht : t.Canonical)
    (hle : Nanoseconds.limit ≤ q.ceil t.length) :
    ∃ quantity, t.quantized q = .error (.overflow quantity) := by
  have hzero : q.ceil 0 < Nanoseconds.limit := by
    rw [q.ceil_zero]
    decide
  obtain ⟨quantity, hfold⟩ := foldlM_appendQuantized_of_le (b := .empty) (c := .none) ht
    (by rw [q.ceil_zero]; rfl) hzero hle
  refine ⟨quantity, ?_⟩
  unfold quantized
  rw [hfold]
  rfl

/-- Quantization fails if there is nothing to quantize. -/
theorem quantized_of_empty {t : Timeline} (ht : t.Canonical) (hzero : t.length = 0) :
    t.quantized q = .error .degenerateSequence := by
  have hspans : t.spans = [] := by
    by_contra hne
    exact (ht.length_pos hne).ne' hzero
  unfold quantized
  rw [hspans]
  rfl

/-- Only a timeline that has a length, with an end whose tick fits in the counter, is quantized. -/
theorem quantized_inv {t u : Timeline} (ht : t.Renders n w) (h : t.quantized q = .ok (u, c)) :
    0 < n ∧ q.ceil n < Nanoseconds.limit ∧ c = t.spans.foldl (CollapsedSpans.note q) .none ∧
      u.Renders (q.ceil n) (w.sampled q) := by
  have hpos : 0 < n := by
    by_contra hzero
    rw [quantized_of_empty ht.canonical (ht.length.trans (Nat.eq_zero_of_not_pos hzero))] at h
    exact absurd h (by simp)
  have hfits : q.ceil n < Nanoseconds.limit := by
    by_contra hle
    rw [not_lt, ← ht.length] at hle
    obtain ⟨quantity, herror⟩ := quantized_of_le ht.canonical hle
    rw [herror] at h
    exact absurd h (by simp)
  obtain ⟨v, hok, hv⟩ := quantized_renders ht hpos hfits
  obtain ⟨rfl, rfl⟩ := Prod.mk.inj (Except.ok.inj (h.symm.trans hok))
  exact ⟨hpos, hfits, rfl, hv⟩

end Timeline

end PulseTrain
