import PulseTrain.Proofs.Pipeline
import PulseTrain.Proofs.Quantized
import PulseTrain.Proofs.Reading

/-!
# Quantizing to a coarser grid

The ticks of a coarser grid are ticks of every finer grid that it is a multiple of. So a timeline
that has been sampled on the finer grid shows at them what it showed before, and its rounded length
is rounded further to the same tick.
-/

namespace PulseTrain

theorem Waveform.sampled_sampled {q coarse : Quantum} (h : q.ns ∣ coarse.ns) (w : Waveform) :
    (w.sampled q).sampled coarse = w.sampled coarse := by
  funext t
  unfold Waveform.sampled
  rw [q.floor_eq_self (h.trans (coarse.dvd_floor t))]

variable {K : NoteKinds}

namespace Workpiece

variable {w fine : Workpiece K} {q coarse : Quantum} {n k : Nat} {v : Waveform}

/-- What the pass leaves of a timeline whose length fits in the counter. -/
theorem perform_quantize_of_lt (hq : w.properties.quantum = some q)
    (ht : w.timeline.Renders n v) (hn : 0 < n) (hlt : q.ceil n < Nanoseconds.limit) :
    ∃ left, Pass.quantize.perform w = (.ok (), left) ∧
      left.timeline.Renders (q.ceil n) (v.sampled q) ∧
      left.properties.unitLength = some (q.ceil n) := by
  obtain ⟨u, hok, hu⟩ := Timeline.quantized_renders ht hn hlt
  refine ⟨_, performs_quantize.perform_of_ok (quantized_of_ok hq hok), hu, ?_⟩
  show some u.length = _
  rw [hu.length]

theorem perform_quantize_of_le (hq : w.properties.quantum = some q)
    (ht : w.timeline.Renders n v) (hle : Nanoseconds.limit ≤ q.ceil n) :
    (Pass.quantize.perform w).1 ≠ .ok () := by
  rw [← ht.length] at hle
  obtain ⟨quantity, herror⟩ := Timeline.quantized_of_le ht.canonical hle
  rw [performs_quantize.perform_of_error (quantized_of_error hq herror)]
  simp

/-- A timeline and what it has become on a finer grid are quantized alike to a coarser one. -/
theorem perform_quantize_coarse (direct twice : Workpiece K) (hdvd : q.ns ∣ coarse.ns)
    (hn : 0 < n) (hdirect : direct.properties.quantum = some coarse)
    (htwice : twice.properties.quantum = some coarse) (ht : direct.timeline.Renders n v)
    (hu : twice.timeline.Renders (q.ceil n) (v.sampled q)) :
    ((Pass.quantize.perform twice).1 = .ok () ↔ (Pass.quantize.perform direct).1 = .ok ()) ∧
      ((Pass.quantize.perform direct).1 = .ok () →
        (Pass.quantize.perform twice).2.timeline = (Pass.quantize.perform direct).2.timeline ∧
        (Pass.quantize.perform twice).2.properties.unitLength =
          (Pass.quantize.perform direct).2.properties.unitLength) := by
  have hlength : coarse.ceil (q.ceil n) = coarse.ceil n := q.ceil_ceil hdvd n
  rcases lt_or_ge (coarse.ceil n) Nanoseconds.limit with hlt | hle
  · obtain ⟨left, hleft, hrenders, hunit⟩ := perform_quantize_of_lt hdirect ht hn hlt
    obtain ⟨left', hleft', hrenders', hunit'⟩ :=
      perform_quantize_of_lt htwice hu (q.ceil_pos hn) (hlength ▸ hlt)
    rw [hlength] at hunit' hrenders'
    rw [Waveform.sampled_sampled hdvd] at hrenders'
    rw [hleft, hleft']
    exact ⟨Iff.rfl, fun _ => ⟨hrenders'.unique hrenders, hunit'.trans hunit.symm⟩⟩
  · have hfail := perform_quantize_of_le hdirect ht hle
    have hfail' := perform_quantize_of_le htwice hu (hlength.symm ▸ hle)
    exact ⟨iff_of_false hfail' hfail, fun hok => absurd hok hfail⟩

/-- Once a timeline has been quantized, it is quantized to a multiple of the quantum just as if that
had not been done: with success in the same cases, and with the same timeline and length of the
unit. In particular nothing changes if it is quantized twice to the same grid. -/
theorem quantize_multiple (hq : w.properties.quantum = some q) (hcan : w.timeline.Canonical)
    (hne : w.timeline.spans ≠ []) (hfine : Pass.quantize.perform w = (.ok (), fine))
    (hk : coarse.ns = k * q.ns) {p p' : Properties K} (hp : p.quantum = some coarse)
    (hp' : p'.quantum = some coarse) :
    let direct := Pass.quantize.perform ⟨w.timeline, p⟩
    let twice := Pass.quantize.perform ⟨fine.timeline, p'⟩
    (twice.1 = .ok () ↔ direct.1 = .ok ()) ∧
      (direct.1 = .ok () → twice.2.timeline = direct.2.timeline ∧
        twice.2.properties.unitLength = direct.2.properties.unitLength) ∧
      (k = 1 → twice.1 = .ok () ∧ twice.2.timeline = fine.timeline ∧
        twice.2.properties.unitLength = fine.properties.unitLength) := by
  intro direct twice
  have hpos : 0 < w.timeline.length := hcan.length_pos hne
  have hfits : q.ceil w.timeline.length < Nanoseconds.limit := by
    by_contra hle
    apply perform_quantize_of_le hq hcan.renders (not_lt.mp hle)
    rw [hfine]
  obtain ⟨left, hleft, hrenders, -⟩ := perform_quantize_of_lt hq hcan.renders hpos hfits
  obtain rfl : left = fine := (Prod.mk.inj (hleft.symm.trans hfine)).2
  obtain ⟨hiff, hsame⟩ := perform_quantize_coarse ⟨w.timeline, p⟩
    ⟨left.timeline, p'⟩ (Dvd.intro_left k hk.symm) hpos hp hp' hcan.renders hrenders
  refine ⟨hiff, hsame, ?_⟩
  rintro rfl
  -- The coarse grid is the fine one, so the first run is the direct one.
  have hq' : w.properties.quantum = some coarse := by
    have hns : coarse.ns = q.ns := hk.trans (Nat.one_mul q.ns)
    cases q
    cases coarse
    cases hns
    exact hq
  obtain ⟨hiff', hsame'⟩ := perform_quantize_coarse w ⟨left.timeline, p'⟩
    (Dvd.intro_left 1 hk.symm) hpos hq' hp' hcan.renders hrenders
  rw [hleft] at hiff' hsame'
  exact ⟨hiff'.mpr rfl, hsame' rfl⟩

/-- On a grid of 8 ns the second span is lost, and its neighbours become one. On a grid of 16 ns the
fourth one is lost as well. -/
def skewed : Workpiece .none where
  timeline := ⟨[⟨0, 10, ⟨1⟩⟩, ⟨10, 14, ⟨2⟩⟩, ⟨14, 20, ⟨1⟩⟩, ⟨20, 28, ⟨4⟩⟩, ⟨28, 60, .off⟩]⟩
  properties := Properties.initial.withQuantum .default

theorem quantize_multiple_skewed : ∃ fine, ∃ coarse : Quantum, coarse.ns = 16 ∧
    Pass.quantize.perform skewed = (.ok (), fine) ∧
    fine.timeline = ⟨[⟨0, 24, ⟨1⟩⟩, ⟨24, 32, ⟨4⟩⟩, ⟨32, 64, .off⟩]⟩ ∧
    let twice := Pass.quantize.perform ⟨fine.timeline, fine.properties.withQuantum coarse⟩
    twice.1 = .ok () ∧ twice.2.timeline = ⟨[⟨0, 32, ⟨1⟩⟩, ⟨32, 64, .off⟩]⟩ := by
  have hq : skewed.properties.quantum = some .default := rfl
  have hcan : skewed.timeline.Canonical := by decide
  have hfine : Pass.quantize.perform skewed = (.ok (), (Pass.quantize.perform skewed).2) := rfl
  have hk : (⟨16, by decide⟩ : Quantum).ns = 2 * Quantum.default.ns := rfl
  have hp : ∀ p : Properties .none,
      (p.withQuantum ⟨16, by decide⟩).quantum = some ⟨16, by decide⟩ := fun _ => rfl
  obtain ⟨hiff, hsame, -⟩ := quantize_multiple hq hcan (by decide) hfine hk (hp skewed.properties)
    (hp (Pass.quantize.perform skewed).2.properties)
  exact ⟨_, _, rfl, hfine, rfl, hiff.mpr rfl, (hsame rfl).1.trans rfl⟩

end Workpiece

end PulseTrain
