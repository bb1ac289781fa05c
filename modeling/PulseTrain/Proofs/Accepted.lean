import PulseTrain.Proofs.Pipeline
import PulseTrain.Proofs.Reading
import PulseTrain.Proofs.Segments
import PulseTrain.Proofs.Verified

/-!
# The verdict on a timeline

Verification is handed spans of any kind, such as have been read from outside without a check. Its
verdict is put here in terms of single spans and of neighbours. A timeline that it accepts can be
frozen into a sequence that can be read back.
-/

namespace PulseTrain

namespace Timeline

variable {q : Quantum} {c m n repetitions gap : Nat} {unit : Option Nat} {spans : List Span}
  {t : Timeline}

/-- A playable timeline, seen span by span. -/
theorem playable_iff : t.Playable q repetitions unit gap ↔
    t.spans ≠ [] ∧ (∀ s ∈ t.spans.head?, s.start = 0) ∧
      t.spans.IsChain (fun a b => b.start = a.stop) ∧
      (∀ s ∈ t.spans, 0 < s.duration ∧ q.ns ∣ s.duration) ∧
      t.spans.IsChain (fun a b => b.state ≠ a.state) ∧
      ∀ n ∈ unit, t.length = max repetitions 1 * n + (max repetitions 1 - 1) * gap := by
  constructor
  · rintro ⟨hne, hcan, hdvd, htotal⟩
    obtain ⟨hpartition, hdiff⟩ := tilesFrom_iff.mp hcan
    have hpos : ∀ s ∈ t.spans, 0 < s.duration := fun s hs =>
      Nat.sub_pos_of_lt (hpartition.nonempty s hs)
    refine ⟨hne, hpartition.start, hpartition.follows, fun s hs => ⟨hpos s hs, hdvd s hs⟩, hdiff,
      ?_⟩
    intro n hn
    exact (htotal n hn).symm
  · rintro ⟨hne, hzero, hchain, heach, hdiff, htotal⟩
    have hpartition : PartitionFrom 0 t.spans :=
      ⟨hzero, hchain, fun s hs => Nat.lt_of_sub_pos (heach s hs).1⟩
    refine ⟨hne, tilesFrom_iff.mpr ⟨hpartition, hdiff⟩, ?_, ?_⟩
    · intro s hs
      exact (heach s hs).2
    · intro n hn
      exact (htotal n hn).symm

theorem length_lt (h : ∀ s ∈ t.spans, s.stop < m) (hm : 0 < m) : t.length < m := by
  unfold length
  cases hlast : t.spans.getLast? with
  | none => exact hm
  | some s => exact h s (List.mem_of_getLast? hlast)

end Timeline

variable {K : NoteKinds}

namespace Workpiece

/-- Verification accepts the spans that begin at zero, follow one another without gaps, last a
positive multiple of the quantum each, differ in state from their neighbours, and end where the
repetitions of the unit end, if its length is known. It then adds a note, and the sequence of the
timeline can be read back. If it refuses, then it does nothing else. -/
theorem verify_verdict (w : Workpiece K)
    (hspans : ∀ s ∈ w.timeline.spans, s.start ≤ s.stop ∧ s.stop < Nanoseconds.limit) :
    let spans := w.timeline.spans
    let p := w.properties
    let times := max p.repetitions 1
    let frozen := CompiledSequence.ofTimeline w.timeline
    ((Pass.verify.perform w).1 = .ok () ↔
      ∃ q, p.quantum = some q ∧ spans ≠ [] ∧ (∀ s ∈ spans.head?, s.start = 0) ∧
        spans.IsChain (fun a b => b.start = a.stop) ∧
        (∀ s ∈ spans, 0 < s.duration ∧ q.ns ∣ s.duration) ∧
        spans.IsChain (fun a b => b.state ≠ a.state) ∧
        ∀ unit ∈ p.unitLength,
          w.timeline.length = times * unit + (times - 1) * p.gap.getD 0) ∧
    (∀ left, Pass.verify.perform w = (.ok (), left) →
      left.timeline = w.timeline ∧
      left.properties = p.withNote .verification ⟨true, spans.length, w.timeline.length⟩ ∧
      CompiledSequence.ofSegments frozen.segments frozen.total = .ok frozen) ∧
    ∀ e left, Pass.verify.perform w = (.error e, left) →
      left = w ∧ ∃ flaw : Flaw, e = .passFailed "verify_sequence" flaw.message := by
  intro spans p times frozen
  have hfits : w.timeline.length < Nanoseconds.limit :=
    Timeline.length_lt (fun s hs => (hspans s hs).2) (by decide)
  have haccepts : (∃ v, w.timeline.verify p.quantum p.repetitions p.unitLength (p.gap.getD 0) =
      .ok v) ↔ ∃ q, p.quantum = some q ∧
        w.timeline.Playable q p.repetitions p.unitLength (p.gap.getD 0) := by
    simp only [Timeline.verify_eq_ok_iff hfits]
    constructor
    · rintro ⟨v, q, hq, hplay, -⟩
      exact ⟨q, hq, hplay⟩
    · rintro ⟨q, hq, hplay⟩
      exact ⟨_, q, hq, hplay, rfl⟩
  simp only [Timeline.playable_iff] at haccepts
  rw [← haccepts]
  cases hverify : w.timeline.verify p.quantum p.repetitions p.unitLength (p.gap.getD 0) with
  | error flaw =>
    have hperform := performs_verify.perform_of_error (verified_of_error hverify)
    rw [hperform]
    refine ⟨by simp, fun left h => absurd (congrArg Prod.fst h) (by simp), ?_⟩
    intro e left h
    obtain ⟨he, hleft⟩ := Prod.mk.inj h
    exact ⟨hleft.symm, flaw, (Except.error.inj he).symm⟩
  | ok v =>
    have hperform := performs_verify.perform_of_ok (verified_of_ok hverify)
    rw [hperform]
    refine ⟨by simp, ?_, fun e left h => absurd (congrArg Prod.fst h) (by simp)⟩
    intro left h
    obtain ⟨q, -, hplay, rfl⟩ := (Timeline.verify_eq_ok_iff hfits).mp hverify
    obtain rfl := (Prod.mk.inj h).2
    -- What is playable is canonical, and it fits, so its segments pass the checks on reading.
    exact ⟨rfl, rfl, (hplay.canonical.renders.valid hfits).ofSegments_eq⟩

/-- Two pulses of 8 ns with a gap of 16 ns, as repetitions of a unit of the given length. -/
def pair (unit : Nat) : Workpiece .none where
  timeline := ⟨[⟨0, 8, ⟨1⟩⟩, ⟨8, 24, .off⟩, ⟨24, 32, ⟨1⟩⟩]⟩
  properties := { Properties.initial with
    quantum := some .default
    repetitions := 2
    unitLength := some unit
    gap := some 16 }

/-- A unit that is too long by half the range of the counter comes to the same total in 64 bits. It
is refused. -/
theorem verify_verdict_pair : (Pass.verify.perform (pair 8)).1 = .ok () ∧
    (Pass.verify.perform (pair 0x8000000000000008)).1 ≠ .ok () := by
  have hspans : ∀ unit, ∀ s ∈ (pair unit).timeline.spans,
      s.start ≤ s.stop ∧ s.stop < Nanoseconds.limit := by
    intro unit
    show ∀ s ∈ (pair 0).timeline.spans, s.start ≤ s.stop ∧ s.stop < Nanoseconds.limit
    decide
  constructor
  · have hverdict := (verify_verdict (pair 8) (hspans 8)).1
    exact hverdict.mpr ⟨.default, rfl, by decide, by decide, by decide, by decide, by decide,
      by decide⟩
  · intro hok
    obtain ⟨q, -, -, -, -, -, -, htotal⟩ := (verify_verdict (pair _) (hspans _)).1.mp hok
    exact absurd (htotal _ rfl) (by decide)

end Workpiece

end PulseTrain
