import PulseTrain.Proofs.Reading
import PulseTrain.Proofs.Repeated
import PulseTrain.Proofs.Segments

/-!
# Frozen timelines

A sequence from outside and a canonical timeline are two forms of one thing. Freezing a timeline
gives a sequence that is accepted, and pushing the segments of an accepted sequence to a builder
gives the timeline back, so nothing is lost either way. Both are determined by what is played.
-/

namespace PulseTrain

open Timeline

namespace TimelineBuilder

/-- Appends segments, each for as long as it lasts. -/
def appendSegments (b : TimelineBuilder) (segments : List Segment) :
    Except ModelError TimelineBuilder :=
  segments.foldlM (fun b g => b.push g.duration g.state) b

theorem appendSegments_map_segment (b : TimelineBuilder) (spans : List Span) :
    b.appendSegments (spans.map Span.segment) = b.appendUnit spans :=
  List.foldlM_map

/-- The segments of a canonical timeline build it again. -/
theorem exists_appendSegments {t : Timeline} (h : t.Canonical)
    (hlt : t.length < Nanoseconds.limit) :
    ∃ b, empty.appendSegments (CompiledSequence.ofTimeline t).segments = .ok b ∧
      b.timeline = t := by
  obtain ⟨b, hb, hbt⟩ := appendUnit_spans h hlt
  exact ⟨b, (appendSegments_map_segment empty t.spans).trans hb, hbt⟩

end TimelineBuilder

namespace CompiledSequence

variable {segments : List Segment} {s s' : CompiledSequence} {t : Timeline} {spans : List Span}
  {c i total : Nat}

/-! ## What is played -/

theorem exists_playing (hi : i < duration segments) :
    ∃ g ∈ segments, playing segments i = some g.state := by
  induction segments generalizing i with
  | nil => exact absurd hi (Nat.not_lt_zero i)
  | cons g rest ih =>
    rw [duration_cons] at hi
    unfold playing
    split_ifs with hg
    · exact ⟨g, List.mem_cons_self, rfl⟩
    · have hlater : i - g.duration < duration rest := by lia
      obtain ⟨next, hnext, hplay⟩ := ih hlater
      exact ⟨next, List.mem_cons_of_mem _ hnext, hplay⟩

/-- At each instant of a valid sequence one of its segments is played. -/
theorem Valid.exists_stateAt (h : s.Valid) (hi : i < s.total) :
    ∃ g ∈ s.segments, s.stateAt i = some g.state :=
  exists_playing (h.sum.symm ▸ hi)

/-- Valid sequences that last equally long and play the same states are equal. -/
theorem Valid.eq_of_stateAt (h : s.Valid) (h' : s'.Valid) (htotal : s.total = s'.total)
    (hstate : ∀ t < s.total, s.stateAt t = s'.stateAt t) : s = s' := by
  -- Both are seen as the sequences of timelines.
  obtain ⟨u, hcan, rfl⟩ := h.exists_timeline
  obtain ⟨u', hcan', rfl⟩ := h'.exists_timeline
  have hlength : u.length = u'.length := htotal
  have hrenders : u'.Renders u.length u.waveform := by
    rw [hlength]
    refine hcan'.renders.congr fun i hi => ?_
    have hi' : i < u.length := hlength ▸ hi
    have heq := hstate i hi'
    rw [hcan.renders.stateAt_ofTimeline, hcan'.renders.stateAt_ofTimeline, if_pos hi, if_pos hi']
      at heq
    exact Option.some.inj heq
  rw [hcan.renders.unique hrenders]

/-! ## Where segments begin -/

/-- The segments of a tiling begin where its spans do. -/
theorem offsetsFrom_map_segment (h : TilesFrom c spans) :
    offsetsFrom c (spans.map Span.segment) = spans.map fun s => (s.start, s.segment) := by
  induction spans generalizing c with
  | nil => rfl
  | cons s rest ih =>
    obtain ⟨rfl, hlt, -, hrest⟩ := h
    have hstop := s.start_add_duration hlt.le
    rw [List.map_cons, List.map_cons, offsetsFrom, hstop, ih hrest]

theorem offsets_ofTimeline (h : t.Canonical) :
    (ofTimeline t).offsets = t.spans.map fun s => (s.start, s.segment) :=
  offsetsFrom_map_segment h

/-- No segment of a canonical timeline ends after the timeline. -/
theorem offset_add_duration_le (h : t.Canonical) :
    ∀ e ∈ (ofTimeline t).offsets, e.1 + e.2.duration ≤ t.length := by
  rw [offsets_ofTimeline h]
  intro e he
  obtain ⟨s, hs, rfl⟩ := List.mem_map.mp he
  obtain ⟨-, hlt, hstop⟩ := TilesFrom.bounds h hs
  exact (s.start_add_duration hlt.le).trans_le hstop

/-! ## There and back -/

theorem exists_ofSegments_iff : (∃ s, ofSegments segments total = .ok s) ↔
    Regular segments ∧ duration segments = total ∧ total < Nanoseconds.limit := by
  constructor
  · rintro ⟨s, h⟩
    obtain ⟨rfl, hvalid⟩ := ofSegments_eq_ok_iff.mp h
    exact ⟨hvalid.regular, hvalid.sum, hvalid.fits⟩
  · rintro ⟨hregular, hsum, hfits⟩
    exact ⟨⟨segments, total⟩, ofSegments_eq_ok_iff.mpr ⟨rfl, hregular, hsum, hfits⟩⟩

/-- Freezing is a bijection from the canonical timelines whose length fits in a 64-bit counter to
the sequences that are accepted from outside. Accepted are segments that last some time and differ
from their neighbours, if the exact sum of the durations is the total and fits in the counter. They
can always be pushed to a builder, and the timeline that it builds is frozen to the same sequence.
Conversely a frozen timeline is accepted, its segments build it again, and they are listed with the
instants at which the spans start, where no running sum overflows. -/
theorem ofTimeline_bijective :
    (∀ segments total, (∃ s, ofSegments segments total = .ok s) ↔
      (∀ g ∈ segments, 0 < g.duration) ∧ (segments.IsChain fun a b => a.state ≠ b.state) ∧
        duration segments < Nanoseconds.limit ∧ duration segments = total) ∧
    (∀ segments total s, ofSegments segments total = .ok s →
      s = ⟨segments, total⟩ ∧ ∃ b, TimelineBuilder.empty.appendSegments segments = .ok b ∧
        b.timeline.Canonical ∧ ofTimeline b.timeline = s) ∧
    ∀ t : Timeline, t.Canonical → t.length < Nanoseconds.limit →
      let s := ofTimeline t
      ofSegments s.segments s.total = .ok s ∧
        (∃ b, TimelineBuilder.empty.appendSegments s.segments = .ok b ∧ b.timeline = t) ∧
        s.offsets = t.spans.map (fun span => (span.start, span.segment)) ∧
        ∀ e ∈ s.offsets, e.1 + e.2.duration < Nanoseconds.limit := by
  refine ⟨fun segments total => ?_, fun segments total s h => ?_, fun t h hlt => ?_⟩
  · rw [exists_ofSegments_iff]
    constructor
    · rintro ⟨hregular, rfl, hfits⟩
      exact ⟨hregular.positive, hregular.alternates, hfits, rfl⟩
    · rintro ⟨hpos, halternates, hfits, rfl⟩
      exact ⟨⟨hpos, halternates⟩, rfl, hfits⟩
  · obtain ⟨rfl, hvalid⟩ := ofSegments_eq_ok_iff.mp h
    obtain ⟨t, hcan, hfrozen⟩ := hvalid.exists_timeline
    have hlt : t.length < Nanoseconds.limit :=
      (congrArg CompiledSequence.total hfrozen).trans_lt hvalid.fits
    obtain ⟨b, hb, rfl⟩ := TimelineBuilder.exists_appendSegments hcan hlt
    rw [hfrozen] at hb
    exact ⟨rfl, b, hb, hcan, hfrozen⟩
  · exact ⟨(h.renders.valid hlt).ofSegments_eq, TimelineBuilder.exists_appendSegments h hlt,
      offsets_ofTimeline h, fun e he => (offset_add_duration_le h e he).trans_lt hlt⟩

/-- The last instant of this timeline is the last one that a counter can tell. -/
theorem ofTimeline_bijective_longest :
    let t : Timeline := ⟨[⟨0, 8, .ofNat 5⟩, ⟨8, Nanoseconds.limit - 1, .ofNat 2⟩]⟩
    ofSegments (ofTimeline t).segments (Nanoseconds.limit - 1) = .ok (ofTimeline t) ∧
      (∃ b, TimelineBuilder.empty.appendSegments (ofTimeline t).segments = .ok b ∧
        b.timeline = t) ∧
      ∃ b, TimelineBuilder.empty.appendSegments (ofTimeline t).segments = .ok b ∧
        ofTimeline b.timeline = ofTimeline t := by
  intro t
  obtain ⟨-, hthere, hback⟩ := ofTimeline_bijective
  obtain ⟨haccepted, hbuilt, -⟩ := hback t (by decide) (by decide)
  obtain ⟨-, b, hb, -, hfrozen⟩ := hthere _ _ _ haccepted
  exact ⟨haccepted, hbuilt, b, hb, hfrozen⟩

end CompiledSequence

end PulseTrain
