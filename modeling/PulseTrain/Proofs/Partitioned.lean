import PulseTrain.Proofs.Builder
import PulseTrain.Proofs.Fallible
import PulseTrain.Proofs.Reading

/-!
# Timelines from partitions

Spans from outside are appended one after the other, each at the cursor of a builder that joins
neighbours with one state. The cursor is always where the last span stopped, whatever has been
joined, so exactly the partitions of an interval from zero are accepted, and the waveform that they
show is kept.
-/

namespace PulseTrain.Timeline

variable {b b' : TimelineBuilder} {n : Nat} {s : Span} {spans : List Span} {t : Timeline}
  {w : Waveform} {e : ModelError}

/-! ## Single spans -/

theorem appendSpan_eq_ok_iff : appendSpan b s = .ok b' ↔
    s.start = b.cursor ∧ s.start < s.stop ∧ b' = b.extendTo s.stop s.state := by
  unfold appendSpan
  by_cases hstart : s.start = b.cursor
  · by_cases hempty : s.stop ≤ s.start
    · simp [hstart, hstart ▸ hempty]
    · rw [if_neg (not_not.mpr hstart), if_neg hempty, Except.ok.injEq, eq_comm]
      simp [hstart, hstart ▸ not_le.mp hempty]
  · simp [hstart]

theorem appendSpan_eq_error (h : appendSpan b s = .error e) :
    ∃ reason, e = .invalidTimeline reason := by
  unfold appendSpan at h
  split_ifs at h with hstart hempty
  · exact ⟨_, (Except.error.inj h).symm⟩
  · exact ⟨_, (Except.error.inj h).symm⟩

/-- The cursor follows the spans, whether or not the builder joins them. -/
theorem cursor_of_appendSpan (h : appendSpan b s = .ok b') : b'.cursor = s.stop := by
  obtain ⟨hstart, hlt, rfl⟩ := appendSpan_eq_ok_iff.mp h
  exact TimelineBuilder.cursor_extendTo (hstart ▸ hlt.le)

/-- Appending a span goes on rendering the waveform that the span shows. -/
theorem appendSpan_renders (h : appendSpan b s = .ok b') (hb : b.timeline.Renders n w)
    (hshow : ∀ i, s.Contains i → w i = s.state) : b'.timeline.Renders s.stop w := by
  obtain ⟨hstart, hlt, rfl⟩ := appendSpan_eq_ok_iff.mp h
  have hn : s.start = n := hstart.trans (TimelineBuilder.cursor_of_renders hb)
  have hnext := TimelineBuilder.extendTo_renders (m := s.stop) (σ := s.state) hb
    fun i hi his => hshow i ⟨hn.trans_le hi, his⟩
  rwa [max_eq_right (hn ▸ hlt.le)] at hnext

/-! ## All spans -/

theorem exists_foldlM_appendSpan_iff :
    (∃ b', spans.foldlM appendSpan b = .ok b') ↔ PartitionFrom b.cursor spans := by
  induction spans generalizing b with
  | nil => exact iff_of_true ⟨b, rfl⟩ partitionFrom_nil
  | cons s rest ih =>
    rw [partitionFrom_cons]
    simp only [List.foldlM_cons, bind_eq_ok]
    constructor
    · rintro ⟨b', b₁, hs, hrest⟩
      have hpartition := ih.mp ⟨b', hrest⟩
      rw [cursor_of_appendSpan hs] at hpartition
      obtain ⟨hstart, hlt, -⟩ := appendSpan_eq_ok_iff.mp hs
      exact ⟨hstart, hlt, hpartition⟩
    · rintro ⟨hstart, hlt, hpartition⟩
      have hs : appendSpan b s = .ok (b.extendTo s.stop s.state) :=
        appendSpan_eq_ok_iff.mpr ⟨hstart, hlt, rfl⟩
      rw [← cursor_of_appendSpan hs] at hpartition
      obtain ⟨b', hrest⟩ := ih.mpr hpartition
      exact ⟨b', _, hs, hrest⟩

theorem foldlM_appendSpan_eq_error (h : spans.foldlM appendSpan b = .error e) :
    ∃ reason, e = .invalidTimeline reason := by
  induction spans generalizing b with
  | nil => exact absurd h pure_ne_error
  | cons s rest ih =>
    rw [List.foldlM_cons] at h
    rcases bind_eq_error.mp h with hs | ⟨b₁, -, hrest⟩
    · exact appendSpan_eq_error hs
    · exact ih hrest

theorem foldlM_appendSpan_renders (h : spans.foldlM appendSpan b = .ok b')
    (hb : b.timeline.Renders n w) (hshow : Shows w spans) :
    b'.timeline.Renders (endFrom n spans) w := by
  induction spans generalizing b n with
  | nil =>
    obtain rfl : b = b' := Except.ok.inj h
    exact hb
  | cons s rest ih =>
    rw [List.foldlM_cons] at h
    obtain ⟨b₁, hs, hrest⟩ := bind_eq_ok.mp h
    rw [endFrom_cons]
    exact ih hrest (appendSpan_renders hs hb hshow.head) hshow.tail

theorem ofSpans_eq_ok_iff :
    ofSpans spans = .ok t ↔ ∃ b, spans.foldlM appendSpan .empty = .ok b ∧ b.timeline = t :=
  map_eq_ok

theorem exists_ofSpans_iff : (∃ t, ofSpans spans = .ok t) ↔ PartitionFrom 0 spans := by
  have hcursor : TimelineBuilder.empty.cursor = 0 := rfl
  rw [← hcursor, ← exists_foldlM_appendSpan_iff]
  constructor
  · rintro ⟨t, h⟩
    obtain ⟨b, hb, -⟩ := ofSpans_eq_ok_iff.mp h
    exact ⟨b, hb⟩
  · rintro ⟨b, hb⟩
    exact ⟨b.timeline, ofSpans_eq_ok_iff.mpr ⟨b, hb, rfl⟩⟩

theorem ofSpans_eq_error (h : ofSpans spans = .error e) : ∃ reason, e = .invalidTimeline reason :=
  foldlM_appendSpan_eq_error (map_eq_error.mp h)

/-- What is made of spans renders every waveform that they show. -/
theorem ofSpans_renders (h : ofSpans spans = .ok t) (hshow : Shows w spans) :
    t.Renders (endFrom 0 spans) w := by
  obtain ⟨b, hb, rfl⟩ := ofSpans_eq_ok_iff.mp h
  exact foldlM_appendSpan_renders hb (TimelineBuilder.renders_empty w) hshow

/-- Nothing is joined in a canonical timeline. -/
theorem Canonical.ofSpans_eq (h : t.Canonical) : ofSpans t.spans = .ok t := by
  obtain ⟨w, hw⟩ := h.exists_renders
  obtain ⟨u, hu⟩ := exists_ofSpans_iff.mpr (TilesFrom.partition h)
  have hrenders : u.Renders t.length w := ofSpans_renders hu hw.shows
  rw [hu, hrenders.unique hw]

/-- Nothing is joined iff neighbours differ in state. -/
theorem spans_eq_iff (h : ofSpans spans = .ok t) (hcan : t.Canonical) :
    t.spans = spans ↔ spans.IsChain fun a b => b.state ≠ a.state := by
  constructor
  · rintro rfl
    exact (tilesFrom_iff.mp hcan).2
  · intro hdiff
    have htiles : (⟨spans⟩ : Timeline).Canonical :=
      tilesFrom_iff.mpr ⟨exists_ofSpans_iff.mp ⟨t, h⟩, hdiff⟩
    rw [Except.ok.inj (h.symm.trans htiles.ofSpans_eq)]

/-- Just the partitions of an interval from zero are accepted: the first span starts at zero, each
other one where the one before it stops, and none is empty. Anything else is an invalid timeline.
The timeline that is made of a partition is canonical, ends where the partition does, and has the
state of the span that contains the instant. It consists of the same spans iff no neighbours share a
state; so canonical timelines are made of their own spans, and what is made once is made again. -/
theorem ofSpans_outcome (spans : List Span) :
    ((∃ t, ofSpans spans = .ok t) ↔
      (∀ s ∈ spans.head?, s.start = 0) ∧ spans.IsChain (fun a b => b.start = a.stop) ∧
        ∀ s ∈ spans, s.start < s.stop) ∧
    ((¬ ∃ t, ofSpans spans = .ok t) →
      ∃ reason, ofSpans spans = .error (.invalidTimeline reason)) ∧
    (∀ t, ofSpans spans = .ok t → t.Canonical ∧ t.length = endFrom 0 spans ∧
      (∀ i < t.length, ∃ s ∈ spans, s.Contains i) ∧
      (∀ s ∈ spans, ∀ i, s.Contains i → t.stateAt i = some s.state) ∧
      (t.spans = spans ↔ spans.IsChain fun a b => b.state ≠ a.state) ∧
      ofSpans t.spans = .ok t) ∧
    ∀ t : Timeline, t.Canonical → ofSpans t.spans = .ok t := by
  refine ⟨?_, fun hnone => ?_, fun t h => ?_, fun t h => h.ofSpans_eq⟩
  · rw [exists_ofSpans_iff]
    constructor
    · intro h
      exact ⟨h.start, h.follows, h.nonempty⟩
    · rintro ⟨hstart, hfollows, hnonempty⟩
      exact ⟨hstart, hfollows, hnonempty⟩
  · cases h : ofSpans spans with
    | ok t => exact absurd ⟨t, h⟩ hnone
    | error e =>
      obtain ⟨reason, rfl⟩ := ofSpans_eq_error h
      exact ⟨reason, rfl⟩
  · have hpartition := exists_ofSpans_iff.mp ⟨t, h⟩
    obtain ⟨w, hw⟩ := hpartition.exists_shows
    have ht := ofSpans_renders h hw
    refine ⟨ht.canonical, ht.length, fun i hi => ?_, fun s hs i hi => ?_,
      spans_eq_iff h ht.canonical, ht.canonical.ofSpans_eq⟩
    · exact hpartition.exists_contains (Nat.zero_le i) (ht.length ▸ hi)
    · have hlt : i < endFrom 0 spans := hi.2.trans_le (hpartition.bounds hs).2.2
      rw [ht.stateAt_eq, if_pos hlt, hw s hs i hi]

/-- The first two spans share a state, so they are joined; without the first of them, nothing starts
at zero. -/
theorem ofSpans_outcome_handover : ∃ t,
    ofSpans [⟨0, 8, .ofNat 1⟩, ⟨8, 24, .ofNat 1⟩, ⟨24, 30, .ofNat 2⟩] = .ok t ∧
      t.stateAt 8 = some (.ofNat 1) ∧ t.spans.length ≠ 3 ∧ ofSpans t.spans = .ok t ∧
      ∃ reason, ofSpans [⟨8, 24, .ofNat 1⟩, ⟨24, 30, .ofNat 2⟩] =
        .error (.invalidTimeline reason) := by
  obtain ⟨haccepts, -, hok, -⟩ :=
    ofSpans_outcome [⟨0, 8, .ofNat 1⟩, ⟨8, 24, .ofNat 1⟩, ⟨24, 30, .ofNat 2⟩]
  obtain ⟨hexact, hrefused, -⟩ := ofSpans_outcome [⟨8, 24, .ofNat 1⟩, ⟨24, 30, .ofNat 2⟩]
  obtain ⟨t, ht⟩ := haccepts.mpr ⟨by decide, by decide, by decide⟩
  obtain ⟨-, -, -, hstate, -, hagain⟩ := hok t ht
  refine ⟨t, ht, hstate ⟨8, 24, .ofNat 1⟩ (by simp) 8 (by decide), ?_, hagain, ?_⟩
  · obtain rfl : ⟨[⟨0, 24, .ofNat 1⟩, ⟨24, 30, .ofNat 2⟩]⟩ = t := Except.ok.inj ht
    decide
  · apply hrefused
    rw [hexact]
    decide

end PulseTrain.Timeline
