import Mathlib.Data.List.Chain
import PulseTrain.Proofs.Waveform
import PulseTrain.Sequence.Basic

/-!
# Sequences that can be read back

`Valid` is what the checked constructor asks of segments. The sequence of a canonical timeline is
valid, provided that its length fits in the counter, and it plays the waveform of the timeline.
-/

namespace PulseTrain

/-- The span without its place. -/
def Span.segment (s : Span) : Segment := ⟨s.state, s.duration⟩

theorem Span.start_add_duration (s : Span) (h : s.start ≤ s.stop) :
    s.start + s.segment.duration = s.stop :=
  Nat.add_sub_of_le h

namespace CompiledSequence

/-- How long segments last. -/
def duration : List Segment → Nat
  | [] => 0
  | g :: rest => g.duration + duration rest

@[simp] theorem duration_nil : duration [] = 0 := rfl

@[simp] theorem duration_cons (g : Segment) (segments : List Segment) :
    duration (g :: segments) = g.duration + duration segments := rfl

/-- What segments have to be like: each is held for some time, and neighbours differ in state. -/
structure Regular (segments : List Segment) : Prop where
  /-- Every segment has a duration. -/
  positive : ∀ g ∈ segments, 0 < g.duration
  /-- No segment continues the state of the one before it. -/
  alternates : segments.IsChain fun a b => a.state ≠ b.state

/-- The segments are regular, and they last as long as the sequence says, which fits in a 64-bit
counter. -/
structure Valid (s : CompiledSequence) : Prop where
  /-- Every segment has a duration, and neighbours differ. -/
  regular : Regular s.segments
  /-- The durations add up to the total. -/
  sum : duration s.segments = s.total
  /-- The total fits in the counter. -/
  fits : s.total < Nanoseconds.limit

theorem regular_cons {g : Segment} {segments : List Segment} : Regular (g :: segments) ↔
    0 < g.duration ∧ (∀ h ∈ segments.head?, g.state ≠ h.state) ∧ Regular segments := by
  constructor
  · rintro ⟨hpos, hchain⟩
    rw [List.forall_mem_cons] at hpos
    rw [List.isChain_cons] at hchain
    exact ⟨hpos.1, hchain.1, hpos.2, hchain.2⟩
  · rintro ⟨hpos, hhead, hrest⟩
    exact ⟨List.forall_mem_cons.mpr ⟨hpos, hrest.positive⟩,
      List.isChain_cons.mpr ⟨hhead, hrest.alternates⟩⟩

/-! ## Offsets -/

/-- A segment begins when those before it have been played. -/
theorem getElem?_offsetsFrom (segments : List Segment) (c i : Nat) :
    (offsetsFrom c segments)[i]? =
      segments[i]?.map fun g => (c + duration (segments.take i), g) := by
  induction segments generalizing c i with
  | nil => rfl
  | cons g rest ih =>
    cases i with
    | zero => rfl
    | succ i =>
      unfold offsetsFrom
      rw [List.getElem?_cons_succ, List.getElem?_cons_succ, ih, List.take_succ_cons, duration_cons,
        Nat.add_assoc]

theorem length_offsetsFrom (segments : List Segment) (c : Nat) :
    (offsetsFrom c segments).length = segments.length := by
  induction segments generalizing c with
  | nil => rfl
  | cons g rest ih => rw [offsetsFrom, List.length_cons, List.length_cons, ih]

/-! ## The checked constructor -/

variable {segments : List Segment} {i : Nat} {sum m total : Nat} {previous : Option ChannelState}
  {s : CompiledSequence}

/-- The sum is found iff nothing is refused on the way. -/
theorem checkedSum_eq_ok_iff (hsum : sum < Nanoseconds.limit) :
    checkedSum i previous sum segments = .ok m ↔
      Regular segments ∧ (∀ g ∈ segments.head?, previous ≠ some g.state) ∧
        sum + duration segments = m ∧ m < Nanoseconds.limit := by
  induction segments generalizing i previous sum with
  | nil =>
    have hnil : Regular [] := ⟨by simp, List.IsChain.nil⟩
    simp only [checkedSum, hnil, Except.ok.injEq, duration_nil, List.head?_nil]
    constructor
    · rintro rfl
      exact ⟨trivial, by simp, rfl, hsum⟩
    · rintro ⟨-, -, h, -⟩
      exact h
  | cons g rest ih =>
    unfold checkedSum
    rw [regular_cons, duration_cons, List.head?_cons]
    by_cases hzero : g.duration = 0
    · simp [hzero]
    · by_cases hprev : previous = some g.state
      · simp [hzero, hprev]
      · -- What is left to refuse is a sum that does not fit in the counter.
        rw [if_neg hzero, if_neg hprev]
        unfold Nanoseconds.add?
        by_cases hlt : sum + g.duration < Nanoseconds.limit
        · rw [Nanoseconds.check?_of_lt hlt]
          show checkedSum (i + 1) (some g.state) (sum + g.duration) rest = .ok m ↔ _
          rw [ih hlt, ← Nat.add_assoc]
          have hpos := Nat.pos_of_ne_zero hzero
          simp only [Option.mem_some_iff, forall_eq', ne_eq, Option.some_inj]
          tauto
        · rw [Nanoseconds.check?_eq_none_iff.mpr (not_lt.mp hlt)]
          constructor
          · intro h
            exact absurd h (by simp)
          · rintro ⟨-, -, hm, hfits⟩
            omega

/-- The checked constructor accepts the fields of the valid sequences, and it keeps them. -/
theorem ofSegments_eq_ok_iff :
    ofSegments segments total = .ok s ↔ s = ⟨segments, total⟩ ∧ s.Valid := by
  have hzero : 0 < Nanoseconds.limit := by decide
  unfold ofSegments
  constructor
  · intro h
    cases hsum : checkedSum 0 none 0 segments with
    | error e => simp [hsum, bind, Except.bind] at h
    | ok m =>
      obtain ⟨hreg, -, hm, hfits⟩ := (checkedSum_eq_ok_iff hzero).mp hsum
      rw [Nat.zero_add] at hm
      rw [hsum] at h
      by_cases htotal : m = total
      · simp [htotal, bind, Except.bind, pure, Except.pure] at h
        subst h
        exact ⟨rfl, hreg, hm.trans htotal, htotal ▸ hfits⟩
      · simp [htotal, bind, Except.bind, throw, throwThe, MonadExceptOf.throw] at h
  · rintro ⟨rfl, hreg, hm, hfits⟩
    have hsum : checkedSum 0 none 0 segments = .ok total :=
      (checkedSum_eq_ok_iff hzero).mpr ⟨hreg, by simp, (Nat.zero_add _).trans hm, hfits⟩
    rw [hsum]
    simp [bind, Except.bind, pure, Except.pure]

theorem Valid.ofSegments_eq (h : s.Valid) : ofSegments s.segments s.total = .ok s :=
  ofSegments_eq_ok_iff.mpr ⟨rfl, h⟩

/-! ## The sequence of a timeline -/

end CompiledSequence

namespace Timeline

open CompiledSequence

variable {spans : List Span} {c n i : Nat} {t : Timeline} {w : Waveform}

theorem TilesFrom.regular (h : TilesFrom c spans) : Regular (spans.map Span.segment) := by
  induction spans generalizing c with
  | nil => exact ⟨by simp, List.IsChain.nil⟩
  | cons s rest ih =>
    obtain ⟨-, hlt, hdiff, hrest⟩ := h
    rw [List.map_cons, regular_cons]
    refine ⟨?_, ?_, ih hrest⟩
    · show 0 < s.stop - s.start
      lia
    · cases rest with
      | nil => simp
      | cons r rest => simpa [Span.segment] using (hdiff r rfl).symm

/-- The durations of a tiling add up to its length. -/
theorem TilesFrom.add_duration (h : TilesFrom c spans) :
    c + duration (spans.map Span.segment) = endFrom c spans := by
  induction spans generalizing c with
  | nil => rfl
  | cons s rest ih =>
    obtain ⟨rfl, hlt, -, hrest⟩ := h
    have hstop := s.start_add_duration hlt.le
    rw [List.map_cons, duration_cons, endFrom_cons, ← ih hrest, ← hstop, Nat.add_assoc]

/-- The segments of a tiling play the waveform from where it begins. -/
theorem TilesFrom.playing_eq (h : TilesFrom c spans) (hw : Shows w spans) (i : Nat) :
    playing (spans.map Span.segment) i =
      if c + i < endFrom c spans then some (w (c + i)) else none := by
  induction spans generalizing c i with
  | nil => exact (if_neg (Nat.not_lt.mpr (Nat.le_add_right c i))).symm
  | cons s rest ih =>
    obtain ⟨rfl, hlt, -, hrest⟩ := h
    have hend := hrest.le_endFrom
    have hstop : s.start + s.segment.duration = s.stop := s.start_add_duration hlt.le
    rw [List.map_cons, endFrom_cons]
    unfold playing
    by_cases hi : i < s.segment.duration
    · rw [if_pos hi, if_pos (by lia), hw.head _ ⟨by lia, by lia⟩]
      rfl
    · obtain ⟨j, rfl⟩ := Nat.exists_eq_add_of_le (not_lt.mp hi)
      rw [if_neg hi, ih hrest hw.tail, ← Nat.add_assoc, hstop, Nat.add_sub_cancel_left]

/-- The sequence of a canonical timeline is valid if its length fits in the counter. -/
theorem Renders.valid (h : t.Renders n w) (hn : n < Nanoseconds.limit) : (ofTimeline t).Valid := by
  refine ⟨TilesFrom.regular h.canonical, ?_, ?_⟩
  · have hsum := TilesFrom.add_duration h.canonical
    rw [Nat.zero_add] at hsum
    exact hsum
  · show t.length < _
    rw [h.length]
    exact hn

/-- The sequence of a timeline plays what the timeline renders. -/
theorem Renders.stateAt_ofTimeline (h : t.Renders n w) (i : Nat) :
    (ofTimeline t).stateAt i = if i < n then some (w i) else none := by
  have hplay := TilesFrom.playing_eq h.canonical h.shows i
  rw [← length_eq_endFrom, h.length, Nat.zero_add] at hplay
  exact hplay

end Timeline

/-! ## The timeline of a sequence -/

/-- The span that a segment fills if it begins at `start`. -/
def Segment.spanAt (g : Segment) (start : Nat) : Span := ⟨start, start + g.duration, g.state⟩

namespace CompiledSequence

open Timeline

variable {segments : List Segment} {s : CompiledSequence} {c : Nat}

/-- The spans that segments fill, the first of them from `start` on. -/
def spansFrom (start : Nat) (segments : List Segment) : List Span :=
  (offsetsFrom start segments).map fun (start, g) => g.spanAt start

/-- The timeline that a sequence plays. -/
def toTimeline (s : CompiledSequence) : Timeline := ⟨spansFrom 0 s.segments⟩

@[simp] theorem spansFrom_nil : spansFrom c [] = [] := rfl

@[simp] theorem spansFrom_cons (g : Segment) (segments : List Segment) :
    spansFrom c (g :: segments) = g.spanAt c :: spansFrom (c + g.duration) segments := rfl

theorem map_segment_spansFrom : (spansFrom c segments).map Span.segment = segments := by
  induction segments generalizing c with
  | nil => rfl
  | cons g rest ih =>
    have hsegment : (g.spanAt c).segment = g := by
      simp [Span.segment, Segment.spanAt, Span.duration]
    rw [spansFrom_cons, List.map_cons, ih, hsegment]

/-- Regular segments tile an interval. -/
theorem Regular.tilesFrom (h : Regular segments) : TilesFrom c (spansFrom c segments) := by
  induction segments generalizing c with
  | nil => exact tilesFrom_nil
  | cons g rest ih =>
    obtain ⟨hpos, hdiff, hrest⟩ := regular_cons.mp h
    rw [spansFrom_cons, tilesFrom_cons]
    refine ⟨rfl, Nat.lt_add_of_pos_right hpos, ?_, ih hrest⟩
    cases rest with
    | nil => simp
    | cons r rest => simpa [Segment.spanAt] using (hdiff r rfl).symm

theorem Valid.canonical_toTimeline (h : s.Valid) : s.toTimeline.Canonical := h.regular.tilesFrom

/-- Nothing of a valid sequence is lost in its timeline. -/
theorem Valid.ofTimeline_toTimeline (h : s.Valid) : ofTimeline s.toTimeline = s := by
  have hsegments : (ofTimeline s.toTimeline).segments = s.segments := map_segment_spansFrom
  have htotal : (ofTimeline s.toTimeline).total = s.total := by
    have hsum := TilesFrom.add_duration h.canonical_toTimeline
    rw [Nat.zero_add] at hsum
    calc (ofTimeline s.toTimeline).total = endFrom 0 s.toTimeline.spans := rfl
      _ = duration (ofTimeline s.toTimeline).segments := hsum.symm
      _ = duration s.segments := by rw [hsegments]
      _ = s.total := h.sum
  cases s
  exact congrArg₂ CompiledSequence.mk hsegments htotal

/-- Every valid sequence is the sequence of a canonical timeline. -/
theorem Valid.exists_timeline (h : s.Valid) : ∃ t : Timeline, t.Canonical ∧ ofTimeline t = s :=
  ⟨s.toTimeline, h.canonical_toTimeline, h.ofTimeline_toTimeline⟩

end CompiledSequence

end PulseTrain
