import PulseTrain.Proofs.Frozen
import PulseTrain.Sequence.Fingerprint

/-!
# What fingerprints tell

Valid sequences that play the same waveform are one sequence, so they have one fingerprint. In the
other direction, the multiplier is odd and every step of the hash can be undone. So a single word
that differs shows in the fingerprint, however many words come before and behind it.
-/

namespace PulseTrain

namespace Fingerprint

variable {h h' u v : BitVec 64} {before after words : List (BitVec 64)} {r : Nat}

/-- What undoes a multiplication by the multiplier. -/
def inverse : BitVec 64 := 0x781494a55daaed0d#64

theorem multiplier_mul_inverse : multiplier * inverse = 1#64 := by decide

theorem mul_multiplier_inj : h * multiplier = h' * multiplier ↔ h = h' := by
  constructor
  · intro heq
    calc h = h * multiplier * inverse := by
          rw [BitVec.mul_assoc, multiplier_mul_inverse, BitVec.mul_one]
      _ = h' * multiplier * inverse := by rw [heq]
      _ = h' := by rw [BitVec.mul_assoc, multiplier_mul_inverse, BitVec.mul_one]
  · rintro rfl
    rfl

/-- A step is injective in the word that it takes in. -/
theorem absorb_inj_right : absorb h u = absorb h v ↔ u = v := by
  unfold absorb
  rw [mul_multiplier_inj, BitVec.add_right_inj]

/-- It is also injective in the hash so far. -/
theorem absorb_inj_left : absorb h u = absorb h' u ↔ h = h' := by
  unfold absorb
  rw [mul_multiplier_inj, BitVec.add_left_inj]

theorem foldl_absorb_inj : words.foldl absorb h = words.foldl absorb h' ↔ h = h' := by
  induction words generalizing h h' with
  | nil => exact Iff.rfl
  | cons u rest ih => rw [List.foldl_cons, List.foldl_cons, ih, absorb_inj_left]

theorem rotateLeft_inj (hr : r < 64) : h.rotateLeft r = h'.rotateLeft r ↔ h = h' := by
  constructor
  · intro heq
    have hbit : ∀ j, (h.rotateLeft r).getLsbD j = (h'.rotateLeft r).getLsbD j := fun j => by
      rw [heq]
    simp only [BitVec.getLsbD_rotateLeft, Nat.mod_eq_of_lt hr] at hbit
    refine BitVec.eq_of_getLsbD_eq fun i hi => ?_
    -- The rotation has moved the highest bits to the low end, and the others up.
    by_cases hup : i + r < 64
    · have hmoved := hbit (i + r)
      simpa [hup] using hmoved
    · have hmoved := hbit (i + r - 64)
      have hlow : i + r - 64 < r := by omega
      have hback : 64 - r + (i + r - 64) = i := by omega
      simpa [hlow, hback] using hmoved
  · rintro rfl
    rfl

/-- A duration that fits in the counter is not confused with another one. -/
theorem ofNat_inj {d e : Nat} (hd : d < Nanoseconds.limit) (he : e < Nanoseconds.limit) :
    BitVec.ofNat 64 d = BitVec.ofNat 64 e ↔ d = e := by
  have hd' : d % 2 ^ 64 = d := Nat.mod_eq_of_lt hd
  have he' : e % 2 ^ 64 = e := Nat.mod_eq_of_lt he
  rw [← BitVec.toNat_inj, BitVec.toNat_ofNat, BitVec.toNat_ofNat, hd', he']

/-- Of two lists that differ at most in one word, the hashes are equal iff the words are. -/
theorem ofWords_inj :
    ofWords (before ++ u :: after) = ofWords (before ++ v :: after) ↔ u = v := by
  unfold ofWords
  rw [rotateLeft_inj (by decide), List.foldl_append, List.foldl_append, List.foldl_cons,
    List.foldl_cons, foldl_absorb_inj, absorb_inj_right]

end Fingerprint

namespace CompiledSequence

variable {segments : List Segment} {s s' : CompiledSequence} {n : Nat} {w : Waveform}
  {before after : List Segment} {g g' : Segment}

/-! ## One waveform, one fingerprint -/

/-- Every waveform that lasts as long as a counter can tell has just one valid sequence. -/
theorem existsUnique_valid (w : Waveform) (hn : n < Nanoseconds.limit) :
    ∃! s : CompiledSequence, s.Valid ∧ s.total = n ∧ ∀ t < n, s.stateAt t = some (w t) := by
  obtain ⟨b, hb⟩ := TimelineBuilder.exists_renders n w
  refine ⟨ofTimeline b.timeline, ⟨hb.valid hn, hb.length, fun t ht => ?_⟩, ?_⟩
  · rw [hb.stateAt_ofTimeline, if_pos ht]
  · rintro s ⟨hvalid, rfl, hplays⟩
    refine hvalid.eq_of_stateAt (hb.valid hn) hb.length.symm fun t ht => ?_
    rw [hplays t ht, hb.stateAt_ofTimeline, if_pos ht]

/-- One waveform has one representation and one fingerprint. Sequences from outside that are
accepted, last equally long and have the same state at each instant have the same segments, so a
sequence that is kept under its fingerprint is found again; and there is such a sequence for every
waveform whose length fits in a 64-bit counter. -/
theorem fingerprint_of_waveform :
    (∀ segments total s segments' total' s',
      ofSegments segments total = .ok s → ofSegments segments' total' = .ok s' →
      s.total = s'.total → (∀ t < s.total, s.stateAt t = s'.stateAt t) →
        s.segments = s'.segments ∧ s = s' ∧ s.fingerprint = s'.fingerprint) ∧
    ∀ (w : Waveform) (n : Nat), n < Nanoseconds.limit →
      ∃! s, ofSegments s.segments s.total = .ok s ∧ s.total = n ∧
        ∀ t < n, s.stateAt t = some (w t) := by
  constructor
  · intro segments total s segments' total' s' h h' htotal hstate
    obtain ⟨-, hvalid⟩ := ofSegments_eq_ok_iff.mp h
    obtain ⟨-, hvalid'⟩ := ofSegments_eq_ok_iff.mp h'
    obtain rfl := hvalid.eq_of_stateAt hvalid' htotal hstate
    exact ⟨rfl, rfl, rfl⟩
  · intro w n hn
    have haccepted : ∀ s, ofSegments s.segments s.total = .ok s ↔ s.Valid := fun s => by
      rw [ofSegments_eq_ok_iff]
      exact and_iff_right rfl
    simp only [haccepted]
    exact existsUnique_valid w hn

/-- A pulse that is pushed in two pieces is the same as one that is written down as a whole. -/
theorem fingerprint_of_waveform_pieces : ∃ s b,
    ofSegments [⟨.ofNat 1, 8⟩, ⟨.off, 16⟩] 24 = .ok s ∧
    TimelineBuilder.empty.appendSegments [⟨.ofNat 1, 3⟩, ⟨.ofNat 1, 5⟩, ⟨.off, 16⟩] = .ok b ∧
    s = ofTimeline b.timeline ∧ s.fingerprint = (ofTimeline b.timeline).fingerprint := by
  let b : TimelineBuilder := ⟨[⟨8, 24, .off⟩, ⟨0, 8, .ofNat 1⟩]⟩
  have hwhole : ofSegments [⟨.ofNat 1, 8⟩, ⟨.off, 16⟩] 24 =
      .ok ⟨[⟨.ofNat 1, 8⟩, ⟨.off, 16⟩], 24⟩ := rfl
  have hpieces : ofSegments (ofTimeline b.timeline).segments 24 = .ok (ofTimeline b.timeline) := rfl
  obtain ⟨honce, -⟩ := fingerprint_of_waveform
  obtain ⟨-, heq, hsame⟩ := honce _ _ _ _ _ _ hwhole hpieces rfl (by decide)
  exact ⟨_, b, hwhole, rfl, heq, hsame⟩

/-! ## One change, another fingerprint -/

theorem words_eq (h : s.segments = before ++ g :: after) :
    s.words = (BitVec.ofNat 64 (before.length + (after.length + 1)) ::
      before.flatMap Segment.words) ++
        g.state.bits :: BitVec.ofNat 64 g.duration :: after.flatMap Segment.words := by
  unfold words size
  rw [h, List.length_append, List.length_cons, List.flatMap_append, List.flatMap_cons]
  rfl

theorem fingerprint_inj_state (h : s.segments = before ++ g :: after)
    (h' : s'.segments = before ++ g' :: after) (hduration : g.duration = g'.duration) :
    s.fingerprint = s'.fingerprint ↔ g.state = g'.state := by
  unfold fingerprint
  rw [words_eq h, words_eq h', hduration, Fingerprint.ofWords_inj, ChannelState.bits_inj]

theorem fingerprint_inj_duration (h : s.segments = before ++ g :: after)
    (h' : s'.segments = before ++ g' :: after) (hstate : g.state = g'.state)
    (hfits : g.duration < Nanoseconds.limit) (hfits' : g'.duration < Nanoseconds.limit) :
    s.fingerprint = s'.fingerprint ↔ g.duration = g'.duration := by
  -- The state is the last of the words that come before the duration.
  have hbehind : ∀ (xs ys : List (BitVec 64)) (u : BitVec 64), xs ++ g'.state.bits :: u :: ys =
      (xs ++ [g'.state.bits]) ++ u :: ys := fun xs ys u => List.append_cons xs _ _
  unfold fingerprint
  rw [words_eq h, words_eq h', hstate, hbehind, hbehind, Fingerprint.ofWords_inj,
    Fingerprint.ofNat_inj hfits hfits']

/-- Lists that agree but at one position are split there. -/
theorem exists_split {i : Nat} {xs ys : List Segment} (hg : xs[i]? = some g)
    (hg' : ys[i]? = some g') (hothers : ∀ j ≠ i, xs[j]? = ys[j]?) :
    ∃ before after, xs = before ++ g :: after ∧ ys = before ++ g' :: after := by
  obtain ⟨hi, rfl⟩ := List.getElem?_eq_some_iff.mp hg
  have hys : ys = xs.set i g' := by
    refine List.ext_getElem? fun j => ?_
    by_cases hj : j = i
    · rw [hj, hg', List.getElem?_set_self hi]
    · rw [← hothers j hj, List.getElem?_set_ne (Ne.symm hj)]
  refine ⟨xs.take i, xs.drop (i + 1), ?_, ?_⟩
  · rw [← List.drop_eq_getElem_cons hi, List.take_append_drop]
  · rw [hys, List.set_eq_take_append_cons_drop, if_pos hi]

/-- A single change always shows. Sequences that agree in all segments but one, and there differ in
the state or in the duration, but not in both, have different fingerprints, as long as the durations
fit in the counter. -/
theorem fingerprint_ne_of_single_change {s s' : CompiledSequence} {i : Nat} {g g' : Segment}
    (hg : s.segments[i]? = some g) (hg' : s'.segments[i]? = some g')
    (hothers : ∀ j ≠ i, s.segments[j]? = s'.segments[j]?)
    (hfits : g.duration < Nanoseconds.limit) (hfits' : g'.duration < Nanoseconds.limit)
    (hchange : (g.state ≠ g'.state ∧ g.duration = g'.duration) ∨
      (g.state = g'.state ∧ g.duration ≠ g'.duration)) :
    s.fingerprint ≠ s'.fingerprint := by
  obtain ⟨before, after, h, h'⟩ := exists_split hg hg' hothers
  rcases hchange with ⟨hstate, hduration⟩ | ⟨hstate, hduration⟩
  · rwa [Ne, fingerprint_inj_state h h' hduration]
  · rwa [Ne, fingerprint_inj_duration h h' hstate hfits hfits']

/-- The second of three segments is made one tick longer, or loses the highest line. -/
theorem fingerprint_ne_of_single_change_second :
    let s (g : Segment) : CompiledSequence := ⟨[⟨.ofNat 1, 1000⟩, g, ⟨.off, 96⟩], 1200⟩
    let g : Segment := ⟨.ofChannels [⟨1⟩, ⟨63⟩], 104⟩
    (s g).fingerprint ≠ (s ⟨g.state, 112⟩).fingerprint ∧
      (s g).fingerprint ≠ (s ⟨.ofChannels [⟨1⟩], 104⟩).fingerprint := by
  intro s g
  have hsecond : ∀ g, (s g).segments[1]? = some g := fun g => rfl
  have hothers : ∀ g g', ∀ j ≠ 1, (s g).segments[j]? = (s g').segments[j]? := by
    intro g g' j hj
    match j with
    | 0 => rfl
    | 1 => exact absurd rfl hj
    | _ + 2 => rfl
  constructor
  · exact fingerprint_ne_of_single_change (hsecond g) (hsecond _) (hothers g _) (by decide)
      (by decide) (.inr ⟨rfl, by decide⟩)
  · exact fingerprint_ne_of_single_change (hsecond g) (hsecond _) (hothers g _) (by decide)
      (by decide) (.inl ⟨by decide, rfl⟩)

end CompiledSequence

end PulseTrain
