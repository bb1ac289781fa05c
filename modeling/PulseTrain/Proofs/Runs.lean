import PulseTrain.Proofs.Intervals
import PulseTrain.Proofs.Pattern

/-!
# Runs of a line

The runs of a line over a valid sequence are as long as they can be: none is empty, and neighbours
differ in level. Placed one behind the other, those that are on are the maximal intervals over which
the line is on. They are also what is found by going through the segments in order of time with
counters of 64 bits, as no sum on the way exceeds the total.
-/

namespace PulseTrain

/-- What a segment adds to the runs of a line. -/
def Segment.run (c : ChannelId) (g : Segment) : Run := ⟨g.duration, g.state.isOn c⟩

namespace Run

/-- Every run lasts some time, and no run continues the level of the one before it. -/
structure Regular (runs : List Run) : Prop where
  positive : ∀ r ∈ runs, 0 < r.duration
  alternates : runs.IsChain fun a b => a.on ≠ b.on

/-- The runs that are on, as intervals; the first run begins at `start`. -/
def onIntervals (start : Nat) : List Run → List Interval
  | [] => []
  | r :: rest =>
    if r.on then ⟨start, start + r.duration⟩ :: onIntervals (start + r.duration) rest
    else onIntervals (start + r.duration) rest

/-- Puts a run behind others, the latest first. A last run with the same level is lengthened
instead, and its new duration has to fit in a 64-bit counter. -/
def append? : (latestFirst : List Run) → Run → Option (List Run)
  | [], r => some [r]
  | last :: earlier, r =>
    if last.on = r.on then
      (Nanoseconds.add? last.duration r.duration).map fun d => ⟨d, r.on⟩ :: earlier
    else
      some (r :: last :: earlier)

variable {r : Run} {runs latestFirst : List Run} {start t : Nat} {i : Interval}

theorem onIntervals_cons : onIntervals start (r :: runs) =
    if r.on then ⟨start, start + r.duration⟩ :: onIntervals (start + r.duration) runs
    else onIntervals (start + r.duration) runs := rfl

theorem append?_cons {last : Run} {earlier : List Run} : append? (last :: earlier) r =
    if last.on = r.on then
      (Nanoseconds.add? last.duration r.duration).map fun d => ⟨d, r.on⟩ :: earlier
    else some (r :: last :: earlier) := rfl

theorem regular_nil : Regular [] := ⟨by simp, List.IsChain.nil⟩

theorem regular_cons : Regular (r :: runs) ↔
    0 < r.duration ∧ (∀ next ∈ runs.head?, r.on ≠ next.on) ∧ Regular runs := by
  constructor
  · rintro ⟨hpos, hchain⟩
    obtain ⟨hr, hruns⟩ := List.forall_mem_cons.mp hpos
    obtain ⟨hhead, hrest⟩ := List.isChain_cons.mp hchain
    exact ⟨hr, hhead, hruns, hrest⟩
  · rintro ⟨hr, hhead, hruns, hrest⟩
    exact ⟨List.forall_mem_cons.mpr ⟨hr, hruns⟩, List.isChain_cons.mpr ⟨hhead, hrest⟩⟩

theorem regular_prepend (hr : 0 < r.duration) (h : Regular runs) : Regular (r.prepend runs) := by
  cases runs with
  | nil => exact regular_cons.mpr ⟨hr, by simp, regular_nil⟩
  | cons first rest =>
    obtain ⟨hfirst, hhead, hrest⟩ := regular_cons.mp h
    rw [prepend_cons]
    split_ifs with hsame
    · rw [hsame] at hhead
      exact regular_cons.mpr ⟨Nat.add_pos_left hr _, hhead, hrest⟩
    · refine regular_cons.mpr ⟨hr, ?_, h⟩
      intro next hnext
      obtain rfl : first = next := by simpa using hnext
      exact fun heq => hsame heq.symm

/-! ## Durations -/

/-- Joining a run to the first one changes nothing about how long the line is on. -/
theorem total_filter_prepend (r : Run) (runs : List Run) :
    total ((r.prepend runs).filter on) = total ((r :: runs).filter on) := by
  cases runs with
  | nil => rfl
  | cons first rest =>
    rw [prepend_cons]
    split_ifs with hsame
    · cases hon : r.on with
      | true =>
        rw [hon] at hsame
        simp [hon, hsame, Nat.add_assoc]
      | false =>
        rw [hon] at hsame
        simp [hon, hsame]
    · rfl

/-! ## Intervals -/

/-- An instant lies in a run that is on iff the level at this instant is on. -/
theorem covered_onIntervals (runs : List Run) (start t : Nat) :
    Interval.Covered (onIntervals start runs) t ↔
      start ≤ t ∧ levelAt runs (t - start) = true := by
  induction runs generalizing start with
  | nil => simp [onIntervals, Interval.Covered, levelAt]
  | cons r rest ih =>
    rw [levelAt_cons_iff, ← ih, onIntervals_cons]
    cases hon : r.on with
    | true => simp [Interval.covered_cons, Interval.Contains]
    | false => simp

theorem le_start_of_mem (h : i ∈ onIntervals start runs) : start ≤ i.start := by
  induction runs generalizing start with
  | nil => simp [onIntervals] at h
  | cons r rest ih =>
    rw [onIntervals_cons] at h
    split_ifs at h
    · rcases List.mem_cons.mp h with rfl | h
      · exact le_rfl
      · have := ih h
        omega
    · have := ih h
      omega

/-- Between two runs that are on there is one that is off. -/
theorem separated_onIntervals (h : Regular runs) (start : Nat) :
    Interval.Separated (onIntervals start runs) := by
  induction runs generalizing start with
  | nil => exact Interval.separated_nil
  | cons r rest ih =>
    obtain ⟨hr, hhead, hrest⟩ := regular_cons.mp h
    rw [onIntervals_cons]
    split_ifs with hon
    · refine Interval.separated_cons.mpr ⟨Nat.lt_add_of_pos_right hr, ?_, ih hrest _⟩
      intro j hj
      cases rest with
      | nil => simp [onIntervals] at hj
      | cons next rest =>
        obtain ⟨hnext, -, -⟩ := regular_cons.mp hrest
        have hoff : next.on = false := by
          have hne := hhead next rfl
          rw [hon] at hne
          simpa using hne.symm
        rw [onIntervals_cons, hoff, if_neg Bool.false_ne_true] at hj
        have := le_start_of_mem hj
        show start + r.duration < j.start
        lia
    · exact ih hrest _

/-! ## In order of time -/

theorem prepend_prepend {s : Run} (h : r.on = s.on) :
    r.prepend (s.prepend runs) = prepend ⟨r.duration + s.duration, s.on⟩ runs := by
  cases runs with
  | nil => simp [prepend, h]
  | cons first rest =>
    rw [prepend_cons, prepend_cons]
    split_ifs with hsame
    · simp [prepend_cons, h, Nat.add_assoc]
    · simp [prepend_cons, h]

/-- Runs that alternate already are put in front of others as they are. -/
theorem foldl_prepend (h : latestFirst.IsChain fun a b => a.on ≠ b.on) :
    latestFirst.foldl (fun runs r => r.prepend runs) [] = latestFirst.reverse := by
  suffices hall : ∀ runs : List Run, (∀ a ∈ latestFirst.head?, ∀ b ∈ runs.head?, b.on ≠ a.on) →
      latestFirst.foldl (fun runs r => r.prepend runs) runs = latestFirst.reverse ++ runs by
    simpa using hall [] (by simp)
  induction latestFirst with
  | nil => simp
  | cons last earlier ih =>
    intro runs hruns
    obtain ⟨hhead, hearlier⟩ := List.isChain_cons.mp h
    have hprepend : last.prepend runs = last :: runs := by
      cases runs with
      | nil => rfl
      | cons first rest =>
        rw [prepend_cons, if_neg (hruns last rfl first rfl)]
    rw [List.foldl_cons, hprepend, ih hearlier]
    · simp
    · intro a ha b hb
      obtain rfl : last = b := by simpa using hb
      exact hhead a ha

/-- Going through runs in order of time joins them as the recursion from their end does. No sum that
is formed on the way exceeds the total. -/
theorem foldlM_append? (h : latestFirst.IsChain fun a b => a.on ≠ b.on)
    (hfits : total latestFirst + total runs < Nanoseconds.limit) :
    runs.foldlM append? latestFirst =
      some (latestFirst.foldl (fun runs r => r.prepend runs) (runs.foldr prepend [])).reverse := by
  induction runs generalizing latestFirst with
  | nil =>
    rw [List.foldlM_nil, List.foldr_nil, foldl_prepend h, List.reverse_reverse]
    rfl
  | cons r rest ih =>
    rw [total_cons] at hfits
    rw [List.foldlM_cons, List.foldr_cons]
    cases latestFirst with
    | nil => exact ih (List.isChain_singleton r) (by rw [total_cons, total_nil]; lia)
    | cons last earlier =>
      obtain ⟨hhead, hearlier⟩ := List.isChain_cons.mp h
      rw [total_cons] at hfits
      rw [append?_cons]
      split_ifs with hsame
      · have hsum : last.duration + r.duration < Nanoseconds.limit := by lia
        rw [Nanoseconds.add?, Nanoseconds.check?_of_lt hsum, List.foldl_cons, prepend_prepend hsame]
        refine ih (List.isChain_cons.mpr ⟨hsame ▸ hhead, hearlier⟩) ?_
        rw [total_cons]
        lia
      · refine ih (List.isChain_cons.mpr ⟨?_, h⟩) ?_
        · intro a ha
          obtain rfl : last = a := by simpa using ha
          exact fun heq => hsame heq.symm
        · rw [total_cons, total_cons]
          lia

end Run

namespace CompiledSequence

variable {s : CompiledSequence}

theorem channelPattern_eq (s : CompiledSequence) (c : ChannelId) :
    s.channelPattern c = (s.segments.map (Segment.run c)).foldr Run.prepend [] := by
  unfold channelPattern
  rw [List.foldr_map]
  rfl

theorem Valid.regular_channelPattern (h : s.Valid) (c : ChannelId) :
    Run.Regular (s.channelPattern c) := by
  have hpos := h.regular.positive
  unfold channelPattern
  generalize s.segments = segments at hpos ⊢
  induction segments with
  | nil => exact Run.regular_nil
  | cons g rest ih =>
    obtain ⟨hg, hrest⟩ := List.forall_mem_cons.mp hpos
    exact Run.regular_prepend hg (ih hrest)

theorem Valid.total_channelPattern (h : s.Valid) (c : ChannelId) :
    Run.total (s.channelPattern c) = s.total :=
  (s.total_channelPattern c).trans h.sum

/-- The runs of a line are found in order of time, and no counter overflows. -/
theorem Valid.foldlM_append? (h : s.Valid) (c : ChannelId) :
    (s.segments.map (Segment.run c)).foldlM Run.append? [] =
      some (s.channelPattern c).reverse := by
  have htotal : Run.total (s.segments.map (Segment.run c)) = s.total := by
    rw [← h.sum]
    induction s.segments with
    | nil => rfl
    | cons g rest ih => rw [List.map_cons, Run.total_cons, duration_cons, ih]; rfl
  have hfits : Run.total [] + Run.total (s.segments.map (Segment.run c)) < Nanoseconds.limit := by
    rw [htotal, Run.total_nil, Nat.zero_add]
    exact h.fits
  rw [Run.foldlM_append? List.IsChain.nil hfits, channelPattern_eq]
  rfl

theorem onTime_eq (s : CompiledSequence) (c : ChannelId) :
    s.onTime c = Run.total ((s.channelPattern c).filter Run.on) := by
  unfold onTime channelPattern
  induction s.segments with
  | nil => rfl
  | cons g rest ih =>
    rw [List.foldr_cons, List.foldr_cons, Run.total_filter_prepend, ih]
    cases g.state.isOn c with
    | true => simp
    | false => simp

/-- The runs that are on are the maximal intervals over which the line is on. -/
theorem Valid.components_onIntervals (h : s.Valid) (c : ChannelId) :
    Interval.Components (fun t => ∃ state, s.stateAt t = some state ∧ state.isOn c = true)
      (Run.onIntervals 0 (s.channelPattern c)) := by
  refine (Run.separated_onIntervals (h.regular_channelPattern c) 0).components fun t => ?_
  rw [Run.covered_onIntervals, Nat.sub_zero, levelAt_channelPattern]
  exact and_iff_right (Nat.zero_le t)

end CompiledSequence

end PulseTrain
