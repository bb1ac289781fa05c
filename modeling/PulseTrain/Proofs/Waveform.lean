import Mathlib.Data.List.Chain
import Mathlib.Order.Nat
import Mathlib.Tactic.Tauto
import PulseTrain.Timeline.Basic

/-!
# Waveforms and the timelines that render them

What a timeline means is a waveform: the state at each instant below its length. `Renders` ties the
two together. Each stage of the compiler is described by what it does to the waveform, and these
descriptions determine the timeline, since a waveform has but one canonical timeline
(`Renders.unique`).
-/

namespace PulseTrain

/-- The state of all lines at each instant. -/
abbrev Waveform := Nat → ChannelState

namespace Timeline

variable {c n i : Nat} {s : Span} {spans : List Span} {w : Waveform}

/-! ## Partitions -/

/-- Where spans end that begin at `cursor`. -/
def endFrom (cursor : Nat) (spans : List Span) : Nat := (spans.getLast?.map Span.stop).getD cursor

theorem length_eq_endFrom (t : Timeline) : t.length = endFrom 0 t.spans := rfl

@[simp] theorem endFrom_nil : endFrom c [] = c := rfl

@[simp] theorem endFrom_cons : endFrom c (s :: spans) = endFrom s.stop spans := by
  cases spans with
  | nil => rfl
  | cons n rest => simp [endFrom, List.getLast?_cons]

@[simp] theorem endFrom_concat : endFrom c (spans ++ [s]) = s.stop := by
  simp [endFrom]

/-- The spans follow one another from `cursor` on, and none is empty. Neighbours may share a
state. -/
structure PartitionFrom (cursor : Nat) (spans : List Span) : Prop where
  /-- The first span starts at the cursor. -/
  start : ∀ s ∈ spans.head?, s.start = cursor
  /-- Each span starts where the one before it stops. -/
  follows : spans.IsChain fun a b => b.start = a.stop
  /-- No span is empty. -/
  nonempty : ∀ s ∈ spans, s.start < s.stop

theorem partitionFrom_nil : PartitionFrom c [] := ⟨by simp, List.IsChain.nil, by simp⟩

theorem partitionFrom_cons : PartitionFrom c (s :: spans) ↔
    s.start = c ∧ s.start < s.stop ∧ PartitionFrom s.stop spans := by
  constructor
  · rintro ⟨hstart, hfollows, hnonempty⟩
    rw [List.isChain_cons] at hfollows
    rw [List.forall_mem_cons] at hnonempty
    exact ⟨hstart s rfl, hnonempty.1, hfollows.1, hfollows.2, hnonempty.2⟩
  · rintro ⟨hstart, hlt, hrest⟩
    exact ⟨by simpa using hstart, List.isChain_cons.mpr ⟨hrest.start, hrest.follows⟩,
      List.forall_mem_cons.mpr ⟨hlt, hrest.nonempty⟩⟩

theorem PartitionFrom.le_endFrom (h : PartitionFrom c spans) : c ≤ endFrom c spans := by
  induction spans generalizing c with
  | nil => exact le_rfl
  | cons s rest ih =>
    obtain ⟨rfl, hlt, hrest⟩ := partitionFrom_cons.mp h
    rw [endFrom_cons]
    exact hlt.le.trans (ih hrest)

/-- The spans of a partition lie within it. -/
theorem PartitionFrom.bounds (h : PartitionFrom c spans) (hs : s ∈ spans) :
    c ≤ s.start ∧ s.start < s.stop ∧ s.stop ≤ endFrom c spans := by
  induction spans generalizing c with
  | nil => simp at hs
  | cons r rest ih =>
    obtain ⟨rfl, hlt, hrest⟩ := partitionFrom_cons.mp h
    rw [endFrom_cons]
    rcases List.mem_cons.mp hs with rfl | hs
    · exact ⟨le_rfl, hlt, hrest.le_endFrom⟩
    · obtain ⟨h1, h2, h3⟩ := ih hrest hs
      exact ⟨hlt.le.trans h1, h2, h3⟩

/-- A partition leaves no instant out. -/
theorem PartitionFrom.exists_contains (h : PartitionFrom c spans) (hci : c ≤ i)
    (hi : i < endFrom c spans) : ∃ s ∈ spans, s.Contains i := by
  induction spans generalizing c with
  | nil => rw [endFrom_nil] at hi; omega
  | cons r rest ih =>
    obtain ⟨rfl, hlt, hrest⟩ := partitionFrom_cons.mp h
    rw [endFrom_cons] at hi
    by_cases hr : i < r.stop
    · exact ⟨r, List.mem_cons_self, hci, hr⟩
    · obtain ⟨s, hs, hsi⟩ := ih hrest (Nat.le_of_not_lt hr) hi
      exact ⟨s, List.mem_cons_of_mem _ hs, hsi⟩

/-! ## Tilings -/

@[simp] theorem tilesFrom_nil : TilesFrom c [] := trivial

theorem tilesFrom_cons : TilesFrom c (s :: spans) ↔
    s.start = c ∧ s.start < s.stop ∧ (∀ n ∈ spans.head?, n.state ≠ s.state) ∧
      TilesFrom s.stop spans :=
  Iff.rfl

/-- A tiling is a partition in which neighbours differ in state. -/
theorem tilesFrom_iff : TilesFrom c spans ↔
    PartitionFrom c spans ∧ spans.IsChain fun a b => b.state ≠ a.state := by
  induction spans generalizing c with
  | nil => simp [partitionFrom_nil]
  | cons s rest ih =>
    rw [tilesFrom_cons, ih, partitionFrom_cons, List.isChain_cons]
    tauto

theorem TilesFrom.partition (h : TilesFrom c spans) : PartitionFrom c spans :=
  (tilesFrom_iff.mp h).1

/-- A tiling grows at its end by a span that starts there and differs in state from the last. -/
theorem tilesFrom_concat : TilesFrom c (spans ++ [s]) ↔
    TilesFrom c spans ∧ s.start = endFrom c spans ∧ s.start < s.stop ∧
      ∀ l ∈ spans.getLast?, l.state ≠ s.state := by
  induction spans generalizing c with
  | nil => simp [tilesFrom_cons]
  | cons r rest ih =>
    rw [List.cons_append, tilesFrom_cons, tilesFrom_cons, ih, endFrom_cons]
    cases rest with
    | nil => simp [ne_comm]; tauto
    | cons m rest => simp [List.getLast?_cons_cons]; tauto

theorem TilesFrom.le_endFrom (h : TilesFrom c spans) : c ≤ endFrom c spans :=
  h.partition.le_endFrom

theorem TilesFrom.bounds (h : TilesFrom c spans) (hs : s ∈ spans) :
    c ≤ s.start ∧ s.start < s.stop ∧ s.stop ≤ endFrom c spans :=
  h.partition.bounds hs

theorem TilesFrom.exists_contains (h : TilesFrom c spans) (hci : c ≤ i)
    (hi : i < endFrom c spans) : ∃ s ∈ spans, s.Contains i :=
  h.partition.exists_contains hci hi

/-- A span stops at the end of the tiling or where another one starts. -/
theorem TilesFrom.stop_eq (h : TilesFrom c spans) (hs : s ∈ spans) :
    s.stop = endFrom c spans ∨ ∃ r ∈ spans, r.start = s.stop := by
  induction spans generalizing c with
  | nil => simp at hs
  | cons m rest ih =>
    obtain ⟨rfl, -, -, hrest⟩ := h
    rw [endFrom_cons]
    rcases List.mem_cons.mp hs with rfl | hs
    · cases rest with
      | nil => exact Or.inl rfl
      | cons r rest => exact Or.inr ⟨r, by simp, hrest.1⟩
    · rcases ih hrest hs with hend | ⟨r, hr, hstart⟩
      · exact Or.inl hend
      · exact Or.inr ⟨r, List.mem_cons_of_mem _ hr, hstart⟩

/-! ## Rendering -/

/-- Each span holds the state that the waveform has over it. -/
def Shows (w : Waveform) (spans : List Span) : Prop :=
  ∀ s ∈ spans, ∀ i, s.Contains i → w i = s.state

theorem Shows.head (h : Shows w (s :: spans)) : ∀ i, s.Contains i → w i = s.state :=
  h s List.mem_cons_self

theorem Shows.tail (h : Shows w (s :: spans)) : Shows w spans := fun r hr =>
  h r (List.mem_cons_of_mem _ hr)

theorem shows_concat : Shows w (spans ++ [s]) ↔
    Shows w spans ∧ ∀ i, s.Contains i → w i = s.state := by
  simp only [Shows, List.mem_append, List.mem_singleton, or_imp, forall_and, forall_eq]

/-- The timeline is canonical, ends at `n`, and holds the waveform up to there. -/
structure Renders (t : Timeline) (n : Nat) (w : Waveform) : Prop where
  /-- The spans tile an interval from zero, and neighbours differ. -/
  canonical : t.Canonical
  /-- The interval ends at `n`. -/
  length : t.length = n
  /-- The spans hold the waveform. -/
  shows : Shows w t.spans

theorem renders_empty (w : Waveform) : empty.Renders 0 w :=
  ⟨trivial, rfl, fun s hs => by simp [empty] at hs⟩

theorem renders_concat : (⟨spans ++ [s]⟩ : Timeline).Renders n w ↔
    (TilesFrom 0 spans ∧ s.start = endFrom 0 spans ∧ s.start < s.stop ∧
      ∀ l ∈ spans.getLast?, l.state ≠ s.state) ∧
    s.stop = n ∧ Shows w spans ∧ ∀ i, s.Contains i → w i = s.state := by
  constructor
  · rintro ⟨hcan, hlen, hshow⟩
    exact ⟨tilesFrom_concat.mp hcan, endFrom_concat.symm.trans hlen, shows_concat.mp hshow⟩
  · rintro ⟨htiles, hstop, hshow⟩
    exact ⟨tilesFrom_concat.mpr htiles, endFrom_concat.trans hstop, shows_concat.mpr hshow⟩

/-- Only the instants below the length matter. -/
theorem Renders.congr {t : Timeline} {v : Waveform} (h : t.Renders n w)
    (hv : ∀ i < n, v i = w i) : t.Renders n v := by
  refine ⟨h.canonical, h.length, fun s hs i hi => ?_⟩
  have hstop := (TilesFrom.bounds h.canonical hs).2.2
  rw [← length_eq_endFrom, h.length] at hstop
  rw [hv i (hi.2.trans_le hstop)]
  exact h.shows s hs i hi

/-- Every partition shows some waveform. -/
theorem PartitionFrom.exists_shows (h : PartitionFrom c spans) : ∃ w, Shows w spans := by
  induction spans generalizing c with
  | nil => exact ⟨fun _ => .off, fun s hs => by simp at hs⟩
  | cons s rest ih =>
    obtain ⟨-, -, hrest⟩ := partitionFrom_cons.mp h
    obtain ⟨w, hw⟩ := ih hrest
    refine ⟨fun i => if i < s.stop then s.state else w i, fun r hr i hi => ?_⟩
    rcases List.mem_cons.mp hr with rfl | hr
    · simp [hi.2]
    · have hle := (hrest.bounds hr).1.trans hi.1
      simp only [Nat.not_lt.mpr hle, if_false]
      exact hw r hr i hi

/-- Every canonical timeline renders some waveform. -/
theorem Canonical.exists_renders {t : Timeline} (h : t.Canonical) :
    ∃ w, t.Renders t.length w := by
  obtain ⟨w, hw⟩ := (TilesFrom.partition h).exists_shows
  exact ⟨w, h, rfl, hw⟩

/-! ## One waveform, one timeline -/

/-- Of two tilings of one interval that show one waveform, neither has the shorter first span: its
second span would have another state, at an instant that lies within the longer. -/
theorem TilesFrom.stop_le {x y : Span} {xs ys : List Span} (hx : TilesFrom c (x :: xs))
    (hy : TilesFrom c (y :: ys)) (hend : endFrom c (x :: xs) = endFrom c (y :: ys))
    (hxw : Shows w (x :: xs)) (hyw : Shows w (y :: ys)) : y.stop ≤ x.stop := by
  by_contra hlt
  obtain ⟨rfl, hxlt, hdiff, hxs⟩ := hx
  obtain ⟨hyc, -, -, hys⟩ := hy
  rw [endFrom_cons, endFrom_cons] at hend
  cases xs with
  | nil =>
    have := hys.le_endFrom
    rw [endFrom_nil] at hend
    lia
  | cons z zs =>
    obtain ⟨hzc, hzlt, -⟩ := hxs
    apply hdiff z rfl
    calc z.state = w z.start := (hxw.tail.head z.start ⟨le_rfl, hzlt⟩).symm
      _ = y.state := hyw.head z.start ⟨by lia, by lia⟩
      _ = w x.start := (hyw.head x.start ⟨by lia, by lia⟩).symm
      _ = x.state := hxw.head x.start ⟨le_rfl, hxlt⟩

theorem TilesFrom.ne_endFrom (h : TilesFrom c (s :: spans)) : c ≠ endFrom c (s :: spans) := by
  obtain ⟨rfl, hlt, -, hrest⟩ := h
  rw [endFrom_cons]
  exact (hlt.trans_le hrest.le_endFrom).ne

theorem Canonical.length_pos {t : Timeline} (h : t.Canonical) (hne : t.spans ≠ []) :
    0 < t.length := by
  obtain ⟨s, rest, hspans⟩ := List.exists_cons_of_ne_nil hne
  unfold Canonical at h
  rw [length_eq_endFrom, hspans]
  rw [hspans] at h
  exact Nat.pos_of_ne_zero h.ne_endFrom.symm

/-- Two tilings of one interval that show one waveform are equal. -/
theorem TilesFrom.eq_of_shows {xs ys : List Span} (hx : TilesFrom c xs) (hy : TilesFrom c ys)
    (hend : endFrom c xs = endFrom c ys) (hxw : Shows w xs) (hyw : Shows w ys) : xs = ys := by
  induction xs generalizing c ys with
  | nil =>
    cases ys with
    | nil => rfl
    | cons y ys => exact absurd hend hy.ne_endFrom
  | cons x xs ih =>
    cases ys with
    | nil => exact absurd hend.symm hx.ne_endFrom
    | cons y ys =>
      -- By symmetry neither of the first spans is the shorter one.
      have hstop : x.stop = y.stop :=
        le_antisymm (hy.stop_le hx hend.symm hyw hxw) (hx.stop_le hy hend hxw hyw)
      obtain ⟨hxc, hxlt, -, hxs⟩ := hx
      obtain ⟨hyc, hylt, -, hys⟩ := hy
      have hstate : x.state = y.state :=
        (hxw.head c ⟨hxc.le, by lia⟩).symm.trans (hyw.head c ⟨hyc.le, by lia⟩)
      have hxy : x = y := by
        cases x
        cases y
        simp_all
      subst hxy
      rw [endFrom_cons, endFrom_cons] at hend
      rw [ih hxs hys hend hxw.tail hyw.tail]

/-- A waveform has at most one timeline. -/
theorem Renders.unique {t u : Timeline} (ht : t.Renders n w) (hu : u.Renders n w) : t = u := by
  have hend : endFrom 0 t.spans = endFrom 0 u.spans := ht.length.trans hu.length.symm
  have hspans := TilesFrom.eq_of_shows ht.canonical hu.canonical hend ht.shows hu.shows
  cases t
  cases u
  exact congrArg _ hspans

/-! ## Breakpoints -/

/-- The waveform changes where a span other than the first starts. -/
theorem TilesFrom.ne_at_start (h : TilesFrom c spans) (hw : Shows w spans) (hs : s ∈ spans)
    (hc : c < s.start) : w (s.start - 1) ≠ w s.start := by
  induction spans generalizing c with
  | nil => simp at hs
  | cons r rest ih =>
    obtain ⟨rfl, hlt, hdiff, hrest⟩ := h
    rcases List.mem_cons.mp hs with rfl | hs
    · exact absurd hc (lt_irrefl _)
    · have hle := (hrest.bounds hs).1
      rcases hle.lt_or_eq with hlater | heq
      · exact ih hrest hw.tail hs hlater
      · -- The span starts where `r` stops, so it is the one behind `r`.
        cases rest with
        | nil => simp at hs
        | cons m rest =>
          obtain ⟨hmc, hmlt, -, hms⟩ := hrest
          have hsm : s = m := by
            rcases List.mem_cons.mp hs with hsm | hs
            · exact hsm
            · have := (hms.bounds hs).1
              lia
          subst hsm
          rw [hw.head _ ⟨by lia, by lia⟩, hw.tail.head _ ⟨le_rfl, hmlt⟩]
          exact (hdiff s rfl).symm

end Timeline

end PulseTrain
