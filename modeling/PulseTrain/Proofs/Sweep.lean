import Mathlib.Data.List.Basic
import Mathlib.Data.List.Induction
import PulseTrain.Proofs.Builder
import PulseTrain.Proofs.Coverage
import PulseTrain.Timeline.Sweep

/-!
# The sweep renders what the pulses cover

The sweep over the edges of some pulses, in any order by time, renders the waveform of the pulses.
The invariant has two parts. The counters are the numbers of edges seen so far (`Tracks`), so they
never run below zero, as every pulse begins before it ends. And when the sweep has reached the time
of its next edge, the edges behind it are exactly those up to any instant before that edge, so the
lines with a positive count are the lines that are covered there.
-/

namespace PulseTrain

/-- The edges of some pulses in order of time. Simultaneous edges may stand in any order. -/
structure Schedule (events : List PulseEvent) (edges : List Edge) : Prop where
  /-- Each pulse has its two edges. -/
  perm : edges.Perm (events.flatMap PulseEvent.edges)
  /-- They are in order of time. -/
  sorted : edges.Pairwise fun a b => a.time ≤ b.time

theorem TimingSpec.schedule_edges (s : TimingSpec) : Schedule s.activeEvents s.edges := by
  refine ⟨List.mergeSort_perm _ _, ?_⟩
  have htrans : ∀ a b c : Edge, decide (a.time ≤ b.time) = true →
      decide (b.time ≤ c.time) = true → decide (a.time ≤ c.time) = true := by
    intro a b c hab hbc
    rw [decide_eq_true_eq] at *
    exact hab.trans hbc
  have htotal : ∀ a b : Edge, (decide (a.time ≤ b.time) || decide (b.time ≤ a.time)) = true :=
    fun a b => by simpa using le_total a.time b.time
  exact (List.pairwise_mergeSort htrans htotal _).imp of_decide_eq_true

namespace Sweep

/-! ## Counting edges -/

/-- How many of the edges begin (or end) a pulse on a line, at a time with the property `p`. -/
def tally (edges : List Edge) (rises : Bool) (c : ChannelId) (p : Nat → Bool) : Nat :=
  edges.countP fun e => decide (e.rises = rises ∧ e.channel = c) && p e.time

/-- All times. -/
def always : Nat → Bool := fun _ => true

/-- How many pulses on a line have a property. -/
def pulses (events : List PulseEvent) (c : ChannelId) (p : PulseEvent → Bool) : Nat :=
  events.countP fun e => decide (e.channel = c) && p e

variable {events : List PulseEvent} {edges xs ys : List Edge} {r : Bool} {c : ChannelId}
  {p q : Nat → Bool} {n t : Nat} {e : Edge} {s : Sweep}

@[simp] theorem tally_append : tally (xs ++ ys) r c p = tally xs r c p + tally ys r c p :=
  List.countP_append

/-- Counting stops where the property does: edges without it do not count. -/
theorem tally_eq_of_append (hxs : ∀ e ∈ xs, p e.time = q e.time)
    (hys : ∀ e ∈ ys, p e.time = false) :
    tally (xs ++ ys) r c p = tally xs r c q := by
  have hx : tally xs r c p = tally xs r c q :=
    List.countP_congr fun e he => by rw [hxs e he]
  have hy : tally ys r c p = 0 := List.countP_eq_zero.mpr fun e he => by simp [hys e he]
  rw [tally_append, hx, hy, Nat.add_zero]

/-- The rises among the edges of some pulses are their starts, and the falls are their ends. -/
theorem tally_eq_pulses (h : Schedule events edges) :
    tally edges r c p = pulses events c fun e => p (bif r then e.start else e.stop) := by
  unfold tally
  rw [h.perm.countP_eq]
  -- Only the pulses matter from here on, not the order of their edges.
  clear h
  induction events with
  | nil => rfl
  | cons e events ih =>
    rw [List.flatMap_cons, List.countP_append, ih]
    cases r <;> simp [pulses, PulseEvent.edges, List.countP_cons, Nat.add_comm]

/-- Of the pulses that have begun, some have ended, and the others cover the instant. -/
theorem pulses_started (hpos : ∀ e ∈ events, e.start < e.stop) :
    pulses events c (fun e => decide (e.start ≤ t)) =
      pulses events c (fun e => decide (e.stop ≤ t)) +
        pulses events c (fun e => decide (e.start ≤ t) && decide (t < e.stop)) := by
  induction events with
  | nil => rfl
  | cons e events ih =>
    have he := hpos e List.mem_cons_self
    have ih := ih fun e he => hpos e (List.mem_cons_of_mem _ he)
    simp only [pulses, List.countP_cons] at ih ⊢
    by_cases hc : e.channel = c
    · by_cases hstop : e.stop ≤ t
      · have hstart : e.start ≤ t := he.le.trans hstop
        simp [hc, hstop, hstart, not_lt.mpr hstop]
        omega
      · by_cases hstart : e.start ≤ t
        · simp [hc, hstop, hstart, not_le.mp hstop]
          omega
        · simp [hc, hstop, hstart]
          omega
    · simp [hc]
      omega

/-- Every pulse begins before it ends, so no part of the edges has more falls than rises. -/
theorem tally_false_le (h : Schedule events (xs ++ ys)) (hpos : ∀ e ∈ events, e.start < e.stop) :
    tally xs false c always ≤ tally xs true c always := by
  rcases List.eq_nil_or_concat' xs with rfl | ⟨zs, e, rfl⟩
  · exact le_rfl
  · have hbefore : ∀ a ∈ zs ++ [e], a.time ≤ e.time := by
      intro a ha
      rcases List.mem_append.mp ha with ha | ha
      · have hzs := (List.pairwise_append.mp h.sorted).1
        exact (List.pairwise_append.mp hzs).2.2 a ha e (List.mem_singleton_self e)
      · rw [List.mem_singleton.mp ha]
    have hafter : ∀ a ∈ ys, e.time ≤ a.time := fun a ha =>
      (List.pairwise_append.mp h.sorted).2.2 e (by simp) a ha
    -- What has ended by the time of the last edge began before it, and so its rise has been seen.
    calc tally (zs ++ [e]) false c always
        = tally (zs ++ [e]) false c (fun u => decide (u ≤ e.time)) :=
          List.countP_congr fun a ha => by simp [always, hbefore a ha]
      _ ≤ tally (zs ++ [e] ++ ys) false c (fun u => decide (u ≤ e.time)) :=
          (Nat.le_add_right _ _).trans_eq tally_append.symm
      _ = pulses events c (fun a => decide (a.stop ≤ e.time)) := tally_eq_pulses h
      _ ≤ pulses events c (fun a => decide (a.start < e.time)) := by
          refine List.countP_mono_left fun a ha => ?_
          have := hpos a ha
          simp only [Bool.and_eq_true, decide_eq_true_eq]
          exact fun ⟨hc, hle⟩ => ⟨hc, this.trans_le hle⟩
      _ = tally (zs ++ [e] ++ ys) true c (fun u => decide (u < e.time)) :=
          (tally_eq_pulses (r := true) (p := fun u => decide (u < e.time)) h).symm
      _ = tally (zs ++ [e]) true c (fun u => decide (u < e.time)) :=
          tally_eq_of_append (fun a _ => rfl) fun a ha => by simp [hafter a ha]
      _ ≤ tally (zs ++ [e]) true c always := by
          refine List.countP_mono_left fun a _ => ?_
          simp only [Bool.and_eq_true, always]
          exact fun ha => ⟨ha.1, trivial⟩

/-! ## The counters -/

/-- What the sweep knows after some edges: how many pulses are open on each line, and which lines
have any. -/
structure Tracks (n : Nat) (xs : List Edge) (s : Sweep) : Prop where
  /-- There is a counter for each line. -/
  length : s.openPulses.length = n
  /-- Each counter is the number of rises less the number of falls. -/
  balance : ∀ c, s.openOn c + tally xs false c always = tally xs true c always
  /-- A line is on while its counter is positive. -/
  level : ∀ c, s.level.isOn c = decide (0 < s.openOn c)

theorem tracks_start (n : Nat) : Tracks n [] (start n) := by
  have hopen : ∀ c, (start n).openOn c = 0 := by
    intro c
    unfold start openOn
    rw [List.getD_eq_getElem?_getD, List.getElem?_replicate]
    split_ifs <;> rfl
  refine ⟨List.length_replicate, fun c => ?_, fun c => ?_⟩
  · rw [hopen]
    rfl
  · rw [hopen]
    exact ChannelState.isOn_off c

theorem openOn_step (hlt : e.channel.index < s.openPulses.length) (c : ChannelId) :
    (s.step e).openOn c =
      if c = e.channel then
        if e.rises then s.openOn e.channel + 1 else s.openOn e.channel - 1
      else s.openOn c := by
  unfold openOn step
  dsimp only
  rw [List.getD_eq_getElem?_getD, List.getElem?_set]
  by_cases hc : c = e.channel
  · subst hc
    simp [hlt, openOn]
  · have hne : e.channel.index ≠ c.index := fun h => hc (by
      cases c
      exact congrArg ChannelId.mk h.symm)
    rw [if_neg hne, if_neg hc, List.getD_eq_getElem?_getD]

theorem tally_singleton : tally [e] r c always = if e.rises = r ∧ e.channel = c then 1 else 0 := by
  by_cases h : e.rises = r ∧ e.channel = c <;> simp [tally, always, h]

/-- One more edge on a declared line is counted, provided that no pulse ends that has not begun. -/
theorem Tracks.step (h : Tracks n xs s) (hn : n ≤ ChannelState.capacity)
    (he : e.channel.index < n)
    (hle : ∀ c, tally (xs ++ [e]) false c always ≤ tally (xs ++ [e]) true c always) :
    Tracks n (xs ++ [e]) (s.step e) := by
  have hopen := openOn_step (s := s) (e := e) (by rw [h.length]; exact he)
  refine ⟨?_, fun c => ?_, fun c => ?_⟩
  · simp [Sweep.step, h.length]
  · have hb := h.balance c
    have hlec := hle c
    simp only [tally_append, tally_singleton] at hlec ⊢
    rw [hopen]
    by_cases hc : c = e.channel
    · subst hc
      cases hr : e.rises
      · simp [hr] at hlec ⊢
        omega
      · simp
        omega
    · simp [hc, Ne.symm hc]
      exact hb
  · rw [hopen]
    have hset := ChannelState.isOn_set s.level (he.trans_le hn)
    simp only [Sweep.step]
    rw [hset]
    by_cases hc : c = e.channel
    · simp [hc]
    · simp [hc, h.level c]

theorem run_concat : run n (xs ++ [e]) = (run n xs).step e := by
  simp [run]

/-- The counters of the sweep are right after every part of the edges. -/
theorem run_tracks (h : Schedule events (xs ++ ys)) (hpos : ∀ e ∈ events, e.start < e.stop)
    (hn : n ≤ ChannelState.capacity) (hdecl : ∀ e ∈ xs ++ ys, e.channel.index < n) :
    Tracks n xs (run n xs) := by
  -- The sweep goes on at the end of the list, and the rest of the edges grows as it is cut back.
  induction xs using List.reverseRecOn generalizing ys with
  | nil => exact tracks_start n
  | append_singleton xs e ih =>
    have he := hdecl e (by simp)
    have hle := fun c => tally_false_le (c := c) h hpos
    have hsplit : xs ++ [e] ++ ys = xs ++ (e :: ys) := List.append_assoc xs [e] ys
    rw [hsplit] at h hdecl
    rw [run_concat]
    exact (ih h hdecl).step hn he hle

/-! ## The timeline -/

/-- The time of the last edge. -/
def lastTime (edges : List Edge) : Nat := (edges.getLast?.map Edge.time).getD 0

@[simp] theorem lastTime_concat : lastTime (xs ++ [e]) = e.time := by simp [lastTime]

theorem lastTime_le_iff (h : xs.Pairwise fun a b => a.time ≤ b.time) :
    lastTime xs ≤ t ↔ ∀ e ∈ xs, e.time ≤ t := by
  rcases List.eq_nil_or_concat' xs with rfl | ⟨zs, l, rfl⟩
  · simp [lastTime]
  · have hlast := (List.pairwise_append.mp h).2.2
    rw [lastTime_concat, List.forall_mem_append, List.forall_mem_singleton]
    constructor
    · intro hl
      exact ⟨fun e he => (hlast e he l (List.mem_singleton_self l)).trans hl, hl⟩
    · exact And.right

/-- Between two edges the lines are on that the pulses cover. -/
theorem level_eq (h : Schedule events (xs ++ ys)) (hpos : ∀ e ∈ events, e.start < e.stop)
    (hs : Tracks n xs s) (hxs : lastTime xs ≤ t) (hys : ∀ e ∈ ys, t < e.time) (c : ChannelId) :
    s.level.isOn c = true ↔ ∃ e ∈ events, e.Covers c t := by
  have hsorted := (List.pairwise_append.mp h.sorted).1
  have hcount : ∀ r, tally xs r c always = tally (xs ++ ys) r c fun u => decide (u ≤ t) := by
    intro r
    refine (tally_eq_of_append (fun e he => ?_) fun e he => ?_).symm
    · simpa [always] using (lastTime_le_iff hsorted).mp hxs e he
    · simpa using hys e he
  have hb := hs.balance c
  rw [hcount, hcount, tally_eq_pulses h, tally_eq_pulses h] at hb
  simp only [cond_false, cond_true] at hb
  rw [pulses_started hpos] at hb
  rw [hs.level, decide_eq_true_eq]
  have hopen : s.openOn c =
      pulses events c fun e => decide (e.start ≤ t) && decide (t < e.stop) := by
    omega
  rw [hopen, pulses, List.countP_pos_iff]
  simp [PulseEvent.Covers]

/-- The sweep renders the waveform of the pulses up to the last edge. -/
theorem run_renders {w : Waveform} (h : Schedule events (xs ++ ys))
    (hpos : ∀ e ∈ events, e.start < e.stop) (hn : n ≤ ChannelState.capacity)
    (hdecl : ∀ e ∈ xs ++ ys, e.channel.index < n)
    (hw : ∀ t c, (w t).isOn c = true ↔ ∃ e ∈ events, e.Covers c t) :
    (run n xs).builder.timeline.Renders (lastTime xs) w := by
  induction xs using List.reverseRecOn generalizing ys with
  | nil => exact TimelineBuilder.renders_empty w
  | append_singleton xs e ih =>
    have hsplit : xs ++ [e] ++ ys = xs ++ (e :: ys) := List.append_assoc xs [e] ys
    rw [hsplit] at h hdecl
    have htracks := run_tracks h hpos hn hdecl
    have hsorted := List.pairwise_append.mp h.sorted
    have hle : lastTime xs ≤ e.time :=
      (lastTime_le_iff hsorted.1).mpr fun a ha => hsorted.2.2 a ha e List.mem_cons_self
    have hnext : ∀ a ∈ e :: ys, e.time ≤ a.time := by
      intro a ha
      rcases List.mem_cons.mp ha with rfl | ha
      · exact le_rfl
      · exact (List.pairwise_cons.mp hsorted.2.1).1 a ha
    rw [run_concat, lastTime_concat]
    have hext := TimelineBuilder.extendTo_renders (m := e.time) (σ := (run n xs).level)
      (ih h hdecl) fun t hxs hte => ChannelState.ext_isOn fun c => by
        rw [Bool.eq_iff_iff, hw t c,
          level_eq h hpos htracks hxs (fun a ha => hte.trans_le (hnext a ha)) c]
    rwa [max_eq_right hle] at hext

end Sweep

/-! ## The timeline of a spec -/

namespace TimingSpec

/-- The first pulse on a line that is not declared. -/
def undeclared? (s : TimingSpec) (channels : ChannelSet) : Option PulseEvent :=
  s.events.find? fun e => !channels.contains e.channel

variable {spec : TimingSpec} {channels : ChannelSet} {edges : List Edge}

theorem index_lt_size (h : spec.undeclared? channels = none) {e : PulseEvent}
    (he : e ∈ spec.events) : e.channel.index < channels.size := by
  have hcontains := List.find?_eq_none.mp h e he
  simpa [ChannelStore.contains, ChannelStore.size] using hcontains

theorem isOn_waveform_of_declared (h : spec.undeclared? channels = none) (c : ChannelId) (t : Nat) :
    (spec.waveform t).isOn c = true ↔ spec.Covers c t :=
  isOn_waveform (fun _ he => (index_lt_size h he).trans_le channels.length_le) c t

/-- A line beyond the declared ones is never on. -/
theorem contains_of_covers (h : spec.undeclared? channels = none) {c : ChannelId} {t : Nat}
    (hc : spec.Covers c t) : channels.contains c = true := by
  obtain ⟨e, he, rfl, -⟩ := hc
  exact decide_eq_true (index_lt_size h he)

theorem index_lt_size_of_mem_edges (h : spec.undeclared? channels = none)
    (hedges : Schedule spec.activeEvents edges) {a : Edge} (ha : a ∈ edges) :
    a.channel.index < channels.size := by
  obtain ⟨e, he, hae⟩ := List.mem_flatMap.mp (hedges.perm.mem_iff.mp ha)
  have hlt := index_lt_size h (List.mem_filter.mp he).1
  simp only [PulseEvent.edges, List.mem_cons, List.not_mem_nil, or_false] at hae
  rcases hae with rfl | rfl
  · exact hlt
  · exact hlt

/-- The edges lie within the unit: each is the end of a pulse or comes before one. -/
theorem lastTime_le_unitLength (hedges : Schedule spec.activeEvents edges) :
    Sweep.lastTime edges ≤ spec.unitLength := by
  refine (Sweep.lastTime_le_iff hedges.sorted).mpr fun a ha => ?_
  obtain ⟨e, he, hae⟩ := List.mem_flatMap.mp (hedges.perm.mem_iff.mp ha)
  have hstop := stop_le_unitLength he
  simp only [PulseEvent.edges, List.mem_cons, List.not_mem_nil, or_false] at hae
  rcases hae with rfl | rfl
  · exact (start_lt_stop_of_mem he).le.trans hstop
  · exact hstop

theorem stop_le_lastTime (hedges : Schedule spec.activeEvents edges) {e : PulseEvent}
    (he : e ∈ spec.activeEvents) : e.stop ≤ Sweep.lastTime edges := by
  have hmem : ⟨e.stop, e.channel, false⟩ ∈ edges :=
    hedges.perm.mem_iff.mpr (List.mem_flatMap.mpr ⟨e, he, by simp [PulseEvent.edges]⟩)
  exact (Sweep.lastTime_le_iff hedges.sorted).mp le_rfl _ hmem

end TimingSpec

namespace Timeline

variable {spec : TimingSpec} {channels : ChannelSet} {edges : List Edge}

theorem forM_check (events : List PulseEvent) (channels : ChannelSet) :
    (events.forM fun e => channels.check e.channel) =
      match events.find? fun e => !channels.contains e.channel with
      | some e => .error (.unknownChannel e.channel channels.size)
      | none => .ok () := by
  induction events with
  | nil => rfl
  | cons e events ih =>
    rw [List.find?_cons, List.forM_eq_forM, List.forM_cons, ← List.forM_eq_forM]
    cases hc : channels.contains e.channel with
    | true =>
      have hcheck : channels.check e.channel = .ok () := by simp [ChannelStore.check, hc]
      rw [hcheck]
      exact ih
    | false =>
      have hcheck : channels.check e.channel =
          .error (.unknownChannel e.channel channels.size) := by
        simp [ChannelStore.check, hc]
      rw [hcheck]
      rfl

theorem ofSpec_of_undeclared {e : PulseEvent} (h : spec.undeclared? channels = some e) :
    ofSpec spec channels = .error (.unknownChannel e.channel channels.size) := by
  unfold TimingSpec.undeclared? at h
  unfold ofSpec
  rw [forM_check, h]
  rfl

theorem ofSpec_of_inactive (h : spec.undeclared? channels = none)
    (hempty : spec.activeEvents = []) :
    ofSpec spec channels = .error .emptyTimingSpec := by
  unfold TimingSpec.undeclared? at h
  unfold ofSpec
  rw [forM_check, h, hempty]
  rfl

/-- The sweep renders the waveform of the spec, in whichever order simultaneous edges come. -/
theorem swept_renders (h : spec.undeclared? channels = none)
    (hedges : Schedule spec.activeEvents edges) :
    (swept spec channels edges).Renders spec.unitLength spec.waveform := by
  have hw : ∀ t c, (spec.waveform t).isOn c = true ↔ ∃ e ∈ spec.activeEvents, e.Covers c t := by
    intro t c
    rw [TimingSpec.isOn_waveform_of_declared h, TimingSpec.covers_iff_active]
  have hrun : (Sweep.run channels.size edges).builder.timeline.Renders (Sweep.lastTime edges)
      spec.waveform := by
    refine @Sweep.run_renders spec.activeEvents edges [] _ _ ?_ ?_ channels.length_le ?_ hw
    · simpa using hedges
    · exact fun e he => TimingSpec.start_lt_stop_of_mem he
    · simpa using fun a ha => TimingSpec.index_lt_size_of_mem_edges h hedges ha
  -- After the last edge no line is on, so the minimum length of the unit adds darkness only.
  have hext := TimelineBuilder.extendTo_renders (m := spec.unitLength) (σ := .off) hrun
    fun t ht _ => ChannelState.ext_isOn fun c => by
      rw [ChannelState.isOn_off, Bool.eq_false_iff, Ne, hw]
      rintro ⟨e, he, -, -, hlt⟩
      exact absurd (hlt.trans_le (TimingSpec.stop_le_lastTime hedges he)) (not_lt.mpr ht)
  rwa [max_eq_right (TimingSpec.lastTime_le_unitLength hedges)] at hext

/-- The order of simultaneous edges makes no difference. -/
theorem swept_eq (h : spec.undeclared? channels = none)
    (hedges : Schedule spec.activeEvents edges) :
    swept spec channels edges = swept spec channels spec.edges :=
  (swept_renders h hedges).unique (swept_renders h spec.schedule_edges)

theorem ofSpec_eq_swept (h : spec.undeclared? channels = none) (hne : spec.activeEvents ≠ [])
    (hedges : Schedule spec.activeEvents edges) :
    ofSpec spec channels = .ok (swept spec channels edges) := by
  rw [swept_eq h hedges]
  have hlength := (swept_renders h spec.schedule_edges).length
  have hpos := TimingSpec.unitLength_pos hne
  unfold TimingSpec.undeclared? at h
  unfold ofSpec
  rw [forM_check, h]
  simp [bind, Except.bind, pure, Except.pure, hne, hlength, hpos.ne']

/-- A spec with declared lines and a pulse that has a duration has a timeline, and it renders the
waveform of the spec. -/
theorem ofSpec_renders (h : spec.undeclared? channels = none) (hne : spec.activeEvents ≠ []) :
    ∃ t, ofSpec spec channels = .ok t ∧ t.Renders spec.unitLength spec.waveform :=
  ⟨_, ofSpec_eq_swept h hne spec.schedule_edges, swept_renders h spec.schedule_edges⟩

/-- A spec is refused for one of two reasons, or it has a timeline. -/
theorem ofSpec_cases (spec : TimingSpec) (channels : ChannelSet) :
    (∃ c : ChannelId, ofSpec spec channels = .error (.unknownChannel c channels.size)) ∨
      ofSpec spec channels = .error .emptyTimingSpec ∨
        ∃ t, ofSpec spec channels = .ok t ∧ t.Renders spec.unitLength spec.waveform := by
  cases hdecl : spec.undeclared? channels with
  | some e => exact Or.inl ⟨e.channel, ofSpec_of_undeclared hdecl⟩
  | none =>
    by_cases hne : spec.activeEvents = []
    · exact Or.inr (Or.inl (ofSpec_of_inactive hdecl hne))
    · exact Or.inr (Or.inr (ofSpec_renders hdecl hne))

end Timeline

end PulseTrain
