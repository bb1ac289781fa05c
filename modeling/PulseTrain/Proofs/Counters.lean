import PulseTrain.Proofs.Outcome

/-!
# The counters of the sweep

The sweep counts open pulses with 32 bits for each line. Every pulse begins before it ends and is
counted once, so in any order of simultaneous edges no counter ends a pulse that is not open, and
none counts more pulses than there are. When all edges have been seen, no pulse is open.
-/

namespace PulseTrain

namespace Sweep

/-- The counters have room for an edge. -/
structure Admits (s : Sweep) (e : Edge) : Prop where
  /-- The line has a counter. -/
  counter : e.channel.index < s.openPulses.length
  /-- The line has a place in a state. -/
  line : e.channel.index < ChannelState.capacity
  /-- One more pulse can be counted in 32 bits. -/
  rise : e.rises = true → s.openOn e.channel + 1 < Word.limit32
  /-- There is a pulse to end. -/
  fall : e.rises = false → 0 < s.openOn e.channel

variable {events : List PulseEvent} {edges xs ys : List Edge} {c : ChannelId} {n : Nat} {e : Edge}
  {s : Sweep}

/-- As many pulses end as begin. -/
theorem tally_false_eq_true (h : Schedule events edges) :
    tally edges false c always = tally edges true c always := by
  rw [tally_eq_pulses h, tally_eq_pulses h]
  rfl

/-- No line has more pulses than there are. -/
theorem tally_le_length (h : Schedule events (xs ++ ys)) :
    tally xs true c always ≤ events.length :=
  calc tally xs true c always
      ≤ tally (xs ++ ys) true c always := (Nat.le_add_right _ _).trans_eq tally_append.symm
    _ = pulses events c fun e => always (bif true then e.start else e.stop) := tally_eq_pulses h
    _ ≤ events.length := List.countP_le_length

/-- Whichever part of the edges has been seen, there is room for the next one. -/
theorem run_admits (h : Schedule events (xs ++ e :: ys)) (hpos : ∀ e ∈ events, e.start < e.stop)
    (hn : n ≤ ChannelState.capacity) (hdecl : ∀ a ∈ xs ++ e :: ys, a.channel.index < n)
    (hfew : events.length < Word.limit32) : (run n xs).Admits e := by
  have htracks := run_tracks h hpos hn hdecl
  have hindex := hdecl e (by simp)
  have hbalance := htracks.balance e.channel
  -- The counts are compared when the edge has been seen.
  rw [List.append_cons] at h
  refine ⟨htracks.length.symm ▸ hindex, hindex.trans_le hn, fun hrise => ?_, fun hfall => ?_⟩
  · have hle := tally_le_length (c := e.channel) h
    rw [tally_append, tally_singleton, if_pos ⟨hrise, rfl⟩] at hle
    omega
  · have hle := tally_false_le (c := e.channel) h hpos
    simp only [tally_append, tally_singleton, hfall, and_self, if_true, Bool.false_eq_true,
      false_and, if_false] at hle
    omega

theorem openPulses_eq (hlength : s.openPulses.length = n) (hopen : ∀ c, s.openOn c = 0) :
    s.openPulses = List.replicate n 0 := by
  refine List.eq_replicate_iff.mpr ⟨hlength, fun m hm => ?_⟩
  obtain ⟨i, hi, rfl⟩ := List.getElem_of_mem hm
  have hzero := hopen ⟨i⟩
  unfold openOn at hzero
  rw [List.getD_eq_getElem?_getD, List.getElem?_eq_getElem hi] at hzero
  exact hzero

/-- After the last edge no pulse is open. -/
theorem run_idle (h : Schedule events edges) (hpos : ∀ e ∈ events, e.start < e.stop)
    (hn : n ≤ ChannelState.capacity) (hdecl : ∀ a ∈ edges, a.channel.index < n) :
    (run n edges).openPulses = List.replicate n 0 ∧ (run n edges).level = .off := by
  have htracks : Tracks n edges (run n edges) := by
    rw [← List.append_nil edges] at h hdecl
    exact run_tracks h hpos hn hdecl
  have hopen : ∀ c, (run n edges).openOn c = 0 := by
    intro c
    have hbalance := htracks.balance c
    rw [tally_false_eq_true h] at hbalance
    omega
  refine ⟨openPulses_eq htracks.length hopen, ChannelState.ext_isOn fun c => ?_⟩
  rw [htracks.level, hopen, ChannelState.isOn_off]
  rfl

open Timeline

/-- Let all pulses be on declared lines, and let there be fewer than 32 bits can count. However the
edges of the pulses with a duration are put in order of time, there is a counter for each when it
comes, no counter goes below zero or beyond its range, and in the end all counters are zero and all
lines are off. The timeline is the same for all of these orders. -/
theorem run_schedule (spec : TimingSpec) (channels : ChannelSet) (edges : List Edge)
    (hdecl : ∀ e ∈ spec.events, e.channel.index < channels.size)
    (hfew : spec.events.length < Word.limit32)
    (hedges : Schedule spec.activeEvents edges) :
    (∀ before e after, edges = before ++ e :: after → (run channels.size before).Admits e) ∧
    (run channels.size edges).openPulses = List.replicate channels.size 0 ∧
    (run channels.size edges).level = .off ∧
    swept spec channels edges = swept spec channels spec.edges ∧
    (spec.activeEvents ≠ [] → ofSpec spec channels = .ok (swept spec channels edges)) := by
  have hnone := TimingSpec.undeclared?_eq_none_iff.mpr hdecl
  have hpos : ∀ e ∈ spec.activeEvents, e.start < e.stop := fun e he =>
    TimingSpec.start_lt_stop_of_mem he
  have hindex : ∀ a ∈ edges, a.channel.index < channels.size := fun a ha =>
    TimingSpec.index_lt_size_of_mem_edges hnone hedges ha
  have hcount : spec.activeEvents.length < Word.limit32 :=
    (List.length_filter_le _ _).trans_lt hfew
  obtain ⟨hopen, hlevel⟩ := run_idle hedges hpos channels.length_le hindex
  refine ⟨?_, hopen, hlevel, swept_eq hnone hedges, fun hne => ofSpec_eq_swept hnone hne hedges⟩
  rintro before e after rfl
  exact run_admits hedges hpos channels.length_le hindex hcount

/-- Two pulses on one line meet. The first may be ended before the second is opened, or after it. -/
theorem run_schedule_meeting : ∃ spec : TimingSpec,
    spec.events = [⟨⟨1⟩, 0, 4⟩, ⟨⟨1⟩, 4, 4⟩] ∧
      let early : List Edge := [⟨0, ⟨1⟩, true⟩, ⟨4, ⟨1⟩, false⟩, ⟨4, ⟨1⟩, true⟩, ⟨8, ⟨1⟩, false⟩]
      let late : List Edge := [⟨0, ⟨1⟩, true⟩, ⟨4, ⟨1⟩, true⟩, ⟨4, ⟨1⟩, false⟩, ⟨8, ⟨1⟩, false⟩]
      swept spec .odmr early = swept spec .odmr late ∧
        ofSpec spec .odmr = .ok (swept spec .odmr late) ∧
        0 < (run 3 [⟨0, ⟨1⟩, true⟩, ⟨4, ⟨1⟩, true⟩]).openOn ⟨1⟩ := by
  let spec : TimingSpec := ⟨[⟨⟨1⟩, 0, 4⟩, ⟨⟨1⟩, 4, 4⟩], 0, 1, 0, le_rfl, by decide⟩
  refine ⟨spec, rfl, ?_⟩
  intro early late
  obtain ⟨-, -, -, hearly, -⟩ :=
    run_schedule spec .odmr early (by decide) (by decide) ⟨by decide, by decide⟩
  obtain ⟨hadmits, -, -, hlate, hok⟩ :=
    run_schedule spec .odmr late (by decide) (by decide) ⟨by decide, by decide⟩
  have hroom := hadmits [⟨0, ⟨1⟩, true⟩, ⟨4, ⟨1⟩, true⟩] ⟨4, ⟨1⟩, false⟩ [⟨8, ⟨1⟩, false⟩] rfl
  exact ⟨hearly.trans hlate.symm, hok (by decide), hroom.fall rfl⟩

end Sweep

end PulseTrain
