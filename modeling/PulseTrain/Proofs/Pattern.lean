import Mathlib.Tactic.Choose
import PulseTrain.Proofs.Coverage
import PulseTrain.Proofs.Declared
import PulseTrain.Proofs.Segments
import PulseTrain.Sequence.Pattern

/-!
# Sequences as specs

The runs of a line show its level at each instant of a sequence, and the pulses that are read from
the runs cover the instants at which the line is on. So the spec of a sequence covers, on the
declared lines, what the sequence plays.
-/

namespace PulseTrain

namespace Run

/-- How long runs last. -/
def total : List Run → Nat
  | [] => 0
  | r :: rest => r.duration + total rest

/-- The level of a line at the instant `t` of its runs; off past the end. -/
def levelAt : List Run → Nat → Bool
  | [], _ => false
  | r :: rest, t => if t < r.duration then r.on else levelAt rest (t - r.duration)

@[simp] theorem total_nil : total [] = 0 := rfl

@[simp] theorem total_cons (r : Run) (runs : List Run) :
    total (r :: runs) = r.duration + total runs := rfl

theorem prepend_cons (r first : Run) (rest : List Run) : r.prepend (first :: rest) =
    if first.on = r.on then ⟨r.duration + first.duration, r.on⟩ :: rest
    else r :: first :: rest := rfl

/-- Joining a run to the first one changes nothing about how long they last. -/
theorem total_prepend (r : Run) (runs : List Run) :
    total (r.prepend runs) = r.duration + total runs := by
  cases runs with
  | nil => rfl
  | cons first rest =>
    rw [prepend_cons]
    split_ifs
    · rw [total_cons, total_cons, Nat.add_assoc]
    · rw [total_cons]

/-- Nor does it change a level. -/
theorem levelAt_prepend (r : Run) (runs : List Run) (t : Nat) :
    levelAt (r.prepend runs) t = levelAt (r :: runs) t := by
  cases runs with
  | nil => rfl
  | cons first rest =>
    rw [prepend_cons]
    split_ifs with hsame
    · simp only [levelAt]
      by_cases hr : t < r.duration
      · rw [if_pos hr, if_pos (by lia)]
      · rw [if_neg hr]
        by_cases hfirst : t - r.duration < first.duration
        · rw [if_pos hfirst, if_pos (by lia), hsame]
        · rw [if_neg hfirst, if_neg (by lia), Nat.sub_sub]
    · rfl

theorem levelAt_cons (r : Run) (rest : List Run) (t : Nat) : levelAt (r :: rest) t =
    if t < r.duration then r.on else levelAt rest (t - r.duration) := rfl

/-- What is on is on in the first run or in those behind it. -/
theorem levelAt_cons_iff (r : Run) (rest : List Run) (start t : Nat) :
    (start ≤ t ∧ levelAt (r :: rest) (t - start) = true) ↔
      (r.on = true ∧ start ≤ t ∧ t < start + r.duration) ∨
        (start + r.duration ≤ t ∧ levelAt rest (t - (start + r.duration)) = true) := by
  rw [levelAt_cons, ← Nat.sub_sub]
  by_cases hstart : start ≤ t
  · by_cases hr : t < start + r.duration
    · have hfirst : t - start < r.duration := by omega
      simp [hstart, hr, hfirst, not_le.mpr hr]
    · have hlater : ¬ t - start < r.duration := by omega
      simp [hstart, hr, hlater, not_lt.mp hr]
  · have hlater : ¬ start + r.duration ≤ t := by omega
    simp [hstart, hlater]

end Run

namespace CompiledSequence

variable {c : ChannelId} {start : Nat} {runs : List Run} {s : CompiledSequence}

/-! ## Runs -/

theorem total_channelPattern (s : CompiledSequence) (c : ChannelId) :
    Run.total (s.channelPattern c) = duration s.segments := by
  unfold channelPattern
  induction s.segments with
  | nil => rfl
  | cons g rest ih => rw [List.foldr_cons, Run.total_prepend, ih, duration_cons]

/-- A line is on at an instant of its runs iff the state that is played then has it on. -/
theorem levelAt_channelPattern (s : CompiledSequence) (c : ChannelId) (t : Nat) :
    Run.levelAt (s.channelPattern c) t = true ↔
      ∃ state, s.stateAt t = some state ∧ state.isOn c = true := by
  unfold channelPattern stateAt
  induction s.segments generalizing t with
  | nil => simp [Run.levelAt, playing]
  | cons g rest ih =>
    rw [List.foldr_cons, Run.levelAt_prepend]
    rw [Run.levelAt_cons]
    unfold playing
    by_cases hg : t < g.duration
    · simp [hg]
    · rw [if_neg hg, if_neg hg]
      exact ih _

/-! ## Pulses -/

/-- The pulses of some runs: they are on the line of the runs, end with the runs at the latest, and
cover the instants at which the line is on. -/
structure Traces (c : ChannelId) (start : Nat) (runs : List Run) (events : List PulseEvent) :
    Prop where
  /-- All pulses are on the line. -/
  channel : ∀ e ∈ events, e.channel = c
  /-- None ends after the runs. -/
  stop_le : ∀ e ∈ events, e.stop ≤ start + Run.total runs
  /-- They cover what is on. -/
  covers : ∀ t, (∃ e ∈ events, e.Covers c t) ↔
    start ≤ t ∧ Run.levelAt runs (t - start) = true

/-- Runs that end within the range of the counter have their pulses. -/
theorem pulsesFrom_traces (hlt : start + Run.total runs < Nanoseconds.limit) :
    ∃ events, pulsesFrom c start runs = .ok events ∧ Traces c start runs events := by
  induction runs generalizing start with
  | nil => exact ⟨[], rfl, by simp, by simp, by simp [Run.levelAt]⟩
  | cons r rest ih =>
    rw [Run.total_cons, ← Nat.add_assoc] at hlt
    have hstop : start + r.duration < Nanoseconds.limit := by omega
    obtain ⟨later, hlater, htraces⟩ := ih hlt
    unfold pulsesFrom
    rw [Nanoseconds.add?, Nanoseconds.check?_of_lt hstop]
    dsimp only
    rw [hlater]
    cases hon : r.on with
    | true =>
      refine ⟨⟨c, start, r.duration⟩ :: later, rfl, ?_, ?_, fun t => ?_⟩
      · exact List.forall_mem_cons.mpr ⟨rfl, htraces.channel⟩
      · rw [List.forall_mem_cons, Run.total_cons, ← Nat.add_assoc]
        exact ⟨Nat.le_add_right _ _, htraces.stop_le⟩
      · rw [Run.levelAt_cons_iff, ← htraces.covers t, List.exists_mem_cons_iff]
        simp [PulseEvent.Covers, PulseEvent.stop, hon]
    | false =>
      refine ⟨later, rfl, htraces.channel, ?_, fun t => ?_⟩
      · rw [Run.total_cons, ← Nat.add_assoc]
        exact htraces.stop_le
      · rw [Run.levelAt_cons_iff, ← htraces.covers t]
        simp [hon]

/-- The pulses of all declared lines are found. They end with the sequence at the latest, and they
cover what is on. -/
theorem Valid.mapM_pulsesFrom (h : s.Valid) (channels : ChannelSet) :
    ∃ pulses, channels.ids.mapM (fun c => pulsesFrom c 0 (s.channelPattern c)) = .ok pulses ∧
      (∀ e ∈ pulses.flatten, e.channel.index < channels.size ∧ e.stop ≤ s.total) ∧
      ∀ c t, (∃ e ∈ pulses.flatten, e.Covers c t) ↔
        c.index < channels.size ∧ Run.levelAt (s.channelPattern c) t = true := by
  have htotal : ∀ c, 0 + Run.total (s.channelPattern c) = s.total := by
    intro c
    rw [Nat.zero_add, total_channelPattern, h.sum]
  have hpulses : ∀ c, ∃ events, pulsesFrom c 0 (s.channelPattern c) = .ok events ∧
      Traces c 0 (s.channelPattern c) events := fun c =>
    pulsesFrom_traces (by rw [htotal]; exact h.fits)
  choose events hevents htraces using hpulses
  -- A pulse is among those of its own line only.
  have hmem : ∀ e, e ∈ (channels.ids.map events).flatten ↔
      e.channel.index < channels.size ∧ e ∈ events e.channel := by
    intro e
    rw [← List.flatMap_def, List.mem_flatMap]
    constructor
    · rintro ⟨c, hc, he⟩
      rw [(htraces c).channel e he]
      exact ⟨ChannelStore.mem_ids.mp hc, he⟩
    · rintro ⟨hlt, he⟩
      exact ⟨e.channel, ChannelStore.mem_ids.mpr hlt, he⟩
  refine ⟨channels.ids.map events, ?_, fun e he => ?_, fun c t => ?_⟩
  · rw [funext hevents]
    exact List.mapM_pure
  · obtain ⟨hlt, he⟩ := (hmem e).mp he
    exact ⟨hlt, htotal e.channel ▸ (htraces _).stop_le e he⟩
  · constructor
    · rintro ⟨e, he, hcov⟩
      obtain ⟨hlt, hown⟩ := (hmem e).mp he
      obtain rfl := hcov.1
      exact ⟨hlt, (((htraces _).covers t).mp ⟨e, hown, hcov⟩).2⟩
    · rintro ⟨hlt, hon⟩
      obtain ⟨e, he, hcov⟩ := ((htraces c).covers t).mpr ⟨Nat.zero_le t, hon⟩
      obtain rfl := hcov.1
      exact ⟨e, (hmem e).mpr ⟨hlt, he⟩, hcov⟩

/-- What the spec of a sequence is like: it is played once, it lasts as long as the sequence, and it
covers, on the declared lines, what the sequence plays. -/
structure Transcribes (channels : ChannelSet) (s : CompiledSequence) (spec : TimingSpec) :
    Prop where
  /-- There is one repetition. -/
  repetitions : spec.repetitions = 1
  /-- No time is kept free behind it. -/
  interval : spec.interval = 0
  /-- All pulses are on declared lines. -/
  declared : ∀ e ∈ spec.events, e.channel.index < channels.size
  /-- The unit is the whole sequence. -/
  unitLength : spec.unitLength = s.total
  /-- The pulses cover what is on. -/
  covers : ∀ c t, spec.Covers c t ↔
    c.index < channels.size ∧ ∃ state, s.stateAt t = some state ∧ state.isOn c = true

/-- Every valid sequence has a spec. -/
theorem Valid.toTimingSpec_transcribes (h : s.Valid) (channels : ChannelSet) :
    ∃ spec, s.toTimingSpec channels = .ok spec ∧ Transcribes channels s spec := by
  obtain ⟨pulses, hpulses, hbounds, hcovers⟩ := h.mapM_pulsesFrom channels
  have hfits : ∀ e ∈ pulses.flatten, e.stop < Nanoseconds.limit := fun e he =>
    (hbounds e he).2.trans_lt h.fits
  have hspec : s.toTimingSpec channels = .ok ⟨pulses.flatten, 0, 1, s.total, le_rfl, hfits⟩ := by
    unfold toTimingSpec
    rw [hpulses]
    exact TimingSpec.ofParts_eq_ok le_rfl hfits
  refine ⟨_, hspec, rfl, rfl, fun e he => (hbounds e he).1, ?_, fun c t => ?_⟩
  · -- No pulse ends later than the sequence, so its length is the minimum length.
    refine le_antisymm (TimingSpec.unitLength_le_iff.mpr ⟨le_rfl, fun e he => ?_⟩) ?_
    · exact (hbounds e (List.mem_filter.mp he).1).2
    · exact @TimingSpec.minUnitLength_le_unitLength ⟨pulses.flatten, 0, 1, s.total, le_rfl, hfits⟩
  · rw [← levelAt_channelPattern]
    exact hcovers c t

end CompiledSequence

end PulseTrain
