import PulseTrain.ModelError
import PulseTrain.Pulse.Event

/-!
# Timing specs

A timing spec describes one repetition unit as a list of pulses, and how the unit is repeated. It
is repeated at least once, and every pulse ends within the range of a 64-bit counter.
-/

namespace PulseTrain

/-- One repetition unit and how it is repeated. -/
structure TimingSpec where
  /-- The pulses of one unit, in the order in which they were given. -/
  events : List PulseEvent
  /-- The time with all lines off between two repetitions, before quantization. -/
  interval : Nanoseconds
  /-- How often the unit is played. -/
  repetitions : Nat
  /-- The unit lasts at least this long. -/
  minUnitLength : Nanoseconds
  /-- The unit is played at least once. -/
  repetitions_pos : 1 ≤ repetitions
  /-- Every pulse ends within the range of a 64-bit counter. -/
  stop_lt : ∀ e ∈ events, e.stop < Nanoseconds.limit
deriving DecidableEq

namespace TimingSpec

/-- The spec with these parts. A count of zero repetitions is refused first, then the first pulse
whose end does not fit in a 64-bit counter. -/
def ofParts (events : List PulseEvent) (interval : Nanoseconds) (repetitions : Nat)
    (minUnitLength : Nanoseconds) : Except ModelError TimingSpec :=
  if once : 1 ≤ repetitions then
    match found : events.find? (fun e => !decide (e.stop < Nanoseconds.limit)) with
    | some e =>
      .error (.overflow s!"end of event on {e.channel.label} starting at {e.start} ns")
    | none =>
      .ok
        { events, interval, repetitions, minUnitLength
          repetitions_pos := once
          stop_lt := fun e he => by simpa using List.find?_eq_none.1 found e he }
  else
    .error (.invalidParameter "repetitions" "must be at least 1")

section Parts

variable {events : List PulseEvent} {interval repetitions minUnitLength : Nat}

/-- A spec that obeys the rules is put together from its parts. -/
theorem ofParts_eq_ok (hrep : 1 ≤ repetitions)
    (hstop : ∀ e ∈ events, e.stop < Nanoseconds.limit) :
    ofParts events interval repetitions minUnitLength =
      .ok ⟨events, interval, repetitions, minUnitLength, hrep, hstop⟩ := by
  unfold ofParts
  rw [dif_pos hrep]
  split
  · rename_i e hfound
    have hlate := List.find?_some hfound
    have hearly := hstop e (List.mem_of_find?_eq_some hfound)
    simp [hearly] at hlate
  · rfl

/-- Parts that do not make a spec break one of the rules. -/
theorem broken_of_ofParts_eq_error {error : ModelError}
    (h : ofParts events interval repetitions minUnitLength = .error error) :
    (repetitions = 0 ∧ error = .invalidParameter "repetitions" "must be at least 1") ∨
      ∃ e ∈ events, Nanoseconds.limit ≤ e.stop ∧ ∃ quantity, error = .overflow quantity := by
  unfold ofParts at h
  split at h
  · split at h
    · rename_i e hfound
      have hlate := List.find?_some hfound
      exact .inr ⟨e, List.mem_of_find?_eq_some hfound, by simpa using hlate, _,
        (Except.error.inj h).symm⟩
    · exact absurd h (by simp)
  · rename_i hrep
    exact .inl ⟨Nat.eq_zero_of_not_pos hrep, (Except.error.inj h).symm⟩

/-- Parts make a spec iff they obey the rules, and it has these parts. -/
theorem ofParts_eq_ok_iff {s : TimingSpec} :
    ofParts events interval repetitions minUnitLength = .ok s ↔
      s.events = events ∧ s.interval = interval ∧ s.repetitions = repetitions ∧
        s.minUnitLength = minUnitLength ∧ 1 ≤ repetitions ∧
        ∀ e ∈ events, e.stop < Nanoseconds.limit := by
  constructor
  · intro h
    unfold ofParts at h
    split at h
    · split at h
      · exact absurd h (by simp)
      · have hrep := s.repetitions_pos
        have hstop := s.stop_lt
        obtain rfl := Except.ok.inj h
        exact ⟨rfl, rfl, rfl, rfl, hrep, hstop⟩
    · exact absurd h (by simp)
  · rintro ⟨rfl, rfl, rfl, rfl, hrep, hstop⟩
    exact ofParts_eq_ok hrep hstop

end Parts

/-- The spec whose unit lasts at least `t`, in place of its own minimum. -/
def withMinUnitLength (s : TimingSpec) (t : Nanoseconds) : TimingSpec :=
  { s with minUnitLength := t }

/-- The pulses that have a duration. -/
def activeEvents (s : TimingSpec) : List PulseEvent := s.events.filter fun e => !e.isEmpty

/-- The length of the unit: the latest end of a pulse, or the minimum length if that is longer. -/
def unitLength (s : TimingSpec) : Nanoseconds :=
  s.activeEvents.foldl (fun t e => max t e.stop) s.minUnitLength

/-- Some pulse of the unit holds line `c` on at the instant `t`. -/
def Covers (s : TimingSpec) (c : ChannelId) (t : Nanoseconds) : Prop :=
  ∃ e ∈ s.events, e.Covers c t

instance (s : TimingSpec) (c : ChannelId) (t : Nanoseconds) : Decidable (s.Covers c t) :=
  inferInstanceAs (Decidable (∃ e ∈ s.events, _))

/-! ## Drafts -/

/-- A spec that is still being put together; nothing is checked before `build`. -/
structure Draft where
  /-- The pulses so far, the latest first. -/
  latestFirst : List PulseEvent := []
  /-- The time with all lines off between two repetitions. -/
  interval : Nanoseconds := 0
  /-- How often the unit is played. -/
  repetitions : Nat := 1
  /-- The unit lasts at least this long. -/
  minUnitLength : Nanoseconds := 0

namespace Draft

/-- Adds a pulse after those given so far. -/
def add (d : Draft) (e : PulseEvent) : Draft := { d with latestFirst := e :: d.latestFirst }

/-- The spec that has been put together, if it is one. -/
def build (d : Draft) : Except ModelError TimingSpec :=
  ofParts d.latestFirst.reverse d.interval d.repetitions d.minUnitLength

end Draft

end TimingSpec

end PulseTrain
