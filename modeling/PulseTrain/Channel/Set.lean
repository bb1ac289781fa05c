import PulseTrain.Channel.Store

/-!
# Channel sets

The declared output lines of one compilation. A set is made by declaring its channels one after the
other, so its two stores agree; then names are distinct, and there are never more of them than a
state has lines.
-/

namespace PulseTrain

/-- The declared output lines. -/
structure ChannelSet extends ChannelStore where
  /-- A name leads to the channel that has it. -/
  coherent : toChannelStore.Coherent
deriving DecidableEq

namespace ChannelSet

/-- The name of the laser line in the standard set. -/
def laser : String := "laser"

/-- The name of the microwave line in the standard set. -/
def microwave : String := "microwave"

/-- The name of the detection line in the standard set. -/
def detection : String := "detection"

/-- The set without channels. -/
def empty : ChannelSet := ⟨.empty, ChannelStore.coherent_empty⟩

/-- The stores of the standard set, both filled from one list. -/
def standard : ChannelStore :=
  let names := [laser, microwave, detection]
  { names
    byName := .ofList (names.zipIdx.map fun (name, i) => (name, ChannelId.mk i)) }

/-- They are the same as if the channels had been declared. -/
theorem coherent_standard : standard.Coherent := by
  have h : standard =
      (((ChannelStore.empty.attempt laser).2.attempt microwave).2.attempt detection).2 := by decide
  rw [h]
  exact ((ChannelStore.coherent_empty.attempt laser).attempt microwave).attempt detection

/-- The standard set: laser, microwave and detection, on lines 0, 1 and 2. -/
def odmr : ChannelSet := ⟨standard, coherent_standard⟩

/-- The set with one more channel, if that can be declared. -/
def extend (s : ChannelSet) (name : String) : Except ModelError ChannelSet :=
  let result := s.attempt name
  (fun _ => ⟨result.2, s.coherent.attempt name⟩) <$> result.1

/-- Declares the names one after the other. -/
def ofNames (names : List String) : Except ModelError ChannelSet := names.foldlM extend empty

theorem length_le (s : ChannelSet) : s.names.length ≤ ChannelState.capacity := s.coherent.length_le

theorem nodup (s : ChannelSet) : s.names.Nodup := s.coherent.nodup

/-- Sets with the same names are the same. -/
theorem names_inj {s t : ChannelSet} (h : s.names = t.names) : s = t := by
  have hstore := s.coherent.eq_of_names t.coherent h
  cases s
  cases t
  congr

end ChannelSet

end PulseTrain
