import PulseTrain.Channel.State

/-!
# Pulses

A pulse holds one output line on over a half-open interval of time. Pulses on one line may overlap;
the line is then on over their union.
-/

namespace PulseTrain

/-- One output line, on from `start` for `duration`. -/
structure PulseEvent where
  /-- The line. -/
  channel : ChannelId
  /-- When the line goes on, counted from the start of the unit. -/
  start : Nanoseconds
  /-- How long it stays on. A pulse without duration has no effect. -/
  duration : Nanoseconds
deriving DecidableEq

namespace PulseEvent

/-- When the line goes off again. -/
def stop (e : PulseEvent) : Nat := e.start + e.duration

/-- When the line goes off again, if a 64-bit counter can hold that. -/
def stop? (e : PulseEvent) : Option Nanoseconds := Nanoseconds.add? e.start e.duration

/-- When the line goes off again, at most the largest instant of a 64-bit counter. -/
def saturatedStop (e : PulseEvent) : Nanoseconds := Nanoseconds.addSaturated e.start e.duration

/-- Whether the pulse has no duration. -/
def isEmpty (e : PulseEvent) : Bool := e.duration = 0

/-- The pulse holds line `c` on at the instant `t`. -/
def Covers (e : PulseEvent) (c : ChannelId) (t : Nanoseconds) : Prop :=
  e.channel = c ∧ e.start ≤ t ∧ t < e.stop

instance (e : PulseEvent) (c : ChannelId) (t : Nanoseconds) : Decidable (e.Covers c t) :=
  inferInstanceAs (Decidable (_ ∧ _ ∧ _))

end PulseEvent

end PulseTrain
