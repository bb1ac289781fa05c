import PulseTrain.Channel.Set
import PulseTrain.Pulse.TimingSpec
import PulseTrain.Timeline.Builder

/-!
# From pulses to a timeline

One unit of a timing spec is turned into its timeline by a sweep over the edges of its pulses, in
order of time. The sweep counts the open pulses on every line; a line is on while its count is
positive, so overlapping pulses on one line are united. Simultaneous edges may come in any order.
-/

namespace PulseTrain

/-- A pulse begins or ends on a line. -/
structure Edge where
  /-- When. -/
  time : Nanoseconds
  /-- On which line. -/
  channel : ChannelId
  /-- Whether the pulse begins. -/
  rises : Bool
deriving DecidableEq

namespace PulseEvent

/-- The beginning and the end of a pulse. -/
def edges (e : PulseEvent) : List Edge := [⟨e.start, e.channel, true⟩, ⟨e.stop, e.channel, false⟩]

end PulseEvent

namespace TimingSpec

/-- The edges of the pulses that have a duration, in order of time. -/
def edges (s : TimingSpec) : List Edge :=
  (s.activeEvents.flatMap PulseEvent.edges).mergeSort fun a b => a.time ≤ b.time

end TimingSpec

/-- What the sweep knows before the next edge. -/
structure Sweep where
  /-- The number of open pulses on each line. -/
  openPulses : List Nat
  /-- The lines with an open pulse. -/
  level : ChannelState
  /-- The timeline up to the last edge. -/
  builder : TimelineBuilder
deriving DecidableEq

namespace Sweep

/-- Before the first edge no pulse is open. -/
def start (channels : Nat) : Sweep := ⟨List.replicate channels 0, .off, .empty⟩

/-- The number of open pulses on a line. -/
def openOn (s : Sweep) (c : ChannelId) : Nat := s.openPulses.getD c.index 0

/-- The present level holds up to the edge; then the edge opens or closes a pulse. -/
def step (s : Sweep) (e : Edge) : Sweep :=
  let count := if e.rises then s.openOn e.channel + 1 else s.openOn e.channel - 1
  { openPulses := s.openPulses.set e.channel.index count
    level := s.level.set e.channel (decide (0 < count))
    builder := s.builder.extendTo e.time s.level }

/-- Sweeps over edges, one after the other. -/
def run (channels : Nat) (edges : List Edge) : Sweep := edges.foldl step (start channels)

end Sweep

namespace Timeline

/-- The timeline of a unit from a sweep over edges: after the last of them all lines are off up to
the length of the unit. -/
def swept (spec : TimingSpec) (channels : ChannelSet) (edges : List Edge) : Timeline :=
  ((Sweep.run channels.size edges).builder.extendTo spec.unitLength .off).timeline

/-- The timeline of one unit of a spec: a line is on at the instants that one of its pulses covers,
and after the last pulse all lines are off up to the length of the unit. The first pulse on an
undeclared channel is refused, and then a unit without any pulse that has a duration. -/
def ofSpec (spec : TimingSpec) (channels : ChannelSet) : Except ModelError Timeline := do
  spec.events.forM fun e => channels.check e.channel
  if spec.activeEvents.isEmpty then
    throw .emptyTimingSpec
  let timeline := swept spec channels spec.edges
  if timeline.length = 0 then
    throw .degenerateSequence
  return timeline

end Timeline

end PulseTrain
