import PulseTrain.Document.Decode
import PulseTrain.Quantum
import PulseTrain.Sequence.Basic
import PulseTrain.Channel.Set
import PulseTrain.Pulse.TimingSpec

/-!
# Documents of the pulse model

How quanta, channels, specs, timelines and sequences are written in documents. Fields that a type
does not know are passed over. Timelines are read as they are; specs and sequences have to obey
their rules.
-/

namespace PulseTrain

namespace Quantum

/-- A quantum is written as its number of nanoseconds. -/
def toNode (q : Quantum) : Node := .nat q.ns

/-- Reads a quantum. -/
def ofNode (n : Node) : Decode Quantum := do
  Decode.accept (ofNat (← n.toNanoseconds))

end Quantum

namespace ChannelId

/-- A channel is written as its position. -/
def toNode (c : ChannelId) : Node := .nat c.index

/-- Reads a channel. -/
def ofNode (n : Node) : Decode ChannelId := ChannelId.mk <$> n.toCount

end ChannelId

namespace ChannelState

/-- A state is written as the number that its bits spell. -/
def toNode (s : ChannelState) : Node := .nat s.toNat

/-- Reads a state. -/
def ofNode (n : Node) : Decode ChannelState := ofNat <$> n.toNat Word.limit64

end ChannelState

namespace ChannelStore

/-- Channels are written as the list of their names. -/
def toNode (s : ChannelStore) : Node := .list (s.names.map .str)

end ChannelStore

namespace ChannelSet

/-- Reads a channel set. -/
def ofNode (n : Node) : Decode ChannelSet := do
  Decode.accept (ofNames (← n.toListOf Node.toText))

end ChannelSet

namespace PulseEvent

/-- Writes a pulse. -/
def toNode (e : PulseEvent) : Node :=
  .record
    [("channel", e.channel.toNode), ("start_ns", .nat e.start), ("duration_ns", .nat e.duration)]

/-- Reads a pulse. -/
def ofNode (n : Node) : Decode PulseEvent := do
  let fields ← Fields.ofNode ["channel", "start_ns", "duration_ns"] true n
  return {
    channel := ← fields.required "channel" ChannelId.ofNode
    start := ← fields.required "start_ns" Node.toNanoseconds
    duration := ← fields.required "duration_ns" Node.toNanoseconds }

end PulseEvent

namespace TimingSpec

/-- Writes a spec. -/
def toNode (s : TimingSpec) : Node :=
  .record
    [("events", .list (s.events.map PulseEvent.toNode)),
      ("sequence_interval_ns", .nat s.interval), ("repetitions", .nat s.repetitions),
      ("min_unit_length_ns", .nat s.minUnitLength)]

/-- Reads a spec. -/
def ofNode (n : Node) : Decode TimingSpec := do
  let fields ← Fields.ofNode
    ["events", "sequence_interval_ns", "repetitions", "min_unit_length_ns"] true n
  let events ← fields.required "events" (Node.toListOf PulseEvent.ofNode)
  let interval ← fields.orElse "sequence_interval_ns" 0 Node.toNanoseconds
  let repetitions ← fields.required "repetitions" Node.toCount
  let minUnitLength ← fields.orElse "min_unit_length_ns" 0 Node.toNanoseconds
  Decode.accept (ofParts events interval repetitions minUnitLength)

end TimingSpec

namespace Span

/-- Writes a span. -/
def toNode (s : Span) : Node :=
  .record [("start_ns", .nat s.start), ("end_ns", .nat s.stop), ("state", s.state.toNode)]

/-- Reads a span. -/
def ofNode (n : Node) : Decode Span := do
  let fields ← Fields.ofNode ["start_ns", "end_ns", "state"] true n
  return {
    start := ← fields.required "start_ns" Node.toNanoseconds
    stop := ← fields.required "end_ns" Node.toNanoseconds
    state := ← fields.required "state" ChannelState.ofNode }

end Span

namespace Timeline

/-- Writes a timeline. -/
def toNode (t : Timeline) : Node := .record [("spans", .list (t.spans.map Span.toNode))]

/-- Reads a timeline. -/
def ofNode (n : Node) : Decode Timeline := do
  let fields ← Fields.ofNode ["spans"] true n
  return ⟨← fields.required "spans" (Node.toListOf Span.ofNode)⟩

end Timeline

namespace Segment

/-- Writes a segment. -/
def toNode (s : Segment) : Node :=
  .record [("state", s.state.toNode), ("duration_ns", .nat s.duration)]

/-- Reads a segment. -/
def ofNode (n : Node) : Decode Segment := do
  let fields ← Fields.ofNode ["state", "duration_ns"] true n
  return {
    state := ← fields.required "state" ChannelState.ofNode
    duration := ← fields.required "duration_ns" Node.toNanoseconds }

end Segment

namespace CompiledSequence

/-- Writes a sequence. -/
def toNode (s : CompiledSequence) : Node :=
  .record
    [("segments", .list (s.segments.map Segment.toNode)), ("total_duration_ns", .nat s.total)]

/-- Reads a sequence. -/
def ofNode (n : Node) : Decode CompiledSequence := do
  let fields ← Fields.ofNode ["segments", "total_duration_ns"] true n
  let segments ← fields.required "segments" (Node.toListOf Segment.ofNode)
  let total ← fields.required "total_duration_ns" Node.toNanoseconds
  Decode.accept (ofSegments segments total)

end CompiledSequence

end PulseTrain
