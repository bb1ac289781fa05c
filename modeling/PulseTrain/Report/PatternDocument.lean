import PulseTrain.Document.Node
import PulseTrain.Sequence.Fingerprint
import PulseTrain.Sequence.Pattern

/-!
# Pattern documents

The pattern of every channel of a sequence, as pattern generators take it.
-/

namespace PulseTrain

/-- The pattern of one output line. -/
structure ChannelPattern where
  /-- The name of the channel. -/
  channel : String
  /-- The output line. -/
  line : Nat
  /-- How long the line is held at each level. -/
  pattern : List Run
deriving DecidableEq

/-- The patterns of all output lines. -/
structure PatternDocument where
  /-- How long the sequence lasts. -/
  total : Nanoseconds
  /-- The fingerprint of the sequence. -/
  fingerprint : String
  /-- The patterns, in the order of the lines. -/
  channels : List ChannelPattern
deriving DecidableEq

namespace ChannelPattern

/-- Writes a pattern; the level is 1 when the line is on, else 0. -/
def toNode (p : ChannelPattern) : Node :=
  .record
    [("channel", .str p.channel), ("line", .nat p.line),
      ("pattern",
        .list (p.pattern.map fun r => .list [.nat r.duration, .nat (if r.on then 1 else 0)]))]

end ChannelPattern

namespace PatternDocument

/-- The patterns of a sequence on declared channels. -/
def ofSequence (s : CompiledSequence) (channels : ChannelSet) : PatternDocument :=
  { total := s.total
    fingerprint := s.fingerprintText
    channels := channels.toList.map fun (c, name) => ⟨name, c.index, s.channelPattern c⟩ }

/-- Writes the patterns. -/
def toNode (d : PatternDocument) : Node :=
  .record
    [("total_duration_ns", .nat d.total), ("content_hash", .str d.fingerprint),
      ("channels", .list (d.channels.map ChannelPattern.toNode))]

end PatternDocument

end PulseTrain
