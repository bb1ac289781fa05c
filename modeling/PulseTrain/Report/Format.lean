import PulseTrain.Document.Json.Printer
import PulseTrain.Document.Model
import PulseTrain.Report.PatternDocument
import PulseTrain.Report.Table

/-!
# Output formats

A compiled sequence is shown as a table, as a JSON document of its segments, or as a JSON document
of the patterns of its channels.
-/

namespace PulseTrain

/-- How a sequence is shown. -/
inductive OutputFormat where
  /-- A table for people to read. -/
  | table
  /-- The segments as JSON. -/
  | json
  /-- The channel patterns as JSON. -/
  | patterns
deriving DecidableEq

namespace CompiledSequence

/-- The text of a sequence in a format. -/
def render (s : CompiledSequence) (channels : ChannelSet) (colors : Bool) :
    OutputFormat → String
  | .table => Table.render s channels colors
  | .json => Json.pretty s.toNode
  | .patterns => Json.pretty (PatternDocument.ofSequence s channels).toNode

/-- A sequence in one line. -/
def summary (s : CompiledSequence) : String :=
  s!"{s.size} segments, {s.total} ns total, hash {s.fingerprintText}"

end CompiledSequence

end PulseTrain
