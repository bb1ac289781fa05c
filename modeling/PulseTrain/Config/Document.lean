import PulseTrain.Config.Basic
import PulseTrain.Document.Experiment
import PulseTrain.Document.Yaml.Printer
import PulseTrain.Document.Yaml.Reader

/-!
# Configuration files

A configuration is written as a YAML document. Everything may be left out; an unknown field is an
error, so that a misspelt one is noticed.
-/

namespace PulseTrain

namespace Hardware

/-- Writes the pulse generator. -/
def toNode (h : Hardware) : Node :=
  .record [("quantum_ns", .nat h.quantum), ("channels", .list (h.channels.map .str))]

/-- Reads the pulse generator. -/
def ofNode (n : Node) : Decode Hardware := do
  let fields ← Fields.ofNode ["quantum_ns", "channels"] false n
  let d : Hardware := {}
  return {
    quantum := ← fields.orElse "quantum_ns" d.quantum Node.toNanoseconds
    channels := ← fields.orElse "channels" d.channels (Node.toListOf Node.toText) }

end Hardware

namespace Logging

/-- Writes the logging settings. -/
def toNode (l : Logging) : Node := .record [("level", .str l.level)]

/-- Reads the logging settings. -/
def ofNode (n : Node) : Decode Logging := do
  let fields ← Fields.ofNode ["level"] false n
  let d : Logging := {}
  return { level := ← fields.orElse "level" d.level Node.toText }

end Logging

namespace Config

/-- Writes a configuration. -/
def toNode (c : Config) : Node :=
  .record
    [("hardware", c.hardware.toNode), ("defaults", c.defaults.toNode),
      ("logging", c.logging.toNode)]

/-- Reads a configuration, whether it can be used or not. -/
def ofNode (n : Node) : Decode Config := do
  let fields ← Fields.ofNode ["hardware", "defaults", "logging"] false n
  return {
    hardware := ← fields.orElse "hardware" {} Hardware.ofNode
    defaults := ← fields.orElse "defaults" .odmr TimingDefaults.ofNode
    logging := ← fields.orElse "logging" {} Logging.ofNode }

/-- The YAML text of a configuration. -/
def render (c : Config) : String := Yaml.render c.toNode

/-- The configuration of a YAML text; it has to be valid. -/
def ofYaml (text : String) : Except ConfigError Config := do
  let some n := Yaml.read? text | throw (.malformed "not a YAML document")
  let c ← (ofNode n).mapError fun e => .malformed e.message
  c.validate
  return c

end Config

end PulseTrain
