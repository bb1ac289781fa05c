import PulseTrain.Document.Decode

/-!
# Documents of experiment parameters

How pulse windows, overrides and defaults are written in documents. A field that a type does not
know is an error, so that a misspelt one is noticed.
-/

namespace PulseTrain

/-- Writes a map, in the order of the names. -/
def NameMap.toNode {α : Type} (f : α → Node) (m : NameMap α) : Node :=
  .record (m.toList.map fun (name, value) => (name, f value))

/-- The field of a value that is there; none if there is nothing. -/
def Node.present (name : String) : Option Int → List (String × Node)
  | some n => [(name, .int n)]
  | none => []

namespace PulseWindow

/-- Writes a window. -/
def toNode (w : PulseWindow) : Node :=
  .record [("start_ns", .nat w.start), ("duration_ns", .nat w.duration)]

/-- Reads a window. -/
def ofNode (n : Node) : Decode PulseWindow := do
  let fields ← Fields.ofNode ["start_ns", "duration_ns"] false n
  return {
    start := ← fields.required "start_ns" Node.toNanoseconds
    duration := ← fields.required "duration_ns" Node.toNanoseconds }

end PulseWindow

namespace PulseOverride

/-- The names of the fields. -/
def fieldNames : List String := ["start_ns", "duration_ns"]

/-- Writes an override. -/
def toNode (o : PulseOverride) : Node :=
  .record (Node.present "start_ns" o.start ++ Node.present "duration_ns" o.duration)

/-- Reads an override. -/
def ofNode (n : Node) : Decode PulseOverride := do
  let fields ← Fields.ofNode fieldNames false n
  return {
    start := ← fields.optional "start_ns" Node.toInt
    duration := ← fields.optional "duration_ns" Node.toInt }

end PulseOverride

namespace TimingParams

/-- The names of the fields. -/
def fieldNames : List String := ["pulses", "sequence_interval_ns", "repetitions"]

/-- Writes parameters. -/
def toNode (p : TimingParams) : Node :=
  .record (("pulses", NameMap.toNode PulseOverride.toNode p.pulses) ::
    (Node.present "sequence_interval_ns" p.interval ++ Node.present "repetitions" p.repetitions))

/-- A document of parameters with records in place of lists that give the values of their fields
in order. -/
def labelled (n : Node) : Node :=
  (n.labelled fieldNames).mapFields fun name value =>
    if name = "pulses" then
      value.mapFields fun _ window => window.labelled PulseOverride.fieldNames
    else
      value

/-- Reads parameters. -/
def ofNode (n : Node) : Decode TimingParams := do
  let fields ← Fields.ofNode fieldNames false n
  return {
    pulses := ← fields.orElse "pulses" ∅ (Node.toMapOf PulseOverride.ofNode)
    interval := ← fields.optional "sequence_interval_ns" Node.toInt
    repetitions := ← fields.optional "repetitions" Node.toInt }

end TimingParams

namespace TimingDefaults

/-- Writes defaults. -/
def toNode (d : TimingDefaults) : Node :=
  .record
    [("pulses", NameMap.toNode PulseWindow.toNode d.pulses),
      ("sequence_interval_ns", .nat d.interval), ("repetitions", .nat d.repetitions)]

/-- Reads defaults; what is left out is as in the standard ones. -/
def ofNode (n : Node) : Decode TimingDefaults := do
  let fields ← Fields.ofNode ["pulses", "sequence_interval_ns", "repetitions"] false n
  return {
    pulses := ← fields.orElse "pulses" odmr.pulses (Node.toMapOf PulseWindow.ofNode)
    interval := ← fields.orElse "sequence_interval_ns" odmr.interval Node.toNanoseconds
    repetitions := ← fields.orElse "repetitions" odmr.repetitions Node.toCount }

end TimingDefaults

end PulseTrain
