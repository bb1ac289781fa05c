import PulseTrain.Document.Experiment
import PulseTrain.Protocol.Basic

/-!
# Documents of protocols

How the settings of a protocol are written in documents. A setting that is left out has its
standard value.
-/

namespace PulseTrain

namespace RepetitionPlan

/-- Writes a plan. -/
def toNode (p : RepetitionPlan) : Node :=
  .record [("repetitions", .nat p.repetitions), ("sequence_interval_ns", .nat p.interval)]

/-- Reads a plan. -/
def ofNode (n : Node) : Decode RepetitionPlan := do
  let fields ← Fields.ofNode ["repetitions", "sequence_interval_ns"] true n
  return {
    repetitions := ← fields.required "repetitions" Node.toCount
    interval := ← fields.required "sequence_interval_ns" Node.toNanoseconds }

end RepetitionPlan

/-- A number of nanoseconds that may be left out. -/
def Fields.nanoseconds (fields : Fields) (name : String) (otherwise : Nanoseconds) :
    Decode Nanoseconds :=
  fields.orElse name otherwise Node.toNanoseconds

namespace Odmr

/-- Writes the settings. -/
def toNode (p : Odmr) : Node :=
  .record
    [("laser", p.laser.toNode), ("microwave", p.microwave.toNode),
      ("detection", p.detection.toNode)]

/-- Reads the settings. -/
def ofNode (n : Node) : Decode Odmr := do
  let fields ← Fields.ofNode ["laser", "microwave", "detection"] true n
  let d : Odmr := {}
  return {
    laser := ← fields.orElse "laser" d.laser PulseWindow.ofNode
    microwave := ← fields.orElse "microwave" d.microwave PulseWindow.ofNode
    detection := ← fields.orElse "detection" d.detection PulseWindow.ofNode }

end Odmr

namespace Rabi

/-- Writes the settings. -/
def toNode (p : Rabi) : Node :=
  .record
    [("laser_ns", .nat p.laser), ("wait_ns", .nat p.wait), ("mw_ns", .nat p.microwave),
      ("detection_ns", .nat p.detection)]

/-- Reads the settings. -/
def ofNode (n : Node) : Decode Rabi := do
  let fields ← Fields.ofNode ["laser_ns", "wait_ns", "mw_ns", "detection_ns"] true n
  let d : Rabi := {}
  return {
    laser := ← fields.nanoseconds "laser_ns" d.laser
    wait := ← fields.nanoseconds "wait_ns" d.wait
    microwave := ← fields.nanoseconds "mw_ns" d.microwave
    detection := ← fields.nanoseconds "detection_ns" d.detection }

end Rabi

namespace Ramsey

/-- Writes the settings. -/
def toNode (p : Ramsey) : Node :=
  .record
    [("laser_ns", .nat p.laser), ("pi_half_ns", .nat p.piHalf), ("tau_ns", .nat p.tau),
      ("detection_ns", .nat p.detection)]

/-- Reads the settings. -/
def ofNode (n : Node) : Decode Ramsey := do
  let fields ← Fields.ofNode ["laser_ns", "pi_half_ns", "tau_ns", "detection_ns"] true n
  let d : Ramsey := {}
  return {
    laser := ← fields.nanoseconds "laser_ns" d.laser
    piHalf := ← fields.nanoseconds "pi_half_ns" d.piHalf
    tau := ← fields.nanoseconds "tau_ns" d.tau
    detection := ← fields.nanoseconds "detection_ns" d.detection }

end Ramsey

namespace SpinEcho

/-- Writes the settings. -/
def toNode (p : SpinEcho) : Node :=
  .record
    [("laser_ns", .nat p.laser), ("pi_half_ns", .nat p.piHalf), ("pi_ns", .nat p.pi),
      ("tau_ns", .nat p.tau), ("detection_ns", .nat p.detection)]

/-- Reads the settings. -/
def ofNode (n : Node) : Decode SpinEcho := do
  let fields ← Fields.ofNode ["laser_ns", "pi_half_ns", "pi_ns", "tau_ns", "detection_ns"] true n
  let d : SpinEcho := {}
  return {
    laser := ← fields.nanoseconds "laser_ns" d.laser
    piHalf := ← fields.nanoseconds "pi_half_ns" d.piHalf
    pi := ← fields.nanoseconds "pi_ns" d.pi
    tau := ← fields.nanoseconds "tau_ns" d.tau
    detection := ← fields.nanoseconds "detection_ns" d.detection }

end SpinEcho

namespace T1

/-- Writes the settings. -/
def toNode (p : T1) : Node :=
  .record
    [("init_delay_ns", .nat p.initDelay), ("init_laser_ns", .nat p.initLaser),
      ("delay_ns", .nat p.delay), ("readout_laser_ns", .nat p.readoutLaser),
      ("detection_ns", .nat p.detection)]

/-- Reads the settings. -/
def ofNode (n : Node) : Decode T1 := do
  let fields ← Fields.ofNode
    ["init_delay_ns", "init_laser_ns", "delay_ns", "readout_laser_ns", "detection_ns"] true n
  let d : T1 := {}
  return {
    initDelay := ← fields.nanoseconds "init_delay_ns" d.initDelay
    initLaser := ← fields.nanoseconds "init_laser_ns" d.initLaser
    delay := ← fields.nanoseconds "delay_ns" d.delay
    readoutLaser := ← fields.nanoseconds "readout_laser_ns" d.readoutLaser
    detection := ← fields.nanoseconds "detection_ns" d.detection }

end T1

namespace Protocol

/-- Writes the settings of a protocol. -/
def toNode : Protocol → Node
  | odmr p => p.toNode
  | rabi p => p.toNode
  | ramsey p => p.toNode
  | spinEcho p => p.toNode
  | t1 p => p.toNode

/-- Reads the settings of the protocol of that name; nothing if there is no such protocol. -/
def ofNode? (name : String) (n : Node) : Option (Decode Protocol) :=
  match name with
  | "odmr" => some (odmr <$> Odmr.ofNode n)
  | "rabi" => some (rabi <$> Rabi.ofNode n)
  | "ramsey" => some (ramsey <$> Ramsey.ofNode n)
  | "spin-echo" => some (spinEcho <$> SpinEcho.ofNode n)
  | "t1" => some (t1 <$> T1.ofNode n)
  | _ => none

end Protocol

end PulseTrain
