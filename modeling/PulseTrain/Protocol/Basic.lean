import PulseTrain.Protocol.Layout
import PulseTrain.Pulse.TimingSpec

/-!
# Standard protocols

Pulse protocols for a single spin that is read out optically, on the laser, microwave and detection
channels. To sweep a parameter one compiles a protocol for each of its values.

| protocol | unit |
|---|---|
| ODMR | three independent windows |
| Rabi | laser, wait, microwave, detection |
| Ramsey | laser, relaxation, π/2, τ, π/2, delay, detection |
| spin echo | laser, relaxation, π/2, τ, π, τ, delay, detection |
| T1 | delay, laser, dark time, readout laser and detection together |
-/

namespace PulseTrain

/-- The wait after the first laser pulse before the spin is driven. -/
def relaxation : Nanoseconds := 1000

/-- The wait after the spin was driven before it is read out. -/
def readoutDelay : Nanoseconds := 100

/-- How a unit is repeated. -/
structure RepetitionPlan where
  /-- How often the unit is played. -/
  repetitions : Nat := 1
  /-- The time with all lines off between two repetitions. -/
  interval : Nanoseconds := 10000
deriving DecidableEq

/-- Pulsed magnetic resonance: independent windows. -/
structure Odmr where
  /-- The laser window. -/
  laser : PulseWindow := ⟨48, 1000⟩
  /-- The microwave window. -/
  microwave : PulseWindow := ⟨104, 104⟩
  /-- The detection window. -/
  detection : PulseWindow := ⟨200, 504⟩
deriving DecidableEq

/-- Rabi oscillation: a microwave pulse of varied length. -/
structure Rabi where
  /-- The length of the laser pulse. -/
  laser : Nanoseconds := 1000
  /-- The wait between laser and microwave. -/
  wait : Nanoseconds := relaxation
  /-- The length of the microwave pulse. -/
  microwave : Nanoseconds := 100
  /-- The length of the detection window. -/
  detection : Nanoseconds := 500
deriving DecidableEq

/-- Ramsey interferometry: free evolution between two π/2 pulses. -/
structure Ramsey where
  /-- The length of the laser pulse. -/
  laser : Nanoseconds := 1000
  /-- The length of a π/2 pulse. -/
  piHalf : Nanoseconds := 25
  /-- The time of free evolution. -/
  tau : Nanoseconds := 1000
  /-- The length of the detection window. -/
  detection : Nanoseconds := 500
deriving DecidableEq

/-- Spin echo: free evolution on either side of a refocusing π pulse. -/
structure SpinEcho where
  /-- The length of the laser pulse. -/
  laser : Nanoseconds := 1000
  /-- The length of the π/2 pulse. -/
  piHalf : Nanoseconds := 25
  /-- The length of the π pulse. -/
  pi : Nanoseconds := 50
  /-- The time of free evolution on each side. -/
  tau : Nanoseconds := 1000
  /-- The length of the detection window. -/
  detection : Nanoseconds := 500
deriving DecidableEq

/-- T1 relaxation: dark time between two laser pulses. -/
structure T1 where
  /-- The wait before the first laser pulse. -/
  initDelay : Nanoseconds := 0
  /-- The length of the first laser pulse. -/
  initLaser : Nanoseconds := 1000
  /-- The dark time. -/
  delay : Nanoseconds := 10000
  /-- The length of the readout laser pulse. -/
  readoutLaser : Nanoseconds := 1000
  /-- The length of the detection window, which begins with the readout laser. -/
  detection : Nanoseconds := 500
deriving DecidableEq

/-- A protocol with its settings. -/
inductive Protocol where
  /-- Pulsed magnetic resonance. -/
  | odmr (p : Odmr)
  /-- Rabi oscillation. -/
  | rabi (p : Rabi)
  /-- Ramsey interferometry. -/
  | ramsey (p : Ramsey)
  /-- Spin echo. -/
  | spinEcho (p : SpinEcho)
  /-- T1 relaxation. -/
  | t1 (p : T1)
deriving DecidableEq

namespace Rabi

/-- The unit, end to end. -/
def layout (p : Rabi) : List LayoutItem :=
  [.pulse ChannelSet.laser p.laser, .wait p.wait, .pulse ChannelSet.microwave p.microwave,
    .pulse ChannelSet.detection p.detection]

end Rabi

namespace Ramsey

/-- The unit, end to end. -/
def layout (p : Ramsey) : List LayoutItem :=
  [.pulse ChannelSet.laser p.laser, .wait relaxation, .pulse ChannelSet.microwave p.piHalf,
    .wait p.tau, .pulse ChannelSet.microwave p.piHalf, .wait readoutDelay,
    .pulse ChannelSet.detection p.detection]

end Ramsey

namespace SpinEcho

/-- The unit, end to end. -/
def layout (p : SpinEcho) : List LayoutItem :=
  [.pulse ChannelSet.laser p.laser, .wait relaxation, .pulse ChannelSet.microwave p.piHalf,
    .wait p.tau, .pulse ChannelSet.microwave p.pi, .wait p.tau, .wait readoutDelay,
    .pulse ChannelSet.detection p.detection]

end SpinEcho

namespace T1

/-- What comes before the readout, end to end. -/
def layout (p : T1) : List LayoutItem :=
  [.wait p.initDelay, .pulse ChannelSet.laser p.initLaser, .wait p.delay]

end T1

namespace Protocol

/-- The name of a protocol. -/
def name : Protocol → String
  | odmr _ => "odmr"
  | rabi _ => "rabi"
  | ramsey _ => "ramsey"
  | spinEcho _ => "spin-echo"
  | t1 _ => "t1"

/-- The pulses of one unit. The detection window of a T1 unit begins where the readout laser is
laid. Whether it ends within the range of a 64-bit counter is left to the timing spec, as it is for
the windows of an ODMR unit. -/
def pulses (p : Protocol) : Except CompileError (List NamedPulse) :=
  match p with
  | odmr o =>
    .ok [(ChannelSet.laser, o.laser), (ChannelSet.microwave, o.microwave),
      (ChannelSet.detection, o.detection)]
  | rabi r => Layout.pulses <$> Layout.addAll p.name .empty r.layout
  | ramsey r => Layout.pulses <$> Layout.addAll p.name .empty r.layout
  | spinEcho e => Layout.pulses <$> Layout.addAll p.name .empty e.layout
  | t1 t => do
    let l ← Layout.addAll p.name .empty t.layout
    let (readout, l) ← l.add p.name (.pulse ChannelSet.laser t.readoutLaser)
    return l.pulses ++ [(ChannelSet.detection, ⟨readout, t.detection⟩)]

/-- The timing spec of a protocol on declared channels. -/
def timingSpec (p : Protocol) (channels : ChannelSet) (plan : RepetitionPlan) :
    Except CompileError TimingSpec := do
  let pulses ← p.pulses
  let events ← pulses.mapM fun (name, w) => do
    let channel ← channels.require name
    return PulseEvent.mk channel w.start w.duration
  TimingSpec.ofParts events plan.interval plan.repetitions 0

end Protocol

end PulseTrain
