import PulseTrain.ModelError
import PulseTrain.Timeline.Basic

/-!
# Compiled sequences

What a pulse generator plays: segments, each a state and how long it is held. A sequence is plain
data; `ofSegments` is the checked way in, for segments that come from outside.
-/

namespace PulseTrain

/-- A state that is held for a time. -/
structure Segment where
  /-- The lines that are on. -/
  state : ChannelState
  /-- How long the state is held. -/
  duration : Nanoseconds
deriving DecidableEq

/-- Segments in the order in which they are played. -/
structure CompiledSequence where
  /-- The segments. -/
  segments : List Segment
  /-- How long the whole sequence lasts. -/
  total : Nanoseconds
deriving DecidableEq

namespace CompiledSequence

/-- The number of segments. -/
def size (s : CompiledSequence) : Nat := s.segments.length

/-- Whether there are no segments. -/
def isEmpty (s : CompiledSequence) : Bool := s.segments.isEmpty

/-- The sequence that plays a timeline. -/
def ofTimeline (t : Timeline) : CompiledSequence :=
  ⟨t.spans.map fun s => ⟨s.state, s.duration⟩, t.length⟩

/-! ## Checked segments -/

/-- The sum of the durations, `sum` counted in. Refused is the first segment, counted from `i`,
that has no duration, or the state of the segment before it, or an end beyond the range of a 64-bit
counter. -/
def checkedSum (i : Nat) (previous : Option ChannelState) (sum : Nanoseconds) :
    List Segment → Except ModelError Nanoseconds
  | [] => .ok sum
  | s :: rest =>
    if s.duration = 0 then
      .error (.invalidSequence s!"segment {i} has zero duration")
    else if previous = some s.state then
      .error (.invalidSequence s!"segments {i - 1} and {i} share state {s.state.label}")
    else
      match Nanoseconds.add? sum s.duration with
      | none => .error (.overflow "compiled sequence length")
      | some sum => checkedSum (i + 1) (some s.state) sum rest

/-- The sequence of these segments, whose durations have to add up to `total`. -/
def ofSegments (segments : List Segment) (total : Nanoseconds) :
    Except ModelError CompiledSequence := do
  let sum ← checkedSum 0 none 0 segments
  if sum ≠ total then
    throw (.invalidSequence s!"segments sum to {sum} ns but total_duration_ns is {total}")
  return ⟨segments, total⟩

/-! ## Playback -/

/-- Segments with the instants at which they begin, the first at `start`. -/
def offsetsFrom (start : Nanoseconds) : List Segment → List (Nanoseconds × Segment)
  | [] => []
  | s :: rest => (start, s) :: offsetsFrom (start + s.duration) rest

/-- The segments with the instants at which they begin. -/
def offsets (s : CompiledSequence) : List (Nanoseconds × Segment) := offsetsFrom 0 s.segments

/-- The state that segments hold at the instant `t` of their playback; none past the end. -/
def playing : List Segment → Nanoseconds → Option ChannelState
  | [], _ => none
  | s :: rest, t => if t < s.duration then some s.state else playing rest (t - s.duration)

/-- The state at the instant `t`; none past the end. -/
def stateAt (s : CompiledSequence) (t : Nanoseconds) : Option ChannelState := playing s.segments t

end CompiledSequence

end PulseTrain
