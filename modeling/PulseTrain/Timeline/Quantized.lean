import PulseTrain.CompileError
import PulseTrain.Quantum
import PulseTrain.Timeline.Builder

/-!
# Timelines on the hardware grid

Every breakpoint of a timeline is moved up to the grid of a quantum, each by itself: it is late by
less than one tick, and the error does not add up along the timeline. A span whose two ends meet on
one tick disappears, and the state after it takes effect at that tick.
-/

namespace PulseTrain

/-- The spans that disappeared because both ends moved to the same tick. -/
structure CollapsedSpans where
  /-- How many there were. -/
  count : Nat
  /-- How many of them had a line on. -/
  withActiveChannels : Nat
deriving DecidableEq

namespace CollapsedSpans

/-- Nothing disappeared. -/
def none : CollapsedSpans := ⟨0, 0⟩

/-- One more span with this state disappeared. -/
def add (c : CollapsedSpans) (state : ChannelState) : CollapsedSpans :=
  ⟨c.count + 1, if state.isOff then c.withActiveChannels else c.withActiveChannels + 1⟩

end CollapsedSpans

namespace Quantum

/-- The first tick at or after `t`, which has to fit in a 64-bit counter. -/
def tick (q : Quantum) (t : Nanoseconds) : Except CompileError Nanoseconds :=
  match q.alignUp t with
  | some m => .ok m
  | none => .error (.overflow s!"{t} ns aligned to {q.label}")

end Quantum

namespace Timeline

/-- Appends a span with its ends on the grid, unless they meet. -/
def appendQuantized (q : Quantum) (done : TimelineBuilder × CollapsedSpans) (s : Span) :
    Except CompileError (TimelineBuilder × CollapsedSpans) := do
  let start ← q.tick s.start
  let stop ← q.tick s.stop
  if stop = start then
    return (done.1, done.2.add s.state)
  else
    return (done.1.extendTo stop s.state, done.2)

/-- The timeline with every breakpoint on the grid, and the spans that disappeared. -/
def quantized (t : Timeline) (q : Quantum) : Except CompileError (Timeline × CollapsedSpans) := do
  let (builder, collapsed) ← t.spans.foldlM (appendQuantized q) (.empty, .none)
  if builder.timeline.length = 0 then
    throw .degenerateSequence
  return (builder.timeline, collapsed)

end Timeline

end PulseTrain
