import PulseTrain.ModelError
import PulseTrain.Timeline.Basic

/-!
# Building timelines

A builder appends spans at the end of a timeline and keeps it canonical: what has no length is
dropped, and what continues the last state lengthens the last span. Spans that tile an interval from
zero make a timeline; neighbours with one state are joined.
-/

namespace PulseTrain

/-- A timeline that grows at its end. -/
structure TimelineBuilder where
  /-- The spans so far, the latest first. -/
  latestFirst : List Span
deriving DecidableEq

namespace TimelineBuilder

/-- Nothing has been appended. -/
def empty : TimelineBuilder := ⟨[]⟩

/-- The end of the timeline so far. -/
def cursor (b : TimelineBuilder) : Nanoseconds := (b.latestFirst.head?.map Span.stop).getD 0

/-- The timeline so far. -/
def timeline (b : TimelineBuilder) : Timeline := ⟨b.latestFirst.reverse⟩

/-- Holds `state` from the cursor up to the instant `stop`. Nothing changes if that is not past the
cursor. -/
def extendTo (b : TimelineBuilder) (stop : Nanoseconds) (state : ChannelState) :
    TimelineBuilder :=
  if stop ≤ b.cursor then
    b
  else
    match b.latestFirst with
    | [] => ⟨[⟨0, stop, state⟩]⟩
    | last :: earlier =>
      if last.state = state then
        ⟨{ last with stop := stop } :: earlier⟩
      else
        ⟨⟨last.stop, stop, state⟩ :: last :: earlier⟩

/-- Holds `state` for `duration` from the cursor on. The new end has to fit in a 64-bit counter. -/
def push (b : TimelineBuilder) (duration : Nanoseconds) (state : ChannelState) :
    Except ModelError TimelineBuilder :=
  match Nanoseconds.add? b.cursor duration with
  | some stop => .ok (b.extendTo stop state)
  | none => .error (.overflow "timeline length")

end TimelineBuilder

namespace Timeline

/-- Appends one span, which has to start at the cursor and to have a length. -/
def appendSpan (b : TimelineBuilder) (s : Span) : Except ModelError TimelineBuilder :=
  if s.start ≠ b.cursor then
    .error (.invalidTimeline
      s!"span starts at {s.start} ns but previous span ends at {b.cursor} ns")
  else if s.stop ≤ s.start then
    .error (.invalidTimeline s!"span [{s.start}, {s.stop}) is empty")
  else
    .ok (b.extendTo s.stop s.state)

/-- The timeline that holds the state of each span over that span. -/
def ofSpans (spans : List Span) : Except ModelError Timeline :=
  TimelineBuilder.timeline <$> spans.foldlM appendSpan .empty

end Timeline

end PulseTrain
