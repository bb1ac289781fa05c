import PulseTrain.Channel.State
import PulseTrain.Nanoseconds

/-!
# Timelines

A timeline says which lines are on at every instant of an interval that starts at zero. It is a
list of spans, each a half-open interval with a constant state. In canonical form the spans follow
one another without gaps, none is empty, and neighbours differ in state; a timeline as such is
plain data, since one may be read from outside.

`stateAt` looks an instant up by bisection on the ends of the spans.
-/

namespace PulseTrain

/-- A half-open interval of time with a constant state. -/
structure Span where
  /-- The first instant of the span. -/
  start : Nanoseconds
  /-- The first instant after the span. -/
  stop : Nanoseconds
  /-- The state that holds over the span. -/
  state : ChannelState
deriving DecidableEq

namespace Span

/-- How long the span lasts. -/
def duration (s : Span) : Nanoseconds := s.stop - s.start

/-- The instant lies within the span. -/
def Contains (s : Span) (t : Nanoseconds) : Prop := s.start ≤ t ∧ t < s.stop

instance (s : Span) (t : Nanoseconds) : Decidable (s.Contains t) :=
  inferInstanceAs (Decidable (_ ∧ _))

end Span

/-- Spans in order of time. -/
structure Timeline where
  /-- The spans. -/
  spans : List Span
deriving DecidableEq

namespace Timeline

/-- The timeline without spans. -/
def empty : Timeline := ⟨[]⟩

/-- Whether there are no spans. -/
def isEmpty (t : Timeline) : Bool := t.spans.isEmpty

/-- The number of spans. -/
def size (t : Timeline) : Nat := t.spans.length

/-- The end of the last span. -/
def length (t : Timeline) : Nanoseconds := (t.spans.getLast?.map Span.stop).getD 0

/-- Zero and the end of every span; none if there are no spans. -/
def breakpoints (t : Timeline) : List Nanoseconds :=
  if t.isEmpty then [] else 0 :: t.spans.map Span.stop

/-! ## Canonical form -/

/-- The spans follow one another from `cursor` on, none is empty, and neighbours differ in
state. -/
def TilesFrom (cursor : Nanoseconds) : List Span → Prop
  | [] => True
  | s :: rest =>
    s.start = cursor ∧ s.start < s.stop ∧ (∀ n ∈ rest.head?, n.state ≠ s.state) ∧
      TilesFrom s.stop rest

/-- Decides whether spans tile an interval. -/
def decidableTilesFrom : (cursor : Nanoseconds) → (spans : List Span) →
    Decidable (TilesFrom cursor spans)
  | _, [] => isTrue trivial
  | cursor, s :: rest =>
    have := decidableTilesFrom s.stop rest
    have : Decidable (∀ n ∈ rest.head?, n.state ≠ s.state) :=
      match rest with
      | [] => isTrue (by simp)
      | n :: _ => decidable_of_iff (n.state ≠ s.state) (by simp)
    inferInstanceAs (Decidable (_ ∧ _ ∧ _ ∧ _))

instance (cursor : Nanoseconds) (spans : List Span) : Decidable (TilesFrom cursor spans) :=
  decidableTilesFrom cursor spans

/-- The spans tile the interval from zero, none is empty, and neighbours differ in state. -/
def Canonical (t : Timeline) : Prop := TilesFrom 0 t.spans

instance (t : Timeline) : Decidable t.Canonical := inferInstanceAs (Decidable (TilesFrom _ _))

/-! ## Look-up -/

/-- Bisection among the `size` spans from `base` on: the number of spans that end at or before `t`
if those come first. Each round looks at the middle span and keeps the half that starts with it if
it ends at or before `t`, else the half before it. -/
def endedFrom (spans : Array Span) (t : Nanoseconds) (base size : Nat)
    (nonempty : 0 < size) (inside : base + size ≤ spans.size) : Nat :=
  if many : 1 < size then
    let half := size / 2
    if spans[base + half].stop ≤ t then
      endedFrom spans t (base + half) (size - half) (by omega) (by omega)
    else
      endedFrom spans t base (size - half) (by omega) (by omega)
  else if spans[base].stop ≤ t then base + 1 else base
termination_by size
decreasing_by all_goals omega

/-- The number of spans that end at or before `t`, if those come first. -/
def ended (spans : Array Span) (t : Nanoseconds) : Nat :=
  if h : 0 < spans.size then endedFrom spans t 0 spans.size h (by omega) else 0

/-- The state at the instant `t`, found by bisection; none past the end. -/
def stateAt (t : Timeline) (instant : Nanoseconds) : Option ChannelState :=
  let spans := t.spans.toArray
  spans[ended spans instant]?.map Span.state

end Timeline

end PulseTrain
