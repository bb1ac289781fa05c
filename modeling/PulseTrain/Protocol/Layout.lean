import PulseTrain.CompileError
import PulseTrain.Experiment.Params

/-!
# Back-to-back layouts

Most protocols lay pulses and waits end to end from the start of the unit. Every item begins at a
cursor, which it moves to its end, and has to end within the range of a 64-bit counter.
-/

namespace PulseTrain

/-- One item of a layout. -/
inductive LayoutItem where
  /-- Nothing happens for a time. -/
  | wait (duration : Nanoseconds)
  /-- A pulse on the channel of that name. -/
  | pulse (channel : String) (duration : Nanoseconds)
deriving DecidableEq

/-- A pulse window on the channel of that name. -/
abbrev NamedPulse := String × PulseWindow

namespace LayoutItem

/-- How long the item lasts. -/
def duration : LayoutItem → Nanoseconds
  | wait d => d
  | pulse _ d => d

end LayoutItem

/-- The items that have been laid. -/
structure Layout where
  /-- Where the next item begins. -/
  cursor : Nanoseconds
  /-- The windows of the pulses among the items. -/
  pulses : List NamedPulse
deriving DecidableEq

namespace Layout

/-- Nothing has been laid. -/
def empty : Layout := ⟨0, []⟩

/-- Lays one more item, and says where it begins. -/
def add (protocol : String) (l : Layout) (item : LayoutItem) :
    Except CompileError (Nanoseconds × Layout) :=
  match Nanoseconds.add? l.cursor item.duration with
  | none => .error (.overflow s!"{protocol} layout")
  | some stop =>
    match item with
    | .wait _ => .ok (l.cursor, { l with cursor := stop })
    | .pulse channel d => .ok (l.cursor, ⟨stop, l.pulses ++ [(channel, ⟨l.cursor, d⟩)]⟩)

/-- Lays items end to end. -/
def addAll (protocol : String) (l : Layout) (items : List LayoutItem) :
    Except CompileError Layout :=
  items.foldlM (fun l item => Prod.snd <$> l.add protocol item) l

end Layout

end PulseTrain
