import PulseTrain.Channel.Set
import PulseTrain.Sequence.Basic

/-!
# Segment tables

One line for each segment of a sequence: its number, when it begins, how long it lasts, and the
level of every channel. A cell is padded with blanks to the width of its column. Width is counted in
characters; a text that is wider than its column stays as it is.
-/

namespace PulseTrain

namespace Column

/-- So many blanks. -/
def blanks (n : Nat) : String := "".pushn ' ' n

/-- A text at the right end of its column. -/
def right (width : Nat) (s : String) : String := blanks (width - s.length) ++ s

/-- A text in the middle of its column; of an odd number of blanks the extra one goes to the
right. -/
def centered (width : Nat) (s : String) : String :=
  let spare := width - s.length
  blanks (spare / 2) ++ s ++ blanks (spare - spare / 2)

end Column

namespace Table

/-- The cells that every line begins with. -/
def lead (number start duration : String) : String :=
  Column.right 5 number ++ "  " ++ Column.right 12 start ++ "  " ++ Column.right 12 duration

/-- The title line. -/
def header (channels : ChannelSet) : String :=
  lead "#" "start_ns" "duration_ns" ++
    String.join (channels.names.map fun name => "  " ++ Column.centered 10 name)

/-- The level of a channel. With colours, a channel that is on is green and bold, and one that is
off is dim. -/
def cell (colors on : Bool) : String :=
  let text := Column.centered 10 (if on then "ON" else "-")
  if colors then
    (if on then "\x1b[32m\x1b[1m" else "\x1b[2m") ++ text ++ "\x1b[0m"
  else
    text

/-- The line of a segment. -/
def row (channels : ChannelSet) (colors : Bool) (number : Nat) (start : Nanoseconds)
    (s : Segment) : String :=
  lead (toString number) (toString start) (toString s.duration) ++
    String.join (channels.ids.map fun c => "  " ++ cell colors (s.state.isOn c))

/-- The title and the lines of all segments. -/
def lines (s : CompiledSequence) (channels : ChannelSet) (colors : Bool) : List String :=
  header channels :: s.offsets.mapIdx fun i (start, segment) => row channels colors i start segment

/-- The table, each line with its line break. -/
def render (s : CompiledSequence) (channels : ChannelSet) (colors : Bool) : String :=
  String.join ((lines s channels colors).map fun line => line ++ "\n")

end Table

end PulseTrain
