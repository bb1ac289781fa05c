import PulseTrain.Document.Yaml.Character

/-!
# The text of a scalar

A scalar may go on over several lines. Blanks around a line break do not count, a single break is
read as a blank, and of several breaks the first is dropped. A block scalar keeps its breaks, unless
it is folded, and what breaks it keeps at its end its header says.

Texts that are still being read have their last character first.
-/

namespace PulseTrain.Yaml

/-- What the way in which a scalar is written says about it. -/
inductive ScalarForm where
  /-- It is plain and may stand for anything. -/
  | plain
  /-- It is a literal block: a text, unless it has a tag. -/
  | literal
  /-- It is in quotes or a folded block: a text. -/
  | text

/-! ## Plain and quoted scalars -/

/-- What has been read since the last character that counts. -/
inductive Gap where
  /-- Blanks within the line. -/
  | blanks (cs : List Char)
  /-- The first line break, unless it was escaped, and the breaks behind it. -/
  | breaks (first : Option Char) (more : List Char)

namespace Gap

/-- Nothing. -/
def empty : Gap := blanks []

/-- Whether a line has ended. -/
def isBroken : Gap → Bool
  | blanks _ => false
  | breaks .. => true

/-- One blank more. Those at the beginning of a line do not count. -/
def blank (c : Char) : Gap → Gap
  | blanks cs => blanks (c :: cs)
  | breaks first more => breaks first more

/-- One line break more. -/
def lineBreak (c : Char) : Gap → Gap
  | blanks _ => breaks (some c) []
  | breaks first more => breaks first (c :: more)

/-- What is read for it between two characters that count. -/
def fold : Gap → List Char
  | blanks cs => cs
  | breaks (some '\n') [] => [' ']
  | breaks (some '\n') more => more
  | breaks (some c) more => more ++ [c]
  | breaks none more => more

end Gap

/-- A plain or quoted scalar, so far. -/
structure Flowing where
  /-- Its text up to the last character that counts. -/
  text : List Char
  /-- What follows. -/
  gap : Gap

namespace Flowing

/-- Without any text. -/
def empty : Flowing := ⟨[], .empty⟩

/-- With the gap folded into the text. -/
def joined (s : Flowing) : Flowing := ⟨s.gap.fold ++ s.text, .empty⟩

/-- With one more character that counts. -/
def push (s : Flowing) (c : Char) : Flowing := ⟨c :: s.joined.text, .empty⟩

/-- With one more blank or line break. -/
def space (s : Flowing) (c : Char) : Flowing :=
  { s with gap := if isBreak c then s.gap.lineBreak c else s.gap.blank c }

/-- With a line break that does not count. -/
def escapedBreak (s : Flowing) : Flowing := ⟨s.joined.text, .breaks none []⟩

/-- The text without the gap. -/
def value (s : Flowing) : String := .ofList s.text.reverse

end Flowing

/-! ## Block scalars -/

/-- Which line breaks at its end belong to a block scalar. -/
inductive Chomping where
  /-- One. -/
  | clip
  /-- None. -/
  | strip
  /-- All of them. -/
  | keep

/-- The first line of a block scalar, so far. -/
structure BlockHeader where
  /-- Single line breaks are read as blanks. -/
  folded : Bool
  /-- Which line breaks at the end count, if that is said. -/
  chomping : Option Chomping
  /-- By how many columns the text is indented, if that is said. -/
  indent : Option Nat
  /-- Only blanks and a comment may follow. -/
  closed : Bool
  /-- A comment has begun. -/
  commented : Bool

namespace BlockHeader

/-- Behind the character that announces a block scalar. -/
def start (folded : Bool) : BlockHeader := ⟨folded, none, none, false, false⟩

/-- Takes a character of the line; nothing if it is refused. -/
def step (h : BlockHeader) (c : Char) : Option BlockHeader :=
  if h.commented then some h
  else if isBlank c then some { h with closed := true }
  else if c = '#' then some { h with commented := true }
  else if h.closed then none
  else if (c = '+' || c = '-') && h.chomping.isNone then
    some { h with chomping := some (if c = '+' then .keep else .strip) }
  else if '1' ≤ c && c ≤ '9' && h.indent.isNone then
    some { h with indent := some (c.toNat - '0'.toNat) }
  else none

end BlockHeader

/-- A block scalar behind its first line, so far. -/
structure Block where
  /-- Single line breaks are read as blanks. -/
  folded : Bool
  /-- Which line breaks at the end count. -/
  chomping : Chomping
  /-- The least column of the text. -/
  margin : Nat
  /-- The column of the text, once it is known. -/
  column : Option Nat
  /-- The text up to the end of the last line that is not empty. -/
  text : List Char
  /-- The line break behind it. -/
  first : Option Char
  /-- The line breaks behind that. -/
  more : List Char
  /-- The last line that is not empty begins with a blank. -/
  blankLine : Bool
  /-- The furthest column that the indentation has reached. -/
  deepest : Nat
  /-- Within a line that is not empty. -/
  within : Bool

namespace Block

/-- Behind the header, within a block collection whose content begins at `margin`. -/
def start (h : BlockHeader) (margin : Nat) : Block :=
  { folded := h.folded
    chomping := h.chomping.getD .clip
    margin := max margin 1
    column := h.indent.map (margin - 1 + ·)
    text := []
    first := none
    more := []
    blankLine := false
    deepest := 0
    within := false }

/-- With a line break. -/
def lineBreak (b : Block) (c : Char) : Block :=
  if b.within then { b with first := some c, more := [], within := false }
  else { b with more := c :: b.more }

/-- With the first character of a line. -/
def beginLine (b : Block) (c : Char) : Block :=
  let joined :=
    if b.folded && b.first = some '\n' && !b.blankLine && !isBlank c then
      if b.more.isEmpty then [' '] else b.more
    else
      b.more ++ b.first.toList
  { b with
    text := c :: (joined ++ b.text)
    first := none
    more := []
    blankLine := isBlank c
    within := true }

/-- The column of the text, given that something stands in a column. -/
def columnAt (b : Block) (column : Nat) : Nat :=
  b.column.getD (max (max b.deepest column) b.margin)

/-- The whole text. -/
def value (b : Block) : String :=
  let tail := match b.chomping with
    | .strip => []
    | .clip => b.first.toList
    | .keep => b.more ++ b.first.toList
  .ofList (tail ++ b.text).reverse

end Block

end PulseTrain.Yaml
