import PulseTrain.Document.Node
import PulseTrain.Document.PlainNumber
import PulseTrain.Document.Yaml.Character

/-!
# Styles of scalars

A text is written plain if it then reads back as the same text, else in single quotes, and in double
quotes if it has characters that only occur escaped. A text with line feeds is written as a literal
block. A style gives way to one with quotes where it would lose something.
-/

namespace PulseTrain.Yaml

/-- How a text is written. -/
inductive Style where
  /-- As it is. -/
  | plain
  /-- In single quotes. -/
  | single
  /-- In double quotes. -/
  | double
  /-- In lines of its own. -/
  | literal
deriving DecidableEq

/-- A character that only occurs escaped. -/
def isSpecial (c : Char) : Bool := !isPermitted c || c = '\t' || c = byteOrderMark

/-- A character that ends a line, escaped or not. -/
def endsLine (c : Char) : Bool := isBreak c || c = '\r' || c = '\u0085'

/-- Whether a character of one class stands right before one of another. -/
def adjoin (before after : Char → Bool) (cs : List Char) : Bool :=
  (cs.zip cs.tail).any fun (c, d) => before c && after d

/-- A text that reads as something else than a text if it is plain: as nothing, as a truth value or
as a number. -/
def isAmbiguous (s : String) : Bool :=
  Node.isNothing s || PlainNumber.isNumber s ||
    ["true", "True", "TRUE", "false", "False", "FALSE", ".nan", ".NaN", ".NAN", ".inf", ".Inf",
      ".INF", "+.inf", "+.Inf", "+.INF", "-.inf", "-.Inf", "-.INF"].contains s

/-- Whether a text begins like the marker of a document. -/
def beginsAsMarker (cs : List Char) : Bool :=
  cs.take 3 = ['-', '-', '-'] || cs.take 3 = ['.', '.', '.']

/-- Whether a plain scalar may begin like this. -/
def beginsPlain : List Char → Bool
  | [] => false
  | c :: rest => !isIndicator c && !((c = '-' || c = '?' || c = ':') && blankNext rest)

/-- Whether a colon ends a key, or a comment begins, within a text. -/
def isInterrupted : List Char → Bool
  | [] => false
  | c :: rest =>
    (c = ':' && blankNext rest) || (isBlank c && rest.head? = some '#') || isInterrupted rest

/-- Whether a text begins or ends with a blank or line break. -/
def isLoose (cs : List Char) : Bool :=
  cs.head?.any (fun c => c = ' ' || endsLine c) || cs.getLast?.any fun c => c = ' ' || endsLine c

namespace Style

/-- Whether a text may be plain. -/
def allowsPlain (cs : List Char) : Bool :=
  beginsPlain cs && !beginsAsMarker cs && !isInterrupted cs && !isLoose cs &&
    !cs.any fun c => isSpecial c || endsLine c

/-- Whether a text may be in single quotes: no blank adjoins a line break. -/
def allowsSingle (cs : List Char) : Bool :=
  !adjoin endsLine (· = ' ') cs && !adjoin (· = ' ') endsLine cs && !cs.any isSpecial

/-- Whether a text may be a literal block: no blanks end a line. -/
def allowsLiteral (cs : List Char) : Bool :=
  cs.getLast? ≠ some ' ' && !adjoin (· = ' ') endsLine cs && !cs.any isSpecial

/-- The style of a text. -/
def ofText (s : String) : Style :=
  let cs := s.toList
  if cs.contains '\n' then
    if allowsLiteral cs then literal else double
  else if !isAmbiguous s && allowsPlain cs then plain
  else if allowsSingle cs then single
  else double

end Style

/-- The most bytes of a key that is written with nothing but a colon behind it. -/
def simpleKeyLimit : Nat := 128

/-- Whether a text may be written as a key with nothing but a colon behind it: if it is short and
stays on one line. -/
def isSimpleKey (s : String) : Bool := !s.toList.any endsLine && s.utf8ByteSize ≤ simpleKeyLimit

end PulseTrain.Yaml
