import PulseTrain.Document.Yaml.Style

/-!
# Writing YAML

A document is written in block style, two blanks deeper for every record, the items of a list in
the column of the name that they belong to. A name that is long or has line breaks is announced by
a question mark.
-/

namespace PulseTrain.Yaml

/-! ## Scalars -/

/-- What stands behind a backslash for a character that has a short escape. -/
def shortEscapes : List (Char × Char) :=
  [('\x00', '0'), ('\x07', 'a'), ('\x08', 'b'), ('\t', 't'), ('\n', 'n'), ('\x0b', 'v'),
    ('\x0c', 'f'), ('\r', 'r'), ('\x1b', 'e'), ('"', '"'), ('\\', '\\'), ('\u0085', 'N'),
    ('\u2028', 'L'), ('\u2029', 'P')]

/-- Hexadecimal digits in capitals, at least `width` of them. -/
def hexDigits (width n : Nat) : String :=
  let digits := (Nat.toDigits 16 n).map Char.toUpper
  .ofList (List.replicate (width - digits.length) '0' ++ digits)

/-- A character within double quotes. -/
def escape (c : Char) : String :=
  match shortEscapes.lookup c with
  | some e => "\\" ++ e.toString
  | none =>
    if !isSpecial c then c.toString
    else if c.toNat < 0x100 then "\\x" ++ hexDigits 2 c.toNat
    else "\\u" ++ hexDigits 4 c.toNat

/-- A text in double quotes. -/
def doubleQuoted (s : String) : String :=
  "\"" ++ s.toList.foldl (fun acc c => acc ++ escape c) "" ++ "\""

/-- Blanks in front of a line. -/
def indent (depth : Nat) : String := "".pushn ' ' (2 * depth)

/-- Characters with blanks in front of each line that is not empty; `fresh` says that a line
begins. -/
def indented (depth : Nat) (fresh : Bool) : List Char → String
  | [] => ""
  | c :: cs =>
    let blanks := if fresh && !isBreak c then indent depth else ""
    blanks ++ c.toString ++ indented depth (isBreak c) cs

/-- A text in single quotes; a quote within is written twice. -/
def singleQuoted (depth : Nat) (s : String) : String :=
  let cs := s.toList.flatMap fun c => if c = '\'' then ['\'', '\''] else [c]
  let closing := if cs.getLast?.any isBreak then indent depth ++ "'" else "'"
  "'" ++ indented depth false cs ++ closing

/-- The first line of a literal block. It says how far the text is indented if its first character
does not show it, and which line breaks at its end belong to it. -/
def literalHeader (cs : List Char) : String :=
  let indentation := if cs.head?.any fun c => c = ' ' || isBreak c then "2" else ""
  let chomping := match cs.reverse with
    | [] => "-"
    | [c] => if isBreak c then "+" else "-"
    | c :: d :: _ => if !isBreak c then "-" else if isBreak d then "+" else ""
  "|" ++ indentation ++ chomping

/-- A line with its end. -/
def ended (line : String) : String := line ++ "\n"

/-- The lines of a literal block, those of its text all in one. No line feed follows any other line
break at its end. -/
def literalLines (depth : Nat) (s : String) : List String :=
  let body := indented depth true s.toList
  [ended (literalHeader s.toList), if s.toList.getLast?.any isBreak then body else ended body]

/-- A text that does not need lines of its own. -/
def inlineText (depth : Nat) (s : String) : String :=
  match Style.ofText s with
  | .plain => s
  | .single => singleQuoted depth s
  | .double | .literal => doubleQuoted s

/-- The lines of a text, within `depth` records. The first one stands behind something else. -/
def scalarLines (depth : Nat) (s : String) : List String :=
  if Style.ofText s = .literal then literalLines depth s else [ended (inlineText depth s)]

/-! ## Collections -/

/-- The lines of a value that can stand behind a dash or a colon. -/
def inline? (depth : Nat) : Node → Option (List String)
  | .null => some [ended "null"]
  | .bool b => some [ended (if b then "true" else "false")]
  | .int n => some [ended (toString n)]
  | .real text => some [ended text]
  | .str s => some (scalarLines depth s)
  | .plain s | .tagged _ s => some (scalarLines depth s)
  | .list [] => some [ended "[]"]
  | .record [] => some [ended "\x7b\x7d"]
  | .list (_ :: _) => none
  | .record (_ :: _) => none

/-- Lines, with something in front of the first. -/
def headed (head : String) : List String → List String
  | [] => []
  | first :: rest => (head ++ first) :: rest

/-- Puts a mark in place of the first blanks of the first line. -/
def marked (depth : Nat) (mark : String) : List String → List String
  | [] => []
  | first :: rest =>
    (indent depth ++ mark ++ " " ++ (first.drop (2 * (depth + 1))).toString) :: rest

/-- The items of a list stand in the column of the name that it belongs to, the fields of a record
further to the right. -/
def depthWithin (depth : Nat) : Node → Nat
  | .list _ => depth
  | _ => depth + 1

mutual

/-- The lines of a value, within `depth` records. -/
def lines (depth : Nat) : Node → List String
  | .list items => itemLines depth items
  | .record fields => fieldLines depth fields
  | n => headed (indent depth) ((inline? (depth + 1) n).getD [])

/-- The lines of the items of a list. -/
def itemLines (depth : Nat) : List Node → List String
  | [] => []
  | item :: rest =>
    (match inline? (depth + 1) item with
      | some ls => headed (indent depth ++ "- ") ls
      | none => marked depth "-" (lines (depth + 1) item)) ++ itemLines depth rest

/-- The lines of the fields of a record. -/
def fieldLines (depth : Nat) : List (String × Node) → List String
  | [] => []
  | (name, value) :: rest =>
    let content := inline? (depth + 1) value
    (if isSimpleKey name then
      let key := indent depth ++ inlineText (depth + 1) name ++ ":"
      match content with
      | some ls => headed (key ++ " ") ls
      | none => ended key :: lines (depthWithin depth value) value
    else
      headed (indent depth ++ "? ") (scalarLines (depth + 1) name) ++
        match content with
        | some ls => headed (indent depth ++ ": ") ls
        | none => marked depth ":" (lines (depth + 1) value)) ++ fieldLines depth rest

end

/-- A document in block style. -/
def render (n : Node) : String := (lines 0 n).foldl (· ++ ·) ""

end PulseTrain.Yaml
