import PulseTrain.Document.Node

/-!
# Writing JSON

`compact` writes a document on one line. `pretty` puts every item and field on a line of its own,
two blanks deeper than what holds it; lists and records without content stay on one line.
-/

namespace PulseTrain.Json

/-- The hexadecimal digit of a number below 16. -/
def hexDigit (n : Nat) : Char := (Nat.toDigits 16 n).headD '0'

/-- A character within quotes. Quotes, backslashes and control characters are escaped; all else
stands for itself. -/
def escape (c : Char) : String :=
  if c = '"' then "\\\""
  else if c = '\\' then "\\\\"
  else if c = '\n' then "\\n"
  else if c = '\r' then "\\r"
  else if c = '\t' then "\\t"
  else if c = '\x08' then "\\b"
  else if c = '\x0c' then "\\f"
  else if c.toNat < 0x20 then
    "\\u00" ++ String.ofList [hexDigit (c.toNat / 16), hexDigit (c.toNat % 16)]
  else c.toString

/-- A text in quotes. -/
def quoted (s : String) : String :=
  "\"" ++ s.toList.foldl (fun acc c => acc ++ escape c) "" ++ "\""

mutual

/-- A document on one line. -/
def compact : Node → String
  | .null => "null"
  | .bool b => if b then "true" else "false"
  | .int n => toString n
  | .real text => text
  | .str s => quoted s
  | .plain s | .tagged _ s => quoted s
  | .list items => "[" ++ String.intercalate "," (compactItems items) ++ "]"
  | .record fields => "\x7b" ++ String.intercalate "," (compactFields fields) ++ "\x7d"

/-- The items of a list. -/
def compactItems : List Node → List String
  | [] => []
  | item :: rest => compact item :: compactItems rest

/-- The fields of a record. -/
def compactFields : List (String × Node) → List String
  | [] => []
  | (name, value) :: rest => (quoted name ++ ":" ++ compact value) :: compactFields rest

end

/-- Parts of a list or record in brackets, each on a line at the given depth. -/
def bracketed (opening closing : String) (depth : Nat) (parts : List String) : String :=
  if parts.isEmpty then
    opening ++ closing
  else
    let margin (n : Nat) := "\n" ++ "".pushn ' ' (2 * n)
    opening ++ margin (depth + 1) ++ String.intercalate ("," ++ margin (depth + 1)) parts ++
      margin depth ++ closing

mutual

/-- A document over several lines, within `depth` others. -/
def prettyAt (depth : Nat) : Node → String
  | .null => "null"
  | .bool b => if b then "true" else "false"
  | .int n => toString n
  | .real text => text
  | .str s => quoted s
  | .plain s | .tagged _ s => quoted s
  | .list items => bracketed "[" "]" depth (prettyItems (depth + 1) items)
  | .record fields => bracketed "\x7b" "\x7d" depth (prettyFields (depth + 1) fields)

/-- The items of a list. -/
def prettyItems (depth : Nat) : List Node → List String
  | [] => []
  | item :: rest => prettyAt depth item :: prettyItems depth rest

/-- The fields of a record. -/
def prettyFields (depth : Nat) : List (String × Node) → List String
  | [] => []
  | (name, value) :: rest =>
    (quoted name ++ ": " ++ prettyAt depth value) :: prettyFields depth rest

end

/-- A document over several lines. -/
def pretty (n : Node) : String := prettyAt 0 n

end PulseTrain.Json
