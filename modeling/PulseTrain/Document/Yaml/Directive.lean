import PulseTrain.Document.Yaml.Tag

/-!
# Directives

A document may have directives in front of it, each on a line that begins with a percent sign: one
for the version of YAML, and one for every handle of tags that is to stand for something else.
Other directives are refused, and so are other versions than 1.1 and 1.2.
-/

namespace PulseTrain.Yaml

/-- What is said in front of a document. -/
inductive Directive where
  /-- The version is known. -/
  | version
  /-- What a handle of tags stands for. -/
  | handle (name start : String)

namespace Directive

/-- Reads a number of one to nine digits. -/
def number? (cs : List Char) : Option (Nat × List Char) :=
  let digits := cs.takeWhile Char.isDigit
  if 1 ≤ digits.length && digits.length ≤ 9 then
    let value := digits.foldl (fun n c => 10 * n + (c.toNat - '0'.toNat)) 0
    some (value, cs.dropWhile Char.isDigit)
  else
    none

/-- Reads a version. -/
def version? (cs : List Char) : Option (Directive × List Char) := do
  match ← number? cs with
  | (1, '.' :: cs) =>
    let (minor, rest) ← number? cs
    if minor = 1 || minor = 2 then some (version, rest) else none
  | _ => none

/-- Reads the name of a handle. -/
def handleName? : List Char → Option (String × List Char)
  | '!' :: cs =>
    match cs.takeWhile isWordCharacter, cs.dropWhile isWordCharacter with
    | name, '!' :: rest => some ("!" ++ .ofList name ++ "!", rest)
    | [], rest => some ("!", rest)
    | _, _ => none
  | _ => none

/-- Reads a handle and what it stands for. -/
def handle? (cs : List Char) : Option (Directive × List Char) := do
  let (name, rest) ← handleName? cs
  if rest.head?.any isBlank then
    let (start, rest) ← Tag.part? true (rest.dropWhile isBlank)
    if blankNext rest then some (handle name start, rest) else none
  else
    none

/-- The directive on a line, behind the percent sign. A comment may follow it. -/
def ofLine? (line : List Char) : Option Directive := do
  let content := line.dropWhile isWordCharacter
  let (directive, rest) ←
    match String.ofList (line.takeWhile isWordCharacter) with
    | "YAML" => version? (content.dropWhile isBlank)
    | "TAG" => handle? (content.dropWhile isBlank)
    | _ => none
  let comment := rest.dropWhile isBlank
  if blankNext content && (comment.isEmpty || comment.head? = some '#') then some directive
  else none

end Directive

end PulseTrain.Yaml
