import PulseTrain.Document.Yaml.Character

/-!
# Tags

A tag says what kind of thing a node is. It is spelled as a whole, or else behind a handle, for
which a document may choose what it stands for. Characters may be escaped, by a percent sign and two
digits for every octet of their encoding.

A tag ends at the first null character, if one is escaped in it.
-/

namespace PulseTrain.Yaml

/-- A tag as it is spelled. -/
inductive Tag where
  /-- All of it. -/
  | whole (text : String)
  /-- A handle and what comes behind what it stands for. -/
  | short (handle suffix : String)

namespace Tag

/-! ## Spelling -/

/-- How many octets of a character are still to come behind one, when `left` are to come
before it. -/
def following? (left octet : Nat) : Option Nat :=
  if octet < 0x80 then if left = 0 then some 0 else none
  else if octet < 0xc0 then if left = 0 then none else some (left - 1)
  else if left ≠ 0 then none
  else if octet < 0xe0 then some 1
  else if octet < 0xf0 then some 2
  else if octet < 0xf8 then some 3
  else none

/-- Reads characters of a tag, with `left` octets of an escaped character to come. Gives the
octets, and what stands behind them. -/
def octets? (whole : Bool) : Nat → List Char → Option (List Char × List Char)
  | left, '%' :: a :: b :: cs => do
    let octet := 16 * (← hexValue? a) + (← hexValue? b)
    let (text, rest) ← octets? whole (← following? left octet) cs
    return (.ofNat octet :: text, rest)
  | 0, c :: cs =>
    if isTagCharacter whole c then do
      let (text, rest) ← octets? whole 0 cs
      return (c :: text, rest)
    else if c = '%' then none
    else some ([], c :: cs)
  | 0, [] => some ([], [])
  | _ + 1, _ => none

/-- The octets up to the first null. -/
def cut (octets : List Char) : String := .ofList (octets.takeWhile (· ≠ '\x00'))

/-- Reads at least one character of a tag. -/
def part? (whole : Bool) (cs : List Char) : Option (String × List Char) := do
  match ← octets? whole 0 cs with
  | ([], _) => none
  | (octets, rest) => some (cut octets, rest)

/-- Reads a tag behind its exclamation mark. A mark with nothing behind it is a tag of its own. -/
def read? : List Char → Option (Tag × List Char)
  | '<' :: cs => do
    match ← part? true cs with
    | (text, '>' :: rest) => some (whole text, rest)
    | _ => none
  | cs =>
    match cs.dropWhile isWordCharacter with
    | '!' :: behind => do
      let (suffix, rest) ← part? false behind
      return (short ("!" ++ .ofList (cs.takeWhile isWordCharacter) ++ "!") suffix, rest)
    | _ => do
      let (octets, rest) ← octets? false 0 cs
      let suffix := cut octets
      return (if suffix = "" then whole "!" else short "!" suffix, rest)

/-! ## Meaning -/

/-- What the tags of the common kinds begin with. -/
def common : String := "tag:yaml.org,2002:"

/-- The tag of nothing. -/
def null : String := common ++ "null"

/-- The tag of whole numbers. -/
def int : String := common ++ "int"

/-- The tag that says no more than that a scalar is one. -/
def bare : String := "!"

/-- What handles stand for unless a document says something else. -/
def standardHandles : List (String × String) := [("!", "!"), ("!!", common)]

/-- The whole tag, given what handles stand for; nothing for an unknown handle. -/
def resolve? (handles : List (String × String)) : Tag → Option String
  | whole text => some text
  | short handle suffix =>
    ((handles ++ standardHandles).lookup handle).map fun start => start ++ suffix

end Tag

end PulseTrain.Yaml
