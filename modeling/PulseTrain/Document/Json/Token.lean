import PulseTrain.Document.Node
import PulseTrain.Nanoseconds

/-!
# JSON tokens

A JSON text is cut into brackets, colons, commas and scalars by a machine that takes one character
at a time, so that reading is plainly total. Strings obey the escapes of JSON: control characters
have to be escaped, and a surrogate has to come with its partner.
-/

namespace PulseTrain.Json

/-- A token of a JSON text. -/
inductive Token where
  /-- The beginning of a list. -/
  | openList
  /-- The end of a list. -/
  | closeList
  /-- The beginning of a record. -/
  | openRecord
  /-- The end of a record. -/
  | closeRecord
  /-- What separates a name from its value. -/
  | colon
  /-- What separates items or fields. -/
  | comma
  /-- A value without parts. -/
  | scalar (value : Node)

/-! ## Numbers -/

/-- The number that decimal digits spell. -/
def ofDigits (ds : List Char) : Nat := ds.foldl (fun n d => 10 * n + (d.toNat - '0'.toNat)) 0

/-- Digits, and what follows them. -/
def spanDigits (cs : List Char) : List Char × List Char := cs.span Char.isDigit

/-- An exponent, or nothing. -/
def isExponent : List Char → Bool
  | [] => true
  | e :: rest =>
    let digits := match rest with
      | '+' :: r => r
      | '-' :: r => r
      | r => r
    (e = 'e' || e = 'E') && !digits.isEmpty && digits.all Char.isDigit

/-- A fraction, if any, and an exponent, if any. -/
def isFraction : List Char → Bool
  | '.' :: rest =>
    let (ds, rest) := spanDigits rest
    !ds.isEmpty && isExponent rest
  | rest => isExponent rest

/-- A whole number that 64 bits can hold, signed or not. -/
def isWord (n : Int) : Bool := -Word.signedLimit64 ≤ n && n < Word.limit64

/-- The number that a word spells. Without a fraction and an exponent it is whole if it fits in 64
bits; a negative zero is not whole. -/
def readNumber (word : List Char) : Option Node :=
  let (negative, unsigned) := match word with
    | '-' :: rest => (true, rest)
    | rest => (false, rest)
  let (ds, rest) := spanDigits unsigned
  let leading := 1 < ds.length && ds.head? = some '0'
  if ds.isEmpty || leading || !isFraction rest then
    none
  else
    let n : Int := if negative then -(ofDigits ds : Int) else ofDigits ds
    let whole := rest.isEmpty && isWord n && !(negative && n = 0)
    some (if whole then .int n else .real (String.ofList word))

/-- The value that a word spells. -/
def readWord (word : List Char) : Option Node :=
  match String.ofList word with
  | "null" => some .null
  | "true" => some (.bool true)
  | "false" => some (.bool false)
  | _ => readNumber word

/-! ## The machine -/

/-- What the machine is in the middle of. The text of a word or string is kept with its last
character first. -/
inductive Pending where
  /-- Between tokens. -/
  | nothing
  /-- Within a number or a name. -/
  | word (text : List Char)
  /-- Within a string. -/
  | string (text : List Char)
  /-- Behind a backslash. -/
  | escape (text : List Char)
  /-- Within the four digits of a code unit, `left` digits to go; `high` is the first half of a
  pair. -/
  | unit (text : List Char) (value left : Nat) (high : Option Nat)
  /-- Behind the first half of a pair. -/
  | paired (text : List Char) (high : Nat)
  /-- Behind the first half of a pair and a backslash. -/
  | pairedEscape (text : List Char) (high : Nat)

/-- The machine between two characters. -/
structure Lexer where
  /-- The tokens so far, the latest first. -/
  tokens : List Token
  /-- What it is in the middle of. -/
  pending : Pending

/-- A blank between tokens. -/
def isBlank (c : Char) : Bool := c = ' ' || c = '\t' || c = '\n' || c = '\r'

/-- A character of a number or a name. -/
def isWordChar (c : Char) : Bool := c.isAlphanum || c = '+' || c = '-' || c = '.'

/-- The token that a character is. -/
def punctuation? (c : Char) : Option Token :=
  if c = '[' then some .openList
  else if c = ']' then some .closeList
  else if c = '\x7b' then some .openRecord
  else if c = '\x7d' then some .closeRecord
  else if c = ':' then some .colon
  else if c = ',' then some .comma
  else none

/-- What a character behind a backslash stands for. -/
def unescape? (c : Char) : Option Char :=
  if c = '"' || c = '\\' || c = '/' then some c
  else if c = 'b' then some '\x08'
  else if c = 'f' then some '\x0c'
  else if c = 'n' then some '\n'
  else if c = 'r' then some '\r'
  else if c = 't' then some '\t'
  else none

/-- The value of a hexadecimal digit. -/
def hexValue? (c : Char) : Option Nat :=
  if c.isDigit then some (c.toNat - '0'.toNat)
  else if 'a' ≤ c && c ≤ 'f' then some (c.toNat - 'a'.toNat + 10)
  else if 'A' ≤ c && c ≤ 'F' then some (c.toNat - 'A'.toNat + 10)
  else none

namespace Lexer

/-- Takes a character between tokens. -/
def begin (tokens : List Token) (c : Char) : Option Lexer :=
  if isBlank c then some ⟨tokens, .nothing⟩
  else if c = '"' then some ⟨tokens, .string []⟩
  else if isWordChar c then some ⟨tokens, .word [c]⟩
  else (punctuation? c).map fun t => ⟨t :: tokens, .nothing⟩

/-- A code unit of a string is complete. -/
def completeUnit (tokens : List Token) (text : List Char) (value : Nat) :
    Option Nat → Option Lexer
  | some high =>
    if 0xDC00 ≤ value && value < 0xE000 then
      let code := 0x10000 + (high - 0xD800) * 0x400 + (value - 0xDC00)
      some ⟨tokens, .string (Char.ofNat code :: text)⟩
    else
      none
  | none =>
    if 0xD800 ≤ value && value < 0xDC00 then some ⟨tokens, .paired text value⟩
    else if 0xDC00 ≤ value && value < 0xE000 then none
    else some ⟨tokens, .string (Char.ofNat value :: text)⟩

/-- Takes one character; nothing if no JSON text goes on like this. -/
def step (l : Lexer) (c : Char) : Option Lexer :=
  match l.pending with
  | .nothing => begin l.tokens c
  | .word text =>
    if isWordChar c then
      some { l with pending := .word (c :: text) }
    else do
      let value ← readWord text.reverse
      begin (.scalar value :: l.tokens) c
  | .string text =>
    if c = '"' then
      some ⟨.scalar (.str (String.ofList text.reverse)) :: l.tokens, .nothing⟩
    else if c = '\\' then
      some { l with pending := .escape text }
    else if c.toNat < 0x20 then
      none
    else
      some { l with pending := .string (c :: text) }
  | .escape text =>
    if c = 'u' then
      some { l with pending := .unit text 0 4 none }
    else
      (unescape? c).map fun c => { l with pending := .string (c :: text) }
  | .unit text value left high => do
    let digit ← hexValue? c
    let value := 16 * value + digit
    if left ≤ 1 then
      completeUnit l.tokens text value high
    else
      some { l with pending := .unit text value (left - 1) high }
  | .paired text high =>
    if c = '\\' then some { l with pending := .pairedEscape text high } else none
  | .pairedEscape text high =>
    if c = 'u' then some { l with pending := .unit text 0 4 (some high) } else none

/-- The tokens, if the text may end here. -/
def finish (l : Lexer) : Option (List Token) :=
  match l.pending with
  | .nothing => some l.tokens.reverse
  | .word text => do
    let value ← readWord text.reverse
    return (Token.scalar value :: l.tokens).reverse
  | _ => none

end Lexer

/-- The tokens of a JSON text. -/
def tokens? (s : String) : Option (List Token) := do
  let l ← s.toList.foldlM Lexer.step ⟨[], .nothing⟩
  l.finish

end PulseTrain.Json
