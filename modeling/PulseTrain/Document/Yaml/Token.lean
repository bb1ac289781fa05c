import PulseTrain.Document.Yaml.Directive
import PulseTrain.Document.Yaml.Scalar

/-!
# YAML tokens

A YAML text is cut into tokens. What belongs together is said by brackets or else by columns: a
block collection begins with a dash or key further to the right than the one around it, and ends
before a token further to the left, so the tokens say where it begins and ends.

A scalar, alias or flow collection turns out to be a key only at the colon behind it, which has to
stand on the same line and not too far away. A line of a block record has to begin with a key.

The machine takes one character at a time and may look at what follows.
-/

namespace PulseTrain.Yaml

/-- What a YAML text is made of. -/
inductive Token where
  /-- The beginning of a block list. -/
  | openBlockList
  /-- The beginning of a block record. -/
  | openBlockRecord
  /-- The end of a block list or record. -/
  | closeBlock
  /-- The beginning of a flow list. -/
  | openList
  /-- The end of a flow list. -/
  | closeList
  /-- The beginning of a flow record. -/
  | openRecord
  /-- The end of a flow record. -/
  | closeRecord
  /-- What separates items or fields of a flow collection. -/
  | comma
  /-- A dash that announces an item. -/
  | dash
  /-- A name is announced. -/
  | key
  /-- A colon that announces a value. -/
  | colon
  /-- A scalar. -/
  | scalar (form : ScalarForm) (text : String)
  /-- The name of the next node. -/
  | anchor (name : String)
  /-- The name of a node, in its place. -/
  | aliasOf (name : String)
  /-- The tag of the next node. -/
  | tag (tag : Tag)
  /-- A line in front of a document. -/
  | directive (directive : Directive)
  /-- The line that begins a document. -/
  | documentStart
  /-- The line that ends a document. -/
  | documentEnd

/-- What may turn out to be a key. -/
structure Candidate where
  /-- The number of tokens before it. -/
  before : Nat
  /-- The number of bytes before it. -/
  index : Nat
  /-- Its line. -/
  line : Nat
  /-- Its column. -/
  column : Nat
  /-- Nothing but a key may stand there. -/
  required : Bool

/-- What the machine is in the middle of. -/
inductive Pending where
  /-- Between tokens. -/
  | nothing
  /-- Within characters that have been looked at already, some to go. -/
  | skip (left : Nat)
  /-- Within a comment. -/
  | comment
  /-- Within a plain scalar. -/
  | plain (s : Flowing)
  /-- Within single quotes. -/
  | single (s : Flowing)
  /-- Within single quotes, at the second of two quotes. -/
  | singleQuote (s : Flowing)
  /-- Within double quotes. -/
  | double (s : Flowing)
  /-- Within double quotes, behind a backslash. -/
  | escape (s : Flowing)
  /-- Within double quotes, in the hexadecimal digits of a character, `left` digits to go. -/
  | code (s : Flowing) (value left : Nat)
  /-- In the first line of a block scalar. -/
  | header (h : BlockHeader)
  /-- In the text of a block scalar. -/
  | block (b : Block)

/-- The machine between two characters. -/
structure Lexer where
  /-- The tokens so far, the latest first. -/
  tokens : List Token
  /-- What it is in the middle of. -/
  pending : Pending
  /-- The number of bytes so far. -/
  index : Nat
  /-- The line of the next character, counted from zero. -/
  line : Nat
  /-- The column of the next character, counted from zero. -/
  column : Nat
  /-- The columns of the open block collections, the innermost first. -/
  columns : List Nat
  /-- A key may begin here. -/
  keyAllowed : Bool
  /-- What may turn out to be a key, in the innermost flow collection. -/
  candidate : Option Candidate
  /-- The same for what is around each open flow collection, the innermost first. -/
  outer : List (Option Candidate)

namespace Lexer

/-- Before the first character. -/
def start : Lexer :=
  { tokens := []
    pending := .nothing
    index := 0
    line := 0
    column := 0
    columns := []
    keyAllowed := true
    candidate := none
    outer := [] }

/-- Whether a flow collection is open. -/
def inFlow (l : Lexer) : Bool := !l.outer.isEmpty

/-- The first column within the innermost block collection. -/
def margin (l : Lexer) : Nat :=
  match l.columns with
  | [] => 0
  | c :: _ => c + 1

/-- One character further on the line. -/
def advance (l : Lexer) (pending : Pending) : Lexer :=
  { l with pending, column := l.column + 1 }

/-- At the beginning of the next line. -/
def nextLine (l : Lexer) (pending : Pending) : Lexer :=
  { l with pending, line := l.line + 1, column := 0 }

/-- Past a character. -/
def past (l : Lexer) (c : Char) (pending : Pending) : Lexer :=
  if isBreak c then l.nextLine pending else l.advance pending

/-- Adds a token. -/
def emit (l : Lexer) (t : Token) : Lexer := { l with tokens := t :: l.tokens }

/-- Adds tokens, the latest first, behind a number of those that are there. -/
def insert (l : Lexer) (before : Nat) (ts : List Token) : Lexer :=
  let (later, earlier) := l.tokens.splitAt (l.tokens.length - before)
  { l with tokens := later ++ ts ++ earlier }

/-! ## Block collections -/

/-- Opens a block collection for what stands in a column, unless one is open there. -/
def openBlock (l : Lexer) (t : Token) : Lexer :=
  if !l.inFlow && l.margin ≤ l.column then
    { l with columns := l.column :: l.columns }.emit t
  else
    l

/-- Ends the block collections that do not go on. Within brackets columns do not count. -/
def closeBlocks (l : Lexer) (goesOn : Nat → Bool) : Lexer :=
  if l.inFlow then l
  else
    let (ended, kept) := l.columns.span (!goesOn ·)
    { l with columns := kept, tokens := ended.map (fun _ => .closeBlock) ++ l.tokens }

/-! ## Keys -/

/-- The most bytes between the beginning of a key and its colon. -/
def keyLimit : Nat := 1024

/-- Whether a candidate is a key if a colon comes next. -/
def reaches (l : Lexer) (k : Candidate) : Bool :=
  k.line = l.line && l.index ≤ k.index + keyLimit

/-- Gives a candidate up; nothing if it had to be a key. -/
def dropCandidate (l : Lexer) : Option Lexer :=
  if l.candidate.any Candidate.required then none else some { l with candidate := none }

/-- What comes next may be a key, if one is allowed. -/
def noteCandidate (l : Lexer) : Option Lexer :=
  if l.keyAllowed then do
    let l ← l.dropCandidate
    let candidate :=
      { before := l.tokens.length
        index := l.index
        line := l.line
        column := l.column
        required := !l.inFlow && l.columns.head? = some l.column }
    return { l with candidate := some candidate }
  else
    some l

/-- Announces a key, which is no scalar on one line. -/
def announce (l : Lexer) : Option Lexer :=
  if l.inFlow || l.keyAllowed then do
    let l ← (l.openBlock .openBlockRecord).dropCandidate
    return { l with keyAllowed := !l.inFlow }.emit .key
  else
    none

/-- Turns a candidate into a key. -/
def promote (l : Lexer) (k : Candidate) : Lexer :=
  let l := { l with candidate := none, keyAllowed := false }
  if !l.inFlow && l.margin ≤ k.column then
    { l with columns := k.column :: l.columns }.insert k.before [.key, .openBlockRecord]
  else
    l.insert k.before [.key]

/-- A colon without a candidate, behind a key that was announced. -/
def lateColon (l : Lexer) : Option Lexer :=
  if l.inFlow || l.keyAllowed then
    let l := l.openBlock .openBlockRecord
    some { l with keyAllowed := !l.inFlow }
  else
    none

/-- Takes a colon that announces a value. -/
def takeColon (l : Lexer) : Option Lexer := do
  let l ← match l.candidate with
    | some k =>
      if l.reaches k then some (l.promote k)
      else l.dropCandidate >>= lateColon
    | none => l.lateColon
  return l.emit .colon

/-! ## Tokens -/

/-- Takes a bracket that opens a flow collection. -/
def openFlow (l : Lexer) (t : Token) : Option Lexer := do
  let l ← l.noteCandidate
  return { l with
    outer := l.candidate :: l.outer
    candidate := none
    keyAllowed := true }.emit t

/-- Takes a bracket that closes a flow collection. -/
def closeFlow (l : Lexer) (t : Token) : Option Lexer :=
  match l.outer with
  | k :: outer => some ({ l with outer, candidate := k, keyAllowed := false }.emit t)
  | [] => none

/-- Takes a comma. -/
def takeComma (l : Lexer) : Option Lexer :=
  if l.inFlow then some ({ l with candidate := none, keyAllowed := true }.emit .comma) else none

/-- Takes a dash that announces an item. -/
def takeDash (l : Lexer) : Option Lexer :=
  if !l.inFlow && l.keyAllowed then do
    let l ← (l.openBlock .openBlockList).dropCandidate
    return { l with keyAllowed := true }.emit .dash
  else
    none

/-- The marker of a document that a line begins with. -/
def marker? (l : Lexer) (c : Char) (rest : List Char) : Option Token :=
  if l.column = 0 then
    match c, rest with
    | '-', '-' :: '-' :: more => if blankNext more then some .documentStart else none
    | '.', '.' :: '.' :: more => if blankNext more then some .documentEnd else none
    | _, _ => none
  else
    none

/-- Takes the marker of a document. -/
def takeMarker (l : Lexer) (t : Token) : Option Lexer := do
  let l ← (l.closeBlocks fun _ => false).dropCandidate
  return { l with keyAllowed := false }.emit t

/-- Takes a directive, the rest of whose line has been looked at. -/
def takeDirective (l : Lexer) (rest : List Char) : Option Lexer := do
  let line := rest.takeWhile (!isBreak ·)
  let directive ← Directive.ofLine? line
  return (← l.takeMarker (.directive directive)).advance (.skip (line.length + 1))

/-- Passes over characters that have been looked at already, and the one before them. -/
def skip (l : Lexer) (number : Nat) : Lexer :=
  l.advance (if number = 0 then .nothing else .skip number)

/-- Takes a name behind `&` or `*`, which may be part of a key. What follows it must not look like a
part of it. -/
def takeName (l : Lexer) (rest : List Char) (t : String → Token) : Option Lexer := do
  let name := rest.takeWhile isWordCharacter
  let behind := rest.dropWhile isWordCharacter
  if !name.isEmpty && (blankNext behind || behind.head?.any "?:,]\x7d%@\x60".toList.contains) then
    let l ← l.noteCandidate
    return ({ l with keyAllowed := false }.emit (t (.ofList name))).skip name.length
  else
    none

/-- Takes a tag, which may be part of a key. It ends with a blank, or a comma within brackets. -/
def takeTag (l : Lexer) (rest : List Char) : Option Lexer := do
  let word := rest.takeWhile fun c => !(isBlank c || isBreak c)
  let (tag, behind) ← Tag.read? word
  if behind.isEmpty || (l.inFlow && behind.head? = some ',') then
    let l ← l.noteCandidate
    return ({ l with keyAllowed := false }.emit (.tag tag)).skip (word.length - behind.length)
  else
    none

/-- Goes on with a scalar that may be a key. -/
def beginScalar (l : Lexer) (pending : Pending) : Option Lexer := do
  let l ← l.noteCandidate
  return { l with keyAllowed := false }.advance pending

/-- Takes the first character of a token. -/
def beginToken (l : Lexer) (c : Char) (rest : List Char) : Option Lexer :=
  match l.marker? c rest with
  | some t => do return (← l.takeMarker t).advance (.skip 2)
  | none =>
    if c = '%' && l.column = 0 then l.takeDirective rest
    else if c = '[' then do return (← l.openFlow .openList).advance .nothing
    else if c = '\x7b' then do return (← l.openFlow .openRecord).advance .nothing
    else if c = ']' then do return (← l.closeFlow .closeList).advance .nothing
    else if c = '\x7d' then do return (← l.closeFlow .closeRecord).advance .nothing
    else if c = ',' then do return (← l.takeComma).advance .nothing
    else if c = '-' && blankNext rest then do return (← l.takeDash).advance .nothing
    else if c = '?' && (l.inFlow || blankNext rest) then
      do return (← l.announce).advance .nothing
    else if c = ':' && (l.inFlow || blankNext rest) then
      do return (← l.takeColon).advance .nothing
    else if c = '&' then l.takeName rest .anchor
    else if c = '*' then l.takeName rest .aliasOf
    else if c = '!' then l.takeTag rest
    else if (c = '|' || c = '>') && !l.inFlow then do
      let l ← l.dropCandidate
      return { l with keyAllowed := true }.advance (.header (.start (c = '>')))
    else if c = '\'' then l.beginScalar (.single .empty)
    else if c = '"' then l.beginScalar (.double .empty)
    else if isIndicator c || isBlank c then none
    else l.beginScalar (.plain ⟨[c], .empty⟩)

/-- Takes a character between tokens. Tabs may not stand where a key may begin, and the mark of byte
order only in the first column. -/
def begin (l : Lexer) (c : Char) (rest : List Char) : Option Lexer :=
  if isBreak c then
    some ({ l with keyAllowed := l.keyAllowed || !l.inFlow }.nextLine .nothing)
  else if c = ' ' || (c = '\t' && (l.inFlow || !l.keyAllowed)) then some (l.advance .nothing)
  else if c = byteOrderMark && l.column = 0 then some (l.advance .nothing)
  else if c = '#' then some (l.advance .comment)
  else (l.closeBlocks (· ≤ l.column)).beginToken c rest

/-! ## Plain scalars -/

/-- Ends a plain scalar. -/
def endPlain (l : Lexer) (s : Flowing) : Lexer :=
  { l with pending := .nothing, keyAllowed := s.gap.isBroken }.emit (.scalar .plain s.value)

/-- Whether a plain scalar ends before a character that is no blank. What follows a gap is further
to the right than the collection around it, and neither a marker nor a comment. -/
def endsPlain (l : Lexer) (s : Flowing) (c : Char) (rest : List Char) : Bool :=
  (c = ':' && blankNext rest) || (l.inFlow && isFlowIndicator c) ||
    match s.gap with
    | .blanks [] => false
    | _ => (!l.inFlow && l.column < l.margin) || (l.marker? c rest).isSome || c = '#'

/-- A colon within a plain scalar of a flow collection must not run into its structure. -/
def crampedColon (l : Lexer) (c : Char) (rest : List Char) : Bool :=
  c = ':' && l.inFlow && rest.head?.any fun d => isFlowIndicator d || d = '?'

/-- Takes a character of a plain scalar, or the first one behind it. A line must not be indented
with tabs. -/
def stepPlain (l : Lexer) (s : Flowing) (c : Char) (rest : List Char) : Option Lexer :=
  if isBreak c then some (l.nextLine (.plain (s.space c)))
  else if isBlank c then
    if c = '\t' && s.gap.isBroken && l.column < l.margin then none
    else some (l.advance (.plain (s.space c)))
  else if l.endsPlain s c rest then (l.endPlain s).begin c rest
  else if l.crampedColon c rest then none
  else some (l.advance (.plain (s.push c)))

/-! ## Quoted scalars -/

/-- Ends a quoted scalar, at its last quote. -/
def endQuoted (l : Lexer) (s : Flowing) : Lexer :=
  (l.emit (.scalar .text s.joined.value)).advance .nothing

/-- Takes a character within single quotes. -/
def stepSingle (l : Lexer) (s : Flowing) (c : Char) (rest : List Char) : Option Lexer :=
  if isBreak c || isBlank c then some (l.past c (.single (s.space c)))
  else if (l.marker? c rest).isSome then none
  else if c ≠ '\'' then some (l.advance (.single (s.push c)))
  else if rest.head? = some '\'' then some (l.advance (.singleQuote s))
  else some (l.endQuoted s)

/-- Takes a character within double quotes. -/
def stepDouble (l : Lexer) (s : Flowing) (c : Char) (rest : List Char) : Option Lexer :=
  if isBreak c || isBlank c then some (l.past c (.double (s.space c)))
  else if (l.marker? c rest).isSome then none
  else if c = '\\' then some (l.advance (.escape s))
  else if c ≠ '"' then some (l.advance (.double (s.push c)))
  else some (l.endQuoted s)

/-- Takes a character behind a backslash. -/
def stepEscape (l : Lexer) (s : Flowing) (c : Char) : Option Lexer :=
  if isBreak c then some (l.nextLine (.double s.escapedBreak))
  else
    match codeLength? c with
    | some left => some (l.advance (.code s 0 left))
    | none => (unescape? c).map fun d => l.advance (.double (s.push d))

/-- Takes a digit of the code of a character. -/
def stepCode (l : Lexer) (s : Flowing) (value left : Nat) (c : Char) : Option Lexer := do
  let digit ← hexValue? c
  let value := 16 * value + digit
  if 1 < left then
    some (l.advance (.code s value (left - 1)))
  else if value.isValidChar then
    some (l.advance (.double (s.push (.ofNat value))))
  else
    none

/-! ## Block scalars -/

/-- Takes a character of the first line of a block scalar. -/
def stepHeader (l : Lexer) (h : BlockHeader) (c : Char) : Option Lexer :=
  if isBreak c then some (l.nextLine (.block (.start h l.margin)))
  else (h.step c).map fun h => l.advance (.header h)

/-- Ends a block scalar. -/
def endBlock (l : Lexer) (b : Block) : Lexer :=
  { l with pending := .nothing }.emit (.scalar (if b.folded then .text else .literal) b.value)

/-- Takes a character of the text of a block scalar, or the first one behind it. -/
def stepBlock (l : Lexer) (b : Block) (c : Char) (rest : List Char) : Option Lexer :=
  if isBreak c then some (l.nextLine (.block (b.lineBreak c)))
  else if b.within then some (l.advance (.block { b with text := c :: b.text }))
  else if isBlank c && b.column.all (l.column < ·) then
    if c = '\t' then none
    else some (l.advance (.block { b with deepest := max b.deepest (l.column + 1) }))
  else if l.column = b.columnAt l.column then
    some (l.advance (.block { b.beginLine c with column := some l.column }))
  else (l.endBlock b).begin c rest

/-! ## The machine -/

/-- Takes a character that may occur. -/
def take (l : Lexer) (c : Char) (rest : List Char) : Option Lexer :=
  match l.pending with
  | .nothing => l.begin c rest
  | .skip left => some (l.past c (if left ≤ 1 then .nothing else .skip (left - 1)))
  | .comment => if isBreak c then l.begin c rest else some (l.advance .comment)
  | .plain s => l.stepPlain s c rest
  | .single s => l.stepSingle s c rest
  | .singleQuote s => some (l.advance (.single (s.push c)))
  | .double s => l.stepDouble s c rest
  | .escape s => l.stepEscape s c
  | .code s value left => l.stepCode s value left c
  | .header h => l.stepHeader h c
  | .block b => l.stepBlock b c rest

/-- Takes one character, with those that follow it; nothing if the text is refused. -/
def step (l : Lexer) (c : Char) (rest : List Char) : Option Lexer := do
  if isPermitted c then
    let l ← l.take c rest
    return { l with index := l.index + c.utf8Size }
  else
    none

/-- Takes characters, one after the other. -/
def scan (l : Lexer) : List Char → Option Lexer
  | [] => some l
  | c :: rest => do (← l.step c rest).scan rest

/-- The tokens, if the text may end here. -/
def finish (l : Lexer) : Option (List Token) := do
  let l ← match l.pending with
    | .nothing | .skip _ | .comment => some l
    | .plain s => some (l.endPlain s)
    | .header h => some (l.endBlock (.start h l.margin))
    | .block b => some (l.endBlock b)
    | _ => none
  let l ← (l.closeBlocks fun _ => false).dropCandidate
  return l.tokens.reverse

end Lexer

/-- The tokens of a YAML text. -/
def tokens? (s : String) : Option (List Token) := do
  (← Lexer.start.scan (unifyBreaks s.toList)).finish

end PulseTrain.Yaml
