import PulseTrain.Document.Json.Token

/-!
# Reading JSON

The tokens of a text are put together by a machine with a stack of open lists and records. Fields
keep their order, and a name may occur more than once.
-/

namespace PulseTrain.Json

/-- A list or record that is still open; its parts have the latest first. -/
inductive Frame where
  /-- A list with its items so far. -/
  | list (items : List Node)
  /-- A record with its fields so far, and the name of the next. -/
  | record (fields : List (String × Node)) (name : Option String)

/-- What may come next. -/
inductive Expected where
  /-- A value. -/
  | value
  /-- The first item of a list, or its end. -/
  | itemOrEnd
  /-- The first name of a record, or its end. -/
  | nameOrEnd
  /-- A name. -/
  | name
  /-- The colon behind a name. -/
  | colon
  /-- A comma, or the end of what is open. -/
  | commaOrEnd

/-- The machine between two tokens. -/
structure Reader where
  /-- The open lists and records, the innermost first. -/
  stack : List Frame
  /-- What may come next. -/
  expected : Expected
  /-- The whole document, once it is complete. -/
  document : Option Node

namespace Reader

/-- Puts a complete value where it belongs. -/
def place (value : Node) : List Frame → Option Reader
  | [] => some ⟨[], .commaOrEnd, some value⟩
  | .list items :: outer => some ⟨.list (value :: items) :: outer, .commaOrEnd, none⟩
  | .record fields (some name) :: outer =>
    some ⟨.record ((name, value) :: fields) none :: outer, .commaOrEnd, none⟩
  | .record _ none :: _ => none

/-- Takes a token where a value may stand. -/
def takeValue (stack : List Frame) : Token → Option Reader
  | .openList => some ⟨.list [] :: stack, .itemOrEnd, none⟩
  | .openRecord => some ⟨.record [] none :: stack, .nameOrEnd, none⟩
  | .scalar value => place value stack
  | _ => none

/-- Takes a token where a name may stand. -/
def takeName (stack : List Frame) : Token → Option Reader
  | .scalar (.str name) =>
    match stack with
    | .record fields none :: outer => some ⟨.record fields (some name) :: outer, .colon, none⟩
    | _ => none
  | _ => none

/-- Ends the innermost list or record. -/
def takeEnd (stack : List Frame) : Token → Option Reader
  | .closeList =>
    match stack with
    | .list items :: outer => place (.list items.reverse) outer
    | _ => none
  | .closeRecord =>
    match stack with
    | .record fields none :: outer => place (.record fields.reverse) outer
    | _ => none
  | _ => none

/-- Takes one token; nothing if no document goes on like this. -/
def step (r : Reader) (t : Token) : Option Reader :=
  match r.document, r.expected with
  | some _, _ => none
  | none, .value => takeValue r.stack t
  | none, .itemOrEnd => takeEnd r.stack t <|> takeValue r.stack t
  | none, .nameOrEnd => takeEnd r.stack t <|> takeName r.stack t
  | none, .name => takeName r.stack t
  | none, .colon =>
    match t with
    | .colon => some { r with expected := .value }
    | _ => none
  | none, .commaOrEnd =>
    match t, r.stack with
    | .comma, .list _ :: _ => some { r with expected := .value }
    | .comma, .record _ _ :: _ => some { r with expected := .name }
    | _, _ => takeEnd r.stack t

end Reader

/-- The document that a JSON text spells. -/
def read? (s : String) : Option Node := do
  let r ← (← tokens? s).foldlM Reader.step ⟨[], .value, none⟩
  r.document

end PulseTrain.Json
