import PulseTrain.Document.Yaml.Token
import PulseTrain.Document.Yaml.Tree

/-!
# Reading YAML

The tokens of a text are put together by a machine with a stack of what is still open. A text holds
one document, perhaps behind directives. What is left empty is an empty plain scalar. An anchor or a
tag stands in front of its node, and a flow list holds no fields without braces.
-/

namespace PulseTrain.Yaml

/-- What comes next in a record. -/
inductive Slot where
  /-- A field may begin. -/
  | ready
  /-- The name of a field, since it has been announced. -/
  | announced
  /-- The colon behind a name. -/
  | named (name : Tree)
  /-- The value of a field. -/
  | valued (name : Tree)
  /-- The end of a field in braces. -/
  | complete

/-- What is still open. The parts of a collection have the latest first. -/
inductive Frame where
  /-- A block list; `waiting` says that the latest dash still lacks its item. -/
  | blockList (items : List Tree) (waiting : Bool)
  /-- The same for a list whose dashes stand in the column of the record that it is a value in. -/
  | dashes (items : List Tree) (waiting : Bool)
  /-- A block record. -/
  | blockRecord (fields : List (Tree × Tree)) (slot : Slot)
  /-- A flow list; `waiting` says that an item may follow. -/
  | flowList (items : List Tree) (waiting : Bool)
  /-- A flow record. -/
  | flowRecord (fields : List (Tree × Tree)) (slot : Slot)
  /-- A node, with what stands in front of it. -/
  | described (properties : Properties)

/-- The items of a list with what its latest dash lacks. -/
def settled (items : List Tree) (waiting : Bool) : List Tree :=
  if waiting then .vacant :: items else items

namespace Frame

/-- Adds a complete node. -/
def put (node : Tree) : Frame → Option Frame
  | blockList items true => some (blockList (node :: items) false)
  | dashes items true => some (dashes (node :: items) false)
  | blockRecord fields .announced => some (blockRecord fields (.named node))
  | blockRecord fields (.valued name) => some (blockRecord ((name, node) :: fields) .ready)
  | flowList items true => some (flowList (node :: items) false)
  | flowRecord fields .ready => some (flowRecord ((node, .vacant) :: fields) .complete)
  | flowRecord fields .announced => some (flowRecord fields (.named node))
  | flowRecord fields (.valued name) => some (flowRecord ((name, node) :: fields) .complete)
  | _ => none

end Frame

/-- How far the document has been read. -/
inductive Progress where
  /-- It has not begun. -/
  | fresh
  /-- Directives stand in front of it, perhaps one for the version. -/
  | directed (version : Bool)
  /-- A marker has begun it. -/
  | begun
  /-- It is complete. -/
  | complete (document : Tree)

/-- The machine between two tokens. -/
structure Reader where
  /-- What is open, the innermost first. -/
  stack : List Frame
  /-- How far the document has been read. -/
  progress : Progress
  /-- What the document lets handles of tags stand for. -/
  handles : List (String × String)
  /-- The anchors so far. -/
  anchors : Anchors

namespace Reader

/-- Before the first token. -/
def start : Reader := ⟨[], .fresh, [], .empty⟩

/-! ## Nodes -/

/-- Puts a complete node into place. -/
def place (r : Reader) (node : Tree) : Option Reader :=
  match r.stack with
  | .described p :: outer => put outer (p.of node)
  | stack => put stack node
where
  /-- Puts a node into what is open around it. -/
  put (stack : List Frame) (node : Tree) : Option Reader :=
    match stack, r.progress with
    | f :: outer, _ => (f.put node).map fun f => { r with stack := f :: outer }
    | [], .complete _ => none
    | [], _ => some { r with stack := [], progress := .complete node }

/-- Opens a collection. -/
def enter (r : Reader) (f : Frame) : Option Reader := some { r with stack := f :: r.stack }

/-- Takes note of something in front of a node. -/
def describe (r : Reader) (f : Properties → Properties) : Reader :=
  match r.stack with
  | .described p :: outer => { r with stack := .described (f p) :: outer }
  | stack => { r with stack := .described (f .empty) :: stack }

/-- Takes the first token of a node. -/
def begin (r : Reader) : Token → Option Reader
  | .scalar form text => r.place (.scalar none form text)
  | .aliasOf name => do r.place (.aliasOf (← r.anchors.number? name))
  | .anchor name =>
    some { r.describe ({ · with anchor := r.anchors.size }) with anchors := r.anchors.add name }
  | .tag tag => do
    let tag ← tag.resolve? r.handles
    return r.describe ({ · with tag := tag })
  | .openBlockList => r.enter (.blockList [] false)
  | .openBlockRecord => r.enter (.blockRecord [] .ready)
  | .openList => r.enter (.flowList [] true)
  | .openRecord => r.enter (.flowRecord [] .ready)
  | _ => none

/-! ## Documents -/

/-- Takes a directive. None may occur twice. -/
def direct (r : Reader) (version : Bool) : Directive → Option Reader
  | .version => if version then none else some { r with progress := .directed true }
  | .handle name start =>
    if (r.handles.lookup name).isSome then none
    else some { r with progress := .directed version, handles := (name, start) :: r.handles }

/-- Takes a token that is not within a collection. -/
def stepDocument (r : Reader) (t : Token) : Option Reader :=
  match r.progress, t with
  | .fresh, .directive d => r.direct false d
  | .directed version, .directive d => r.direct version d
  | .fresh, .documentStart => some { r with progress := .begun }
  | .directed _, .documentStart => some { r with progress := .begun }
  | .directed _, _ => none
  | .begun, .documentEnd => r.place .vacant
  | .complete _, .documentEnd => some r
  | .complete _, _ => none
  | _, t => r.begin t

/-! ## Collections -/

/-- Takes a token of a block list. -/
def stepBlockList (r : Reader) (outer : List Frame) (items : List Tree) (waiting : Bool)
    (t : Token) : Option Reader :=
  match t with
  | .dash => some { r with stack := .blockList (settled items waiting) true :: outer }
  | .closeBlock => { r with stack := outer }.place (.list (settled items waiting).reverse)
  | t => if waiting then r.begin t else none

/-- Takes a token of a flow list. -/
def stepFlowList (r : Reader) (outer : List Frame) (items : List Tree) (waiting : Bool)
    (t : Token) : Option Reader :=
  match t, waiting with
  | .closeList, _ => { r with stack := outer }.place (.list items.reverse)
  | .comma, false => some { r with stack := .flowList items true :: outer }
  | _, false => none
  | t, true => r.begin t

/-- Whether a token stands behind a part of a block record that has been left empty. -/
def endsPart : Token → Bool
  | .key | .colon | .closeBlock => true
  | _ => false

/-- Takes a token of a block record. -/
def stepBlockRecord (r : Reader) (outer : List Frame) (fields : List (Tree × Tree))
    (slot : Slot) (t : Token) : Option Reader :=
  match slot with
  | .announced =>
    match t with
    | .colon => becomes fields (.valued .vacant)
    | t => if endsPart t then next ((.vacant, .vacant) :: fields) else r.begin t
  | .named name =>
    match t with
    | .colon => becomes fields (.valued name)
    | _ => next ((name, .vacant) :: fields)
  | .valued name =>
    match t with
    | .dash => r.enter (.dashes [] true)
    | t => if endsPart t then next ((name, .vacant) :: fields) else r.begin t
  | _ => next fields
where
  /-- With another slot. -/
  becomes (fields : List (Tree × Tree)) (slot : Slot) : Option Reader :=
    some { r with stack := .blockRecord fields slot :: outer }
  /-- Takes the token where a field may begin. -/
  next (fields : List (Tree × Tree)) : Option Reader :=
    match t with
    | .key => becomes fields .announced
    | .closeBlock => { r with stack := outer }.place (.record fields.reverse)
    | _ => none

/-- Takes a token of a flow record. -/
def stepFlowRecord (r : Reader) (outer : List Frame) (fields : List (Tree × Tree))
    (slot : Slot) (t : Token) : Option Reader :=
  match slot, t with
  | .ready, .key => becomes fields .announced
  | .ready, .closeRecord => next fields
  | .ready, t => r.begin t
  | .announced, .colon => becomes fields (.valued .vacant)
  | .announced, .comma | .announced, .closeRecord => next ((.vacant, .vacant) :: fields)
  | .announced, t => r.begin t
  | .named name, .colon => becomes fields (.valued name)
  | .named name, _ => next ((name, .vacant) :: fields)
  | .valued name, .comma | .valued name, .closeRecord => next ((name, .vacant) :: fields)
  | .valued _, t => r.begin t
  | .complete, _ => next fields
where
  /-- With another slot. -/
  becomes (fields : List (Tree × Tree)) (slot : Slot) : Option Reader :=
    some { r with stack := .flowRecord fields slot :: outer }
  /-- Takes the token behind a complete field. -/
  next (fields : List (Tree × Tree)) : Option Reader :=
    match t with
    | .comma => becomes fields .ready
    | .closeRecord => { r with stack := outer }.place (.record fields.reverse)
    | _ => none

/-! ## The machine -/

/-- Whether a token goes on with the node that something stands in front of. -/
def goesOn (p : Properties) (outer : List Frame) : Token → Bool
  | .scalar .. | .openBlockList | .openBlockRecord | .openList | .openRecord => true
  | .anchor _ => p.anchor.isNone
  | .tag _ => p.tag.isNone
  | .dash =>
    match outer with
    | .blockRecord _ (.valued _) :: _ => true
    | _ => false
  | _ => false

/-- Ends a node of which there is only what stands in front of it, unless a token goes on with
it. -/
def settleNode (r : Reader) (t : Token) : Option Reader :=
  match r.stack with
  | .described p :: outer => if goesOn p outer t then some r else r.place .vacant
  | _ => some r

/-- Ends a list of dashes, unless a token goes on with it. -/
def settleDashes (r : Reader) (t : Token) : Option Reader :=
  match r.stack, t with
  | .dashes _ _ :: _, .dash => some r
  | .dashes items waiting :: outer, t =>
    if waiting && !endsPart t then some r
    else { r with stack := outer }.place (.list (settled items waiting).reverse)
  | _, _ => some r

/-- Takes a token that goes on with what is open. -/
def stepOpen (r : Reader) (t : Token) : Option Reader :=
  match r.stack with
  | [] => r.stepDocument t
  | .blockList items waiting :: outer => r.stepBlockList outer items waiting t
  | .blockRecord fields slot :: outer => r.stepBlockRecord outer fields slot t
  | .flowList items waiting :: outer => r.stepFlowList outer items waiting t
  | .flowRecord fields slot :: outer => r.stepFlowRecord outer fields slot t
  | .dashes items waiting :: outer =>
    match t with
    | .dash => some { r with stack := .dashes (settled items waiting) true :: outer }
    | t => r.begin t
  | .described _ :: _ =>
    match t with
    | .dash => r.enter (.dashes [] true)
    | t => r.begin t

/-- Takes one token; nothing if the text is refused. -/
def step (r : Reader) (t : Token) : Option Reader := do
  (← (← r.settleNode t).settleDashes t).stepOpen t

/-- The document. Without any content it is an empty plain scalar. -/
def finish (r : Reader) : Option Tree := do
  let r ← match r.stack with
    | .described _ :: _ => r.place .vacant
    | _ => some r
  match r.stack, r.progress with
  | [], .complete document => some document
  | [], .directed _ => none
  | [], _ => some .vacant
  | _ :: _, _ => none

end Reader

/-- The document that a YAML text spells. -/
def read? (s : String) : Option Node := do
  let r ← (← tokens? s).foldlM Reader.step Reader.start
  (← r.finish).resolve?

end PulseTrain.Yaml
