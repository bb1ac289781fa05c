import PulseTrain.Document.Node
import PulseTrain.Document.Yaml.Scalar
import PulseTrain.Document.Yaml.Tag

/-!
# Trees with anchors

A node may be anchored, and an alias stands for the anchored node. Anchors have names in a text and
numbers in its tree.

An alias that stands for a node around it has no meaning, and the names of fields are scalars.
-/

namespace PulseTrain.Yaml

/-! ## Anchors -/

/-- The anchors so far. -/
structure Anchors where
  /-- Names and numbers, the latest first. -/
  numbers : List (String × Nat)
  /-- How many different names there are. -/
  size : Nat

namespace Anchors

/-- No anchors. -/
def empty : Anchors := ⟨[], 0⟩

/-- The number of the latest anchor with a name. -/
def number? (a : Anchors) (name : String) : Option Nat := a.numbers.lookup name

/-- With one more anchor. Its number is the number of different names before it. So a name that
occurs again moves on to a new number, but shares it with the next anchor of any name. -/
def add (a : Anchors) (name : String) : Anchors :=
  { numbers := (name, a.size) :: a.numbers
    size := if (a.number? name).isSome then a.size else a.size + 1 }

end Anchors

/-! ## Trees -/

/-- The nodes of a document as they are written. -/
inductive Tree where
  /-- What the anchor with a number stands at. -/
  | aliasOf (number : Nat)
  /-- A node with an anchor. -/
  | anchored (number : Nat) (node : Tree)
  /-- A scalar. -/
  | scalar (tag : Option String) (form : ScalarForm) (text : String)
  /-- A list. -/
  | list (items : List Tree)
  /-- A record. -/
  | record (fields : List (Tree × Tree))

/-- What stands in front of a node. -/
structure Properties where
  /-- The number of its anchor. -/
  anchor : Option Nat
  /-- Its tag. -/
  tag : Option String

namespace Properties

/-- Nothing. -/
def empty : Properties := ⟨none, none⟩

/-- A node with these properties in front of it. The tags of collections do not count. -/
def of (p : Properties) (t : Tree) : Tree :=
  let node := match t with
    | .scalar _ form text => .scalar p.tag form text
    | t => t
  match p.anchor with
  | some number => .anchored number node
  | none => node

end Properties

namespace Tree

/-- What is left empty. -/
def vacant : Tree := scalar none .plain ""

mutual

/-- The anchored nodes, in the order in which they begin. -/
def anchors : Tree → List (Nat × Tree)
  | anchored number node => (number, node) :: node.anchors
  | list items => itemAnchors items
  | record fields => fieldAnchors fields
  | aliasOf _ => []
  | scalar _ _ _ => []

/-- The anchored nodes among the items of a list. -/
def itemAnchors : List Tree → List (Nat × Tree)
  | [] => []
  | item :: rest => item.anchors ++ itemAnchors rest

/-- The anchored nodes among the fields of a record. -/
def fieldAnchors : List (Tree × Tree) → List (Nat × Tree)
  | [] => []
  | (name, value) :: rest => name.anchors ++ value.anchors ++ fieldAnchors rest

end

/-! ## Documents -/

/-- What a scalar stands for. With a tag a plain scalar is nothing only if that is what the tag
says, and a literal block is a number if that is. -/
def scalarNode (tag : Option String) (form : ScalarForm) (text : String) : Node :=
  match form, tag with
  | .plain, none => .plain text
  | .plain, some t =>
    if t = Tag.bare && text ≠ "" then .plain text else .tagged (t = Tag.null) text
  | .literal, some t => if t = Tag.int && text ≠ "" then .tagged false text else .str text
  | _, _ => .str text

/-- The text of a scalar. -/
def textOf? : Node → Option String
  | .plain s => some s
  | .tagged _ s => some s
  | .str s => some s
  | _ => none

/-- What the anchors with numbers stand at, the latest first, as far as that is known. -/
abbrev Targets := List (Nat × Option Node)

mutual

/-- The data of a tree. -/
def toNode? (targets : Targets) : Tree → Option Node
  | aliasOf number => (targets.lookup number).join
  | anchored _ node => node.toNode? targets
  | scalar tag form text => some (scalarNode tag form text)
  | list items => (toItems? targets items).map .list
  | record fields => (toFields? targets fields).map .record

/-- The items of a list. -/
def toItems? (targets : Targets) : List Tree → Option (List Node)
  | [] => some []
  | item :: rest => do return (← item.toNode? targets) :: (← toItems? targets rest)

/-- The fields of a record. -/
def toFields? (targets : Targets) : List (Tree × Tree) → Option (List (String × Node))
  | [] => some []
  | (name, value) :: rest => do
    let name ← textOf? (← name.toNode? targets)
    return (name, ← value.toNode? targets) :: (← toFields? targets rest)

end

/-- The document that a tree is. Every round makes known at least one more anchored node, unless
those left have aliases in a circle. -/
def resolve? (t : Tree) : Option Node :=
  let anchors := t.anchors.reverse
  let round (targets : Targets) : Targets :=
    anchors.map fun (number, node) => (number, node.toNode? targets)
  t.toNode? (Nat.repeat round anchors.length [])

end Tree

end PulseTrain.Yaml
