/-!
# Documents

The data of a JSON or YAML document. JSON tells numbers, texts and the like apart; a plain YAML
scalar is only text, and its reader decides what it stands for. Fields keep their order and may
repeat, so that a reader can refuse what occurs twice.
-/

namespace PulseTrain

/-- The data of a document. -/
inductive Node where
  /-- Nothing. -/
  | null
  /-- A truth value. -/
  | bool (b : Bool)
  /-- A whole number in the range of 64-bit integers, signed or not. -/
  | int (n : Int)
  /-- Any other number, as it is written. -/
  | real (text : String)
  /-- A text. -/
  | str (s : String)
  /-- A scalar that may stand for a text, a number or nothing. -/
  | plain (s : String)
  /-- The same with a tag, which decides whether it stands for nothing. -/
  | tagged (nothing : Bool) (s : String)
  /-- Items in order. -/
  | list (items : List Node)
  /-- Named fields in order. -/
  | record (fields : List (String × Node))

namespace Node

/-- A natural number. -/
def nat (n : Nat) : Node := .int n

/-- What a value stands for, or nothing. -/
def option {α : Type} (f : α → Node) : Option α → Node
  | some a => f a
  | none => .null

/-- The spellings of nothing in a plain scalar. -/
def isNothing (s : String) : Bool := ["", "~", "null", "Null", "NULL"].contains s

end Node

end PulseTrain
