import PulseTrain.Document.Node
import PulseTrain.Document.PlainNumber
import PulseTrain.Experiment.Params
import PulseTrain.ModelError

/-!
# Values from documents

A document is read as a value of a known type. It may have the wrong shape: a value of another
kind, a number out of range, a field that is missing, unknown or given twice. A value of the right
shape may still be refused by the type's own rules. The shape of all parts is looked at before the
rules of the whole.
-/

namespace PulseTrain

/-- Why a document is not a value of a type. -/
inductive DecodeError where
  /-- The document has the wrong shape. -/
  | shape
  /-- The shape is right, but the value is refused. -/
  | refused (error : ModelError)
deriving DecidableEq

namespace DecodeError

/-- The wording of an error. -/
def message : DecodeError → String
  | shape => "the document has an unexpected shape"
  | refused error => error.message

end DecodeError

/-- The result of reading a document. -/
abbrev Decode := Except DecodeError

namespace Decode

/-- The document has the wrong shape. -/
def fail {α : Type} : Decode α := .error .shape

/-- The value, if there is one. -/
def ofOption {α : Type} : Option α → Decode α
  | some a => .ok a
  | none => fail

/-- The value, if the type's own rules admit it. -/
def accept {α : Type} (r : Except ModelError α) : Decode α := r.mapError .refused

end Decode

namespace Node

/-! ## Scalars -/

/-- A natural number below `bound`. A scalar may not even put a minus sign in front of zero. -/
def toNat (bound : Nat) : Node → Decode Nat
  | int n => inRange n
  | plain s | tagged _ s => do inRange (← Decode.ofOption (PlainNumber.natural? s.toList))
  | _ => Decode.fail
where
  /-- The number, if it is in range. -/
  inRange (n : Int) : Decode Nat := if 0 ≤ n ∧ n < bound then .ok n.toNat else Decode.fail

/-- A number of nanoseconds. -/
def toNanoseconds (n : Node) : Decode Nanoseconds := n.toNat Nanoseconds.limit

/-- A number that fits in 32 bits. -/
def toCount (n : Node) : Decode Nat := n.toNat Word.limit32

/-- A signed number that fits in 64 bits. -/
def toInt : Node → Decode Int
  | int n => inRange n
  | plain s | tagged _ s => do inRange (← Decode.ofOption (PlainNumber.integer? s.toList))
  | _ => Decode.fail
where
  /-- The number, if it fits. -/
  inRange (n : Int) : Decode Int :=
    if -Word.signedLimit64 ≤ n ∧ n < Word.signedLimit64 then .ok n else Decode.fail

/-- A text. -/
def toText : Node → Decode String
  | str s | plain s | tagged _ s => .ok s
  | _ => Decode.fail

/-- A value or nothing. A scalar that a tag declares to be nothing has to say so. -/
def toOption {α : Type} (f : Node → Decode α) (n : Node) : Decode (Option α) :=
  match n with
  | null => .ok none
  | plain s => if isNothing s then .ok none else some <$> f n
  | tagged true s => if s ≠ "" && isNothing s then .ok none else Decode.fail
  | _ => some <$> f n

/-! ## Lists and records -/

/-- The items of a list. An empty plain scalar stands for no items. -/
def toItems : Node → Decode (List Node)
  | list items => .ok items
  | plain s | tagged _ s => if s = "" then .ok [] else Decode.fail
  | _ => Decode.fail

/-- The items of a list, each read as `f` says. -/
def toListOf {α : Type} (f : Node → Decode α) (n : Node) : Decode (List α) := do
  (← n.toItems).mapM f

/-- The fields of a record. An empty plain scalar stands for no fields. -/
def toFields : Node → Decode (List (String × Node))
  | record fields => .ok fields
  | plain s | tagged _ s => if s = "" then .ok [] else Decode.fail
  | _ => Decode.fail

/-- A list of values as the record of the fields with the given names, in that order. The last
fields may be left out. Any other document is left as it is. -/
def labelled (names : List String) : Node → Node
  | list items =>
    if items.length ≤ names.length then record (names.zip items) else list items
  | n => n

/-- A record with the value of every field changed. -/
def mapFields (f : String → Node → Node) : Node → Node
  | record fields => record (fields.map fun (name, value) => (name, f name value))
  | n => n

/-- The fields of a record as a map, each read as `f` says. Of a name that occurs more than once
the last counts. -/
def toMapOf {α : Type} (f : Node → Decode α) (n : Node) : Decode (NameMap α) := do
  (← n.toFields).foldlM (fun m (name, value) => do return m.insert name (← f value)) ∅

end Node

/-- The fields of a record that a type knows. -/
structure Fields where
  /-- Names and values. -/
  entries : List (String × Node)

namespace Fields

/-- The known fields of a record; none may occur twice. Other fields are passed over if the record
is `lenient`, else refused. -/
def ofNode (known : List String) (lenient : Bool) (n : Node) : Decode Fields := do
  let fields ← n.toFields
  let (mine, others) := fields.partition fun f => known.contains f.1
  if (lenient || others.isEmpty) && (mine.map Prod.fst).Nodup then
    return ⟨mine⟩
  else
    Decode.fail

/-- A field that has to be there. -/
def required {α : Type} (fields : Fields) (name : String) (f : Node → Decode α) : Decode α := do
  f (← Decode.ofOption (fields.entries.lookup name))

/-- A field that may be left out. -/
def orElse {α : Type} (fields : Fields) (name : String) (otherwise : α)
    (f : Node → Decode α) : Decode α :=
  match fields.entries.lookup name with
  | some n => f n
  | none => .ok otherwise

/-- A field that may be left out or stand for nothing. -/
def optional {α : Type} (fields : Fields) (name : String) (f : Node → Decode α) :
    Decode (Option α) :=
  fields.orElse name none (Node.toOption f)

end Fields

end PulseTrain
