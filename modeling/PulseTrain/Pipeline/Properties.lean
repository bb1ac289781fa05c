import PulseTrain.Timeline.Quantized
import PulseTrain.Timeline.Verified

/-!
# Properties

What the passes of a compilation share: the quantum, the repetition plan, and what they find out.
Findings without a field of their own are kept as notes, at most one of each kind. Besides the kinds
of the standard passes there are any kinds that the passes of a caller need.
-/

namespace PulseTrain

/-- The kinds of notes that a caller has. -/
structure NoteKinds where
  /-- The kinds. -/
  Kind : Type
  /-- What a note of a kind holds. -/
  Content : Kind → Type
  /-- Kinds can be told apart. -/
  [decEq : DecidableEq Kind]

namespace NoteKinds

attribute [instance] decEq

/-- The caller has no kinds. -/
def none : NoteKinds := ⟨Empty, nofun⟩

end NoteKinds

/-- The kinds of notes. -/
inductive NoteKind (K : NoteKinds) where
  /-- The spans that quantization lost. -/
  | collapsed
  /-- The result of a verification. -/
  | verification
  /-- A kind of the caller. -/
  | own (kind : K.Kind)
deriving DecidableEq

variable {K : NoteKinds}

namespace NoteKind

/-- What a note of a kind holds. -/
@[reducible] def Content : NoteKind K → Type
  | collapsed => CollapsedSpans
  | verification => Verification
  | own kind => K.Content kind

end NoteKind

/-- At most one note of each kind. -/
def Notes (K : NoteKinds) : Type := (kind : NoteKind K) → Option kind.Content

namespace Notes

/-- No notes. -/
def empty : Notes K := fun _ => none

/-- The note of a kind. -/
def get? (n : Notes K) (kind : NoteKind K) : Option kind.Content := n kind

/-- Puts a note in place of any other of its kind. -/
def insert (n : Notes K) (kind : NoteKind K) (content : kind.Content) : Notes K :=
  fun other => if same : kind = other then some (same ▸ content) else n other

/-- Removes the note of a kind. -/
def erase (n : Notes K) (kind : NoteKind K) : Notes K :=
  fun other => if kind = other then none else n other

@[simp] theorem get?_insert_self (n : Notes K) (kind : NoteKind K) (content : kind.Content) :
    (n.insert kind content).get? kind = some content := by
  simp [get?, insert]

@[simp] theorem get?_erase_self (n : Notes K) (kind : NoteKind K) :
    (n.erase kind).get? kind = none := by
  simp [get?, erase]

theorem get?_insert_of_ne (n : Notes K) {kind other : NoteKind K} (content : kind.Content)
    (h : kind ≠ other) : (n.insert kind content).get? other = n.get? other := by
  simp [get?, insert, h]

theorem get?_erase_of_ne (n : Notes K) {kind other : NoteKind K} (h : kind ≠ other) :
    (n.erase kind).get? other = n.get? other := by
  simp [get?, erase, h]

end Notes

/-- What the passes of a compilation share. -/
structure Properties (K : NoteKinds) where
  /-- The step of the pulse generator. -/
  quantum : Option Quantum
  /-- How often the unit is played. -/
  repetitions : Nat
  /-- The time between two repetitions that was asked for. -/
  interval : Nanoseconds
  /-- The length of the unit on the grid, once it is known. -/
  unitLength : Option Nanoseconds
  /-- The time between two repetitions on the grid, once it is known. -/
  gap : Option Nanoseconds
  /-- Further findings. -/
  notes : Notes K

namespace Properties

/-- One repetition, no quantum, and nothing found out yet. -/
def initial : Properties K := ⟨none, 1, 0, none, none, .empty⟩

/-- The properties for a quantum. -/
def withQuantum (p : Properties K) (q : Quantum) : Properties K := { p with quantum := some q }

/-- The properties for a repetition plan. -/
def withRepetitions (p : Properties K) (repetitions : Nat) (interval : Nanoseconds) :
    Properties K :=
  { p with repetitions, interval }

/-- The properties with one more note. -/
def withNote (p : Properties K) (kind : NoteKind K) (content : kind.Content) : Properties K :=
  { p with notes := p.notes.insert kind content }

/-- The quantum, which has to be known. -/
def requireQuantum (p : Properties K) : Except CompileError Quantum :=
  match p.quantum with
  | some q => .ok q
  | none => .error (.missingProperty "quantum")

end Properties

end PulseTrain
