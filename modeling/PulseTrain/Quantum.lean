import PulseTrain.ModelError
import PulseTrain.Nanoseconds

/-!
# The hardware quantum

The smallest time step of a pulse generator. The grid of a quantum holds its multiples; an instant
is moved to the grid upwards (`alignUp`) or to the nearest multiple (`alignNearest`).
-/

namespace PulseTrain

/-- The smallest time step of a pulse generator. -/
structure Quantum where
  /-- The step in nanoseconds. -/
  ns : Nanoseconds
  /-- A step is never empty. -/
  pos : 0 < ns
deriving DecidableEq

namespace Quantum

/-- The default step, 8 ns. -/
def default : Quantum := ⟨8, by decide⟩

/-- The step of `ns` nanoseconds, which has to be positive. -/
def ofInt (ns : Int) : Except ModelError Quantum :=
  if h : 0 < ns then
    .ok ⟨ns.toNat, Int.pos_iff_toNat_pos.1 h⟩
  else
    .error (.invalidParameter "quantum_ns" s!"must be positive, got {ns}")

/-- The step of `ns` nanoseconds, which has to be positive. -/
def ofNat (ns : Nat) : Except ModelError Quantum := ofInt ns

/-- The least multiple of the step that is at least `t`, if a 64-bit counter can hold it. -/
def alignUp (q : Quantum) (t : Nanoseconds) : Option Nanoseconds :=
  Nanoseconds.check? ((t + q.ns - 1) / q.ns * q.ns)

/-- The multiple of the step nearest to `t`, if a 64-bit counter can hold it. Of two that are
equally near it is the larger. -/
def alignNearest (q : Quantum) (t : Nanoseconds) : Option Nanoseconds :=
  let lower := t - t % q.ns
  if t - lower ≥ (q.ns + 1) / 2 then Nanoseconds.check? (lower + q.ns) else some lower

/-- Whether `t` is a multiple of the step. -/
def isAligned (q : Quantum) (t : Nanoseconds) : Bool := t % q.ns = 0

/-- A quantum is shown as its length with the unit. -/
def label (q : Quantum) : String := s!"{q.ns} ns"

end Quantum

end PulseTrain
