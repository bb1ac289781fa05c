/-!
# Words and nanoseconds

The ranges of numbers that machine words hold. Instants and durations are whole numbers of
nanoseconds that a 64-bit counter can hold. Sums and products are formed in exact arithmetic and
then checked against that limit, so an overflow is always seen and nothing wraps around.
-/

namespace PulseTrain

namespace Word

/-- The least natural number that 32 bits cannot hold. -/
def limit32 : Nat := 0x100000000

/-- The least natural number that 64 bits cannot hold. -/
def limit64 : Nat := 0x10000000000000000

/-- The least positive number that 64 bits with a sign cannot hold. -/
def signedLimit64 : Int := 0x8000000000000000

/-- The least natural number that 128 bits cannot hold. -/
def limit128 : Nat := 0x100000000000000000000000000000000

/-- The least positive number that 128 bits with a sign cannot hold. -/
def signedLimit128 : Nat := 0x80000000000000000000000000000000

end Word

/-- A whole number of nanoseconds: an instant counted from the start of a unit, or a duration. -/
abbrev Nanoseconds := Nat

namespace Nanoseconds

/-- The least number of nanoseconds that a 64-bit counter cannot hold. -/
def limit : Nat := Word.limit64

/-- The number itself, if a 64-bit counter can hold it. -/
def check? (t : Nat) : Option Nanoseconds := if t < limit then some t else none

/-- The sum, if a 64-bit counter can hold it. -/
def add? (s t : Nanoseconds) : Option Nanoseconds := check? (s + t)

/-- The product, if a 64-bit counter can hold it. -/
def mul? (n : Nat) (t : Nanoseconds) : Option Nanoseconds := check? (n * t)

/-- The sum, or the largest number that a 64-bit counter holds if the sum does not fit. -/
def addSaturated (s t : Nanoseconds) : Nanoseconds := min (s + t) (limit - 1)

theorem check?_eq_some_iff {t m : Nat} : check? t = some m ↔ t < limit ∧ t = m := by
  simp [check?]

theorem check?_eq_none_iff {t : Nat} : check? t = none ↔ limit ≤ t := by
  simp [check?]

theorem check?_of_lt {t : Nat} (h : t < limit) : check? t = some t := by
  simp [check?, h]

/-- What adds up to a number that fits does fit, so only the sum decides. -/
theorem check?_add (s t : Nat) :
    (do let a ← check? s; let b ← check? t; add? a b) = check? (s + t) := by
  by_cases hfits : s + t < limit
  · have hs : s < limit := Nat.lt_of_le_of_lt (Nat.le_add_right s t) hfits
    have ht : t < limit := Nat.lt_of_le_of_lt (Nat.le_add_left t s) hfits
    rw [check?_of_lt hs, check?_of_lt ht]
    rfl
  · rw [check?_eq_none_iff.mpr (Nat.le_of_not_lt hfits)]
    cases hs : check? s with
    | none => rfl
    | some a =>
      cases ht : check? t with
      | none => rfl
      | some b =>
        obtain ⟨-, rfl⟩ := check?_eq_some_iff.mp hs
        obtain ⟨-, rfl⟩ := check?_eq_some_iff.mp ht
        exact check?_eq_none_iff.mpr (Nat.le_of_not_lt hfits)

end Nanoseconds

end PulseTrain
