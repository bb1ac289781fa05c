import Mathlib.Algebra.Order.Floor.Div
import Mathlib.Order.Bounds.Defs
import PulseTrain.Quantum

/-!
# The grid of a quantum

`Quantum.ceil` and `Quantum.floor` move an instant to the next and to the previous multiple of the
quantum, in exact arithmetic. Everything that is said about quantized timelines rests on one fact
about the two, `ceil_le_iff`: the tick of `a` is reached by `t` iff `a` is reached by the tick that
begins at or before `t`.
-/

namespace PulseTrain

namespace Quantum

/-- The next multiple of the step: `⌈t / Q⌉ * Q`. -/
def ceil (q : Quantum) (t : Nat) : Nat := t ⌈/⌉ q.ns * q.ns

/-- The previous multiple of the step: `⌊t / Q⌋ * Q`. -/
def floor (q : Quantum) (t : Nat) : Nat := t / q.ns * q.ns

variable (q : Quantum) {a b t : Nat}

theorem dvd_ceil (t : Nat) : q.ns ∣ q.ceil t := Dvd.intro_left _ rfl

theorem dvd_floor (t : Nat) : q.ns ∣ q.floor t := Dvd.intro_left _ rfl

theorem floor_le (t : Nat) : q.floor t ≤ t := Nat.div_mul_le_self t q.ns

/-- The two roundings are adjoint to each other. -/
theorem ceil_le_iff : q.ceil a ≤ t ↔ a ≤ q.floor t := by
  unfold ceil floor
  rw [← Nat.le_div_iff_mul_le q.pos, ceilDiv_le_iff_le_mul q.pos, Nat.mul_comm]

theorem lt_ceil_iff : t < q.ceil a ↔ q.floor t < a := by
  rw [← Nat.not_le, ← Nat.not_le, q.ceil_le_iff]

theorem le_ceil (t : Nat) : t ≤ q.ceil t :=
  (q.ceil_le_iff.mp le_rfl).trans (q.floor_le _)

/-- Rounding up moves an instant by less than one step. -/
theorem ceil_lt (t : Nat) : q.ceil t < t + q.ns := by
  have hle : q.ceil t ≤ t + q.ns - 1 := Nat.div_mul_le_self (t + q.ns - 1) q.ns
  have hpos := q.pos
  lia

theorem ceil_mono (h : a ≤ b) : q.ceil a ≤ q.ceil b :=
  q.ceil_le_iff.mpr (h.trans (q.ceil_le_iff.mp le_rfl))

theorem ceil_pos (h : 0 < a) : 0 < q.ceil a := h.trans_le (q.le_ceil a)

@[simp] theorem ceil_zero : q.ceil 0 = 0 := by simp [ceil]

theorem floor_eq_self (h : q.ns ∣ t) : q.floor t = t := Nat.div_mul_cancel h

theorem ceil_eq_self (h : q.ns ∣ t) : q.ceil t = t :=
  le_antisymm (q.ceil_le_iff.mpr (q.floor_eq_self h).ge) (q.le_ceil t)

/-- Rounding down gives the multiple that is reached and not yet followed by another one. -/
theorem floor_eq_iff : q.floor t = a ↔ q.ns ∣ a ∧ a ≤ t ∧ t < a + q.ns := by
  constructor
  · rintro rfl
    exact ⟨q.dvd_floor t, q.floor_le t, Nat.lt_div_mul_add q.pos⟩
  · rintro ⟨⟨n, rfl⟩, hle, hlt⟩
    have hdiv : t / q.ns = n := by
      rw [Nat.div_eq_iff q.pos]
      lia
    unfold floor
    rw [hdiv, Nat.mul_comm]

@[simp] theorem floor_floor (t : Nat) : q.floor (q.floor t) = q.floor t :=
  q.floor_eq_self (q.dvd_floor t)

/-- Rounding down changes only at the multiples of the step. -/
theorem floor_pred (h : ¬ q.ns ∣ t) : q.floor (t - 1) = q.floor t := by
  cases t with
  | zero => exact absurd (Nat.dvd_zero _) h
  | succ t =>
    unfold floor
    rw [Nat.succ_div_of_not_dvd h, Nat.add_sub_cancel]

/-- A multiple of the step passes through the rounding down. -/
theorem floor_add_of_dvd (h : q.ns ∣ a) (t : Nat) : q.floor (a + t) = a + q.floor t := by
  obtain ⟨k, rfl⟩ := h
  unfold floor
  rw [Nat.mul_add_div q.pos, Nat.add_mul, Nat.mul_comm k]

/-- Below a multiple of the step, rounding down does not leave the interval. -/
theorem floor_lt_of_dvd_iff (h : q.ns ∣ a) : q.floor t < a ↔ t < a := by
  rw [← q.lt_ceil_iff, q.ceil_eq_self h]

/-- The rounding up is the least multiple of the step that is at least `t`. -/
theorem isLeast_ceil (t : Nat) : IsLeast { m | q.ns ∣ m ∧ t ≤ m } (q.ceil t) := by
  refine ⟨⟨q.dvd_ceil t, q.le_ceil t⟩, ?_⟩
  rintro m ⟨hm, htm⟩
  rw [q.ceil_le_iff, q.floor_eq_self hm]
  exact htm

/-- To round to a grid first makes no difference to the rounding to a coarser one. -/
theorem ceil_ceil {coarse : Quantum} (h : q.ns ∣ coarse.ns) (t : Nat) :
    coarse.ceil (q.ceil t) = coarse.ceil t := by
  refine le_antisymm ?_ (coarse.ceil_mono (q.le_ceil t))
  have hstep : q.ceil t ≤ coarse.ceil t :=
    (q.isLeast_ceil t).2 ⟨h.trans (coarse.dvd_ceil t), coarse.le_ceil t⟩
  rw [coarse.ceil_le_iff, coarse.floor_eq_self (coarse.dvd_ceil t)]
  exact hstep

theorem isAligned_iff : q.isAligned t = true ↔ q.ns ∣ t := by
  unfold isAligned
  rw [decide_eq_true_eq, Nat.dvd_iff_mod_eq_zero]

/-- Aligning checks the exact result against the range of the counter, and nothing before it. -/
theorem alignUp_eq (t : Nat) : q.alignUp t = Nanoseconds.check? (q.ceil t) := rfl

end Quantum

end PulseTrain
