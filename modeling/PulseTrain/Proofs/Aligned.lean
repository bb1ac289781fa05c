import Mathlib.Data.Nat.Dist
import PulseTrain.Proofs.Fallible
import PulseTrain.Proofs.Grid

/-!
# Alignment over the whole range of the counter

Both alignments give the exact result whenever a 64-bit counter can hold it, and nothing otherwise.
A machine gets there by division, remainder and one addition or subtraction at a time, and none of
these steps leaves the range of the counter, however large the quantum and the instant are.
-/

namespace PulseTrain

/-! ## Steps on a counter -/

namespace Word

/-- How a step of the arithmetic of a 64-bit counter leaves its range. -/
inductive Fault where
  /-- The result is too large. -/
  | overflow
  /-- The result is below zero. -/
  | underflow
deriving DecidableEq

/-- The sum of two counters. -/
def add (m n : Nat) : Except Fault Nat :=
  if m + n < limit64 then .ok (m + n) else .error .overflow

/-- The difference of two counters. -/
def sub (m n : Nat) : Except Fault Nat :=
  if n ≤ m then .ok (m - n) else .error .underflow

/-- The quotient rounded up: one more than the quotient, unless the division is exact. -/
def divUp (m n : Nat) : Except Fault Nat :=
  if m % n = 0 then .ok (m / n) else add (m / n) 1

variable {m n : Nat}

theorem sub_of_le (h : n ≤ m) : sub m n = .ok (m - n) := if_pos h

theorem ceilDiv_eq_div (hn : 0 < n) (hmod : m % n = 0) : m ⌈/⌉ n = m / n := by
  have hdiv := Nat.div_add_mod m n
  rw [Nat.ceilDiv_eq_add_pred_div, Nat.div_eq_iff hn]
  lia

theorem ceilDiv_eq_div_add_one (hn : 0 < n) (hmod : m % n ≠ 0) : m ⌈/⌉ n = m / n + 1 := by
  have hdiv := Nat.div_add_mod m n
  have hlt := Nat.mod_lt m hn
  rw [Nat.ceilDiv_eq_add_pred_div, Nat.div_eq_iff hn]
  lia

/-- The one is added to a quotient that has room for it: a division with a remainder has a divisor
above one, so its quotient is less than what was divided. -/
theorem divUp_eq_ok (hn : 0 < n) (hm : m < limit64) : divUp m n = .ok (m ⌈/⌉ n) := by
  unfold divUp
  split_ifs with hmod
  · rw [ceilDiv_eq_div hn hmod]
  · have hone : n ≠ 1 := fun h => hmod (h ▸ Nat.mod_one m)
    have hpos : 0 < m := Nat.pos_of_ne_zero fun h => hmod (h ▸ Nat.zero_mod n)
    have hless : m / n < m := Nat.div_lt_self hpos (by omega)
    rw [ceilDiv_eq_div_add_one hn hmod]
    exact if_pos (lt_of_le_of_lt hless hm)

end Word

namespace Quantum

/-- Rounding up step by step. Only the last product may fail to fit, and then there is no result. -/
def alignUpSteps (q : Quantum) (t : Nanoseconds) : Except Word.Fault (Option Nanoseconds) := do
  let ticks ← Word.divUp t q.ns
  return Nanoseconds.mul? ticks q.ns

/-- Rounding to the nearest multiple step by step. Only the last sum may fail to fit, and then there
is no result. -/
def alignNearestSteps (q : Quantum) (t : Nanoseconds) : Except Word.Fault (Option Nanoseconds) := do
  let lower ← Word.sub t (t % q.ns)
  let past ← Word.sub t lower
  let half ← Word.divUp q.ns 2
  return if half ≤ past then Nanoseconds.add? lower q.ns else some lower

variable (q : Quantum) {s t m : Nat}

theorem alignUpSteps_eq (ht : t < Nanoseconds.limit) : q.alignUpSteps t = .ok (q.alignUp t) := by
  unfold alignUpSteps
  rw [Word.divUp_eq_ok q.pos ht]
  rfl

theorem alignNearestSteps_eq (hq : q.ns < Nanoseconds.limit) (t : Nat) :
    q.alignNearestSteps t = .ok (q.alignNearest t) := by
  unfold alignNearestSteps
  rw [Word.sub_of_le (Nat.mod_le t q.ns)]
  show (Word.sub t (t - t % q.ns) >>= _) = _
  rw [Word.sub_of_le (Nat.sub_le t _)]
  show (Word.divUp q.ns 2 >>= _) = _
  rw [Word.divUp_eq_ok two_pos hq]
  rfl

/-! ## The nearest multiple -/

/-- Among the multiples of the step none is closer to `t`, and of two that are equally close this is
the larger. -/
structure IsNearest (t m : Nat) : Prop where
  /-- It is a multiple of the step. -/
  dvd : q.ns ∣ m
  /-- No multiple is closer. -/
  closest : ∀ k, q.ns ∣ k → Nat.dist t m ≤ Nat.dist t k
  /-- No multiple that is as close is larger. -/
  largest : ∀ k, q.ns ∣ k → Nat.dist t k = Nat.dist t m → k ≤ m

/-- The multiple of the step that has been reached half a step later. -/
def nearest (t : Nat) : Nat := q.floor (t + q.ns / 2)

theorem nearest_eq_iff :
    q.nearest t = m ↔ q.ns ∣ m ∧ m ≤ t + q.ns / 2 ∧ t + q.ns / 2 < m + q.ns :=
  q.floor_eq_iff

/-- Rounding to the nearest multiple moves an instant by at most half a step. -/
theorem dist_nearest_le (t : Nat) : Nat.dist t (q.nearest t) ≤ q.ns / 2 := by
  obtain ⟨-, hle, hlt⟩ := q.nearest_eq_iff.mp (rfl : q.nearest t = _)
  unfold Nat.dist
  lia

theorem isNearest_nearest (t : Nat) : q.IsNearest t (q.nearest t) := by
  obtain ⟨hdvd, -, hlt⟩ := q.nearest_eq_iff.mp (rfl : q.nearest t = _)
  have hdist := q.dist_nearest_le t
  -- Two multiples are a step apart, so one above the nearest is more than half a step from `t`, and
  -- one below it at least as far.
  have habove : ∀ k, q.ns ∣ k → q.nearest t < k → q.ns / 2 < Nat.dist t k := by
    intro k hk hless
    have hgap : q.ns ≤ k - q.nearest t :=
      Nat.le_of_dvd (Nat.sub_pos_of_lt hless) (Nat.dvd_sub hk hdvd)
    unfold Nat.dist
    lia
  refine ⟨hdvd, fun k hk => ?_, fun k hk htie => ?_⟩
  · rcases lt_trichotomy k (q.nearest t) with hless | rfl | hgreater
    · have hgap : q.ns ≤ q.nearest t - k :=
        Nat.le_of_dvd (Nat.sub_pos_of_lt hless) (Nat.dvd_sub hdvd hk)
      unfold Nat.dist at hdist ⊢
      lia
    · exact le_rfl
    · exact hdist.trans (habove k hk hgreater).le
  · by_contra hgreater
    have hfar := habove k hk (not_le.mp hgreater)
    lia

theorem isNearest_iff : q.IsNearest t m ↔ m = q.nearest t := by
  constructor
  · intro h
    have hnearest := q.isNearest_nearest t
    have htie : Nat.dist t m = Nat.dist t (q.nearest t) :=
      le_antisymm (h.closest _ hnearest.dvd) (hnearest.closest m h.dvd)
    exact le_antisymm (hnearest.largest m h.dvd htie) (h.largest _ hnearest.dvd htie.symm)
  · rintro rfl
    exact q.isNearest_nearest t

/-- The remainder decides whether the nearest multiple is the previous one or the next. -/
theorem alignNearest_eq (ht : t < Nanoseconds.limit) :
    q.alignNearest t = Nanoseconds.check? (q.nearest t) := by
  have hmod : q.floor t + t % q.ns = t := Nat.div_add_mod' t q.ns
  have hless := Nat.mod_lt t q.pos
  have hlower : t - t % q.ns = q.floor t := by lia
  unfold alignNearest
  dsimp only
  rw [hlower]
  split_ifs with hhalf
  · have hnearest : q.nearest t = q.floor t + q.ns :=
      q.nearest_eq_iff.mpr ⟨Nat.dvd_add (q.dvd_floor t) dvd_rfl, by lia, by lia⟩
    rw [hnearest]
  · have hnearest : q.nearest t = q.floor t :=
      q.nearest_eq_iff.mpr ⟨q.dvd_floor t, by lia, by lia⟩
    rw [hnearest, Nanoseconds.check?_of_lt ((q.floor_le t).trans_lt ht)]

/-! ## Exactness -/

theorem alignUp_eq_some_iff :
    q.alignUp t = some m ↔ q.ceil t < Nanoseconds.limit ∧ q.ceil t = m := by
  rw [q.alignUp_eq, Nanoseconds.check?_eq_some_iff]

/-- What is rounded up later is not rounded up to an earlier tick. -/
theorem alignUp_mono (hst : s ≤ t) (h : q.alignUp t = some m) :
    ∃ n ≤ m, q.alignUp s = some n := by
  obtain ⟨hlt, rfl⟩ := q.alignUp_eq_some_iff.mp h
  have hle := q.ceil_mono hst
  exact ⟨q.ceil s, hle, q.alignUp_eq_some_iff.mpr ⟨hle.trans_lt hlt, rfl⟩⟩

theorem alignUp_idem (h : q.alignUp t = some m) : q.alignUp m = some m := by
  obtain ⟨hlt, rfl⟩ := q.alignUp_eq_some_iff.mp h
  have hagain := q.ceil_eq_self (q.dvd_ceil t)
  exact q.alignUp_eq_some_iff.mpr ⟨hagain.symm ▸ hlt, hagain⟩

theorem alignUp_eq_self_iff (ht : t < Nanoseconds.limit) :
    q.alignUp t = some t ↔ q.isAligned t = true := by
  rw [q.alignUp_eq_some_iff, q.isAligned_iff]
  constructor
  · rintro ⟨-, hself⟩
    exact hself ▸ q.dvd_ceil t
  · intro hdvd
    have hself := q.ceil_eq_self hdvd
    exact ⟨hself.symm ▸ ht, hself⟩

theorem dist_of_alignUp (h : q.alignUp t = some m) : Nat.dist t m < q.ns := by
  obtain ⟨-, rfl⟩ := q.alignUp_eq_some_iff.mp h
  have hle := q.le_ceil t
  have hlt := q.ceil_lt t
  rw [Nat.dist_eq_sub_of_le hle]
  lia

/-- Over the whole range of the counter, rounding up gives the least multiple of the step that is
not before `t`, and rounding to the nearest gives the one at the least distance, of two the larger;
either gives nothing iff that multiple does not fit in the counter. No step on the way leaves the
range. So rounding up is monotone and idempotent, keeps just the multiples of the step, and moves an
instant by less than a step; rounding to the nearest moves it by at most half a step. -/
theorem align_exact (q : Quantum) {t : Nat} (ht : t < Nanoseconds.limit) :
    (∃ m, IsLeast { m | q.ns ∣ m ∧ t ≤ m } m ∧
      q.alignUp t = if m < Nanoseconds.limit then some m else none) ∧
    (∃ m, (∀ k, q.IsNearest t k ↔ k = m) ∧
      q.alignNearest t = if m < Nanoseconds.limit then some m else none) ∧
    (q.ns < Nanoseconds.limit →
      q.alignUpSteps t = .ok (q.alignUp t) ∧ q.alignNearestSteps t = .ok (q.alignNearest t)) ∧
    (∀ m, q.alignUp t = some m → ∀ s ≤ t, ∃ n ≤ m, q.alignUp s = some n) ∧
    (∀ m, q.alignUp t = some m → q.alignUp m = some m) ∧
    (q.alignUp t = some t ↔ q.isAligned t = true) ∧
    (∀ m, q.alignUp t = some m → Nat.dist t m < q.ns) ∧
    ∀ m, q.alignNearest t = some m → Nat.dist t m ≤ q.ns / 2 := by
  refine ⟨⟨q.ceil t, q.isLeast_ceil t, q.alignUp_eq t⟩,
    ⟨q.nearest t, fun k => q.isNearest_iff, q.alignNearest_eq ht⟩,
    fun hq => ⟨q.alignUpSteps_eq ht, q.alignNearestSteps_eq hq t⟩,
    fun m h s hst => q.alignUp_mono hst h, fun m h => q.alignUp_idem h, q.alignUp_eq_self_iff ht,
    fun m h => q.dist_of_alignUp h, fun m h => ?_⟩
  rw [q.alignNearest_eq ht, Nanoseconds.check?_eq_some_iff] at h
  obtain ⟨-, rfl⟩ := h
  exact q.dist_nearest_le t

/-- Half a step is as near to zero as to the first tick; the last instant of the counter has its
tick beyond the range. -/
theorem align_exact_wide : ∃ q : Quantum, q.ns = 0x8000000000000002 ∧
    q.alignNearestSteps 0x4000000000000001 = .ok (some 0x8000000000000002) ∧
    q.IsNearest 0x4000000000000001 0x8000000000000002 ∧
    q.alignUpSteps 0xffffffffffffffff = .ok none ∧
    ∃ m, IsLeast { m | q.ns ∣ m ∧ 0xffffffffffffffff ≤ m } m ∧ Nanoseconds.limit ≤ m := by
  let q : Quantum := ⟨0x8000000000000002, by decide⟩
  have hnearest : q.alignNearest 0x4000000000000001 = some 0x8000000000000002 := by decide
  have hnone : q.alignUp 0xffffffffffffffff = none := by decide
  obtain ⟨-, ⟨m, hm, hresult⟩, hfirst, -⟩ := align_exact q (t := 0x4000000000000001) (by decide)
  obtain ⟨⟨n, hn, hup⟩, -, hlast, -⟩ := align_exact q (t := 0xffffffffffffffff) (by decide)
  refine ⟨q, rfl, ?_, ?_, ?_, n, hn, ?_⟩
  · rw [(hfirst (by decide)).2, hnearest]
  · rw [hnearest] at hresult
    split_ifs at hresult
    exact (hm _).mpr (Option.some.inj hresult)
  · rw [(hlast (by decide)).1, hnone]
  · by_contra hlt
    rw [hnone, if_pos (not_le.mp hlt)] at hup
    exact absurd hup (by simp)

end Quantum

end PulseTrain
