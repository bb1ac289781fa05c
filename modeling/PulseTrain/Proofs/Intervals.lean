import Mathlib.Data.List.Sort
import Mathlib.Tactic.Tauto

/-!
# Maximal intervals

A set of instants that is a union of intervals falls apart into its maximal intervals. These are the
only intervals that cover the set and lie apart from each other, so they are found by joining any
intervals with the same union: those that overlap or touch become one, and empty ones are dropped.
-/

namespace PulseTrain

/-- A half-open interval of time. -/
structure Interval where
  /-- The first instant of the interval. -/
  start : Nat
  /-- The first instant after the interval. -/
  stop : Nat
deriving DecidableEq

namespace Interval

/-- The instant lies within the interval. -/
def Contains (i : Interval) (t : Nat) : Prop := i.start ≤ t ∧ t < i.stop

/-- Two intervals have an instant in common. -/
def Meets (i j : Interval) : Prop := ∃ t, i.Contains t ∧ j.Contains t

/-- The instants that some of the intervals contain. -/
def Covered (l : List Interval) (t : Nat) : Prop := ∃ i ∈ l, i.Contains t

/-- The interval lies within a set of instants, and it cannot be extended in either direction. -/
structure MaximalIn (S : Nat → Prop) (i : Interval) : Prop where
  nonempty : i.start < i.stop
  inside : ∀ t, i.Contains t → S t
  before : ∀ t, t + 1 = i.start → ¬ S t
  after : ¬ S i.stop

/-- The maximal intervals of a set of instants, in order of time. -/
structure Components (S : Nat → Prop) (l : List Interval) : Prop where
  ordered : l.Pairwise fun i j => i.start < j.start
  mem_iff : ∀ i, i ∈ l ↔ i.MaximalIn S

/-- No interval is empty, and between one and the next there is some time. -/
structure Separated (l : List Interval) : Prop where
  nonempty : ∀ i ∈ l, i.start < i.stop
  apart : l.Pairwise fun i j => i.stop < j.start

/-- Puts an interval among others; those that it overlaps or touches become one with it. -/
def insert (i : Interval) : List Interval → List Interval
  | [] => [i]
  | j :: rest =>
    if i.stop < j.start then
      i :: j :: rest
    else if j.stop < i.start then
      j :: insert i rest
    else
      insert ⟨min i.start j.start, max i.stop j.stop⟩ rest

/-- Intervals with the same union that lie apart from each other. -/
def joined (l : List Interval) : List Interval :=
  (l.filter fun i => i.start < i.stop).foldr insert []

variable {S : Nat → Prop} {i j : Interval} {l m : List Interval} {n t : Nat}

/-! ## Maximal intervals -/

/-- A maximal interval holds every interval within the set that it meets. -/
theorem MaximalIn.le_of_meets (h : i.MaximalIn S) (hj : ∀ t, j.Contains t → S t)
    (hmeets : i.Meets j) : i.start ≤ j.start ∧ j.stop ≤ i.stop := by
  obtain ⟨t, ⟨hi1, hi2⟩, hj1, hj2⟩ := hmeets
  constructor
  · by_contra hlt
    exact h.before (i.start - 1) (by omega) (hj _ ⟨by omega, by omega⟩)
  · by_contra hlt
    exact h.after (hj _ ⟨by omega, by omega⟩)

/-- Two maximal intervals are equal or have no instant in common. -/
theorem MaximalIn.eq_of_contains (hi : i.MaximalIn S) (hj : j.MaximalIn S) (hti : i.Contains t)
    (htj : j.Contains t) : i = j := by
  obtain ⟨hle, hge⟩ := hi.le_of_meets hj.inside ⟨t, hti, htj⟩
  obtain ⟨hle', hge'⟩ := hj.le_of_meets hi.inside ⟨t, htj, hti⟩
  have hstart : i.start = j.start := le_antisymm hle hle'
  have hstop : i.stop = j.stop := le_antisymm hge' hge
  cases i
  cases j
  simp_all

theorem Components.congr {S' : Nat → Prop} (h : Components S l) (hS : ∀ t, S t ↔ S' t) :
    Components S' l := by
  obtain rfl : S = S' := funext fun t => propext (hS t)
  exact h

/-- A set has only one list of maximal intervals. -/
theorem Components.unique (hl : Components S l) (hm : Components S m) : l = m := by
  have : Std.Irrefl fun i j : Interval => i.start < j.start := ⟨fun i => lt_irrefl i.start⟩
  have : Std.Antisymm fun i j : Interval => i.start < j.start :=
    ⟨fun i j hij hji => absurd hij hji.asymm⟩
  exact hl.ordered.eq_of_mem_iff hm.ordered fun i => (hl.mem_iff i).trans (hm.mem_iff i).symm

/-! ## Separated intervals -/

theorem separated_nil : Separated [] := ⟨by simp, List.Pairwise.nil⟩

theorem separated_cons : Separated (i :: l) ↔
    i.start < i.stop ∧ (∀ j ∈ l, i.stop < j.start) ∧ Separated l := by
  constructor
  · rintro ⟨hne, hapart⟩
    obtain ⟨hi, hl⟩ := List.forall_mem_cons.mp hne
    obtain ⟨hij, hrest⟩ := List.pairwise_cons.mp hapart
    exact ⟨hi, hij, hl, hrest⟩
  · rintro ⟨hi, hij, hl, hrest⟩
    exact ⟨List.forall_mem_cons.mpr ⟨hi, hl⟩, List.pairwise_cons.mpr ⟨hij, hrest⟩⟩

/-- Of two separated intervals one comes some time before the other. -/
theorem Separated.eq_or_lt (h : Separated l) (hi : i ∈ l) (hj : j ∈ l) :
    i = j ∨ i.stop < j.start ∨ j.stop < i.start := by
  induction l with
  | nil => simp at hi
  | cons a rest ih =>
    obtain ⟨-, hafter, hrest⟩ := separated_cons.mp h
    rcases List.mem_cons.mp hi with hia | hi
    · rcases List.mem_cons.mp hj with hja | hj
      · exact .inl (hia.trans hja.symm)
      · exact .inr (.inl (hia ▸ hafter j hj))
    · rcases List.mem_cons.mp hj with hja | hj
      · exact .inr (.inr (hja ▸ hafter i hi))
      · exact ih hrest hi hj

/-- The intervals that cover a set and lie apart are its maximal intervals. -/
theorem Separated.components (h : Separated l) (hS : ∀ t, Covered l t ↔ S t) :
    Components S l := by
  have hmax : ∀ i ∈ l, i.MaximalIn S := by
    intro i hi
    have hne := h.nonempty i hi
    refine ⟨hne, fun t ht => (hS t).mp ⟨i, hi, ht⟩, ?_, ?_⟩
    · intro t ht hmem
      obtain ⟨j, hj, hj1, hj2⟩ := (hS t).mpr hmem
      rcases h.eq_or_lt hi hj with rfl | hlt | hlt <;> omega
    · intro hmem
      obtain ⟨j, hj, hj1, hj2⟩ := (hS _).mpr hmem
      rcases h.eq_or_lt hi hj with rfl | hlt | hlt <;> omega
  refine ⟨?_, fun i => ⟨hmax i, fun hi => ?_⟩⟩
  · refine h.apart.imp_of_mem fun {i j} hi _ hij => ?_
    have hne := h.nonempty i hi
    omega
  · -- The interval of the list that contains the beginning of `i` can only be `i`.
    have hstart : S i.start := hi.inside _ ⟨le_rfl, hi.nonempty⟩
    obtain ⟨j, hj, hj1, hj2⟩ := (hS _).mpr hstart
    exact (hmax j hj).eq_of_contains hi ⟨hj1, hj2⟩ ⟨le_rfl, hi.nonempty⟩ ▸ hj

/-! ## Joining -/

theorem lt_start_of_mem_insert (hi : n < i.start) (hl : ∀ j ∈ l, n < j.start) :
    ∀ j ∈ insert i l, n < j.start := by
  induction l generalizing i with
  | nil => simpa [insert] using hi
  | cons a rest ih =>
    obtain ⟨ha, hrest⟩ := List.forall_mem_cons.mp hl
    unfold insert
    split_ifs
    · exact List.forall_mem_cons.mpr ⟨hi, hl⟩
    · exact List.forall_mem_cons.mpr ⟨ha, ih hi hrest⟩
    · exact ih (lt_min hi ha) hrest

theorem separated_insert (hi : i.start < i.stop) (hl : Separated l) : Separated (insert i l) := by
  induction l generalizing i with
  | nil => exact separated_cons.mpr ⟨hi, by simp, separated_nil⟩
  | cons a rest ih =>
    obtain ⟨ha, hafter, hrest⟩ := separated_cons.mp hl
    unfold insert
    split_ifs with hleft hright
    · refine separated_cons.mpr ⟨hi, ?_, hl⟩
      refine List.forall_mem_cons.mpr ⟨hleft, fun j hj => ?_⟩
      have := hafter j hj
      omega
    · exact separated_cons.mpr ⟨ha, lt_start_of_mem_insert hright hafter, ih hi hrest⟩
    · refine ih ?_ hrest
      show min i.start a.start < max i.stop a.stop
      omega

theorem covered_cons : Covered (i :: l) t ↔ i.Contains t ∨ Covered l t :=
  List.exists_mem_cons_iff ..

theorem covered_insert (hi : i.start < i.stop) (hl : Separated l) :
    Covered (insert i l) t ↔ i.Contains t ∨ Covered l t := by
  induction l generalizing i with
  | nil => exact covered_cons
  | cons a rest ih =>
    obtain ⟨ha, -, hrest⟩ := separated_cons.mp hl
    unfold insert
    split_ifs with hleft hright
    · exact covered_cons
    · rw [covered_cons, ih hi hrest, covered_cons]
      tauto
    · -- The two intervals overlap or touch, so there is no instant between them.
      have hboth : min i.start a.start < max i.stop a.stop := by omega
      have hcontains : (Interval.mk (min i.start a.start) (max i.stop a.stop)).Contains t ↔
          i.Contains t ∨ a.Contains t := by
        unfold Contains
        dsimp only
        omega
      rw [ih hboth hrest, hcontains, covered_cons]
      tauto

theorem separated_joined (l : List Interval) :
    Separated (joined l) ∧ ∀ t, Covered (joined l) t ↔ Covered l t := by
  unfold joined
  induction l with
  | nil => exact ⟨separated_nil, fun t => Iff.rfl⟩
  | cons a rest ih =>
    obtain ⟨hsep, hcovered⟩ := ih
    by_cases ha : a.start < a.stop
    · rw [List.filter_cons_of_pos (by simpa using ha), List.foldr_cons]
      refine ⟨separated_insert ha hsep, fun t => ?_⟩
      rw [covered_insert ha hsep, hcovered, covered_cons]
    · rw [List.filter_cons_of_neg (by simpa using ha)]
      refine ⟨hsep, fun t => ?_⟩
      have hempty : ¬ a.Contains t := by
        unfold Contains
        omega
      rw [hcovered, covered_cons]
      tauto

theorem covered_joined : Covered (joined l) t ↔ Covered l t := (separated_joined l).2 t

/-- Joining some intervals gives the maximal intervals of their union. -/
theorem components_joined (l : List Interval) : Components (Covered l) (joined l) :=
  (separated_joined l).1.components (separated_joined l).2

/-! ## Maximal intervals of a union -/

/-- A maximal interval of a union starts where one of the intervals starts. -/
theorem MaximalIn.exists_start (h : i.MaximalIn (Covered l)) : ∃ j ∈ l, j.start = i.start := by
  obtain ⟨j, hj, hj1, hj2⟩ := h.inside i.start ⟨le_rfl, h.nonempty⟩
  refine ⟨j, hj, ?_⟩
  by_contra hne
  exact h.before (i.start - 1) (by omega) ⟨j, hj, by omega, by omega⟩

/-- It stops where one of them stops. -/
theorem MaximalIn.exists_stop (h : i.MaximalIn (Covered l)) : ∃ j ∈ l, j.stop = i.stop := by
  have hne := h.nonempty
  obtain ⟨j, hj, hj1, hj2⟩ := h.inside (i.stop - 1) ⟨by omega, by omega⟩
  refine ⟨j, hj, ?_⟩
  by_contra hstop
  exact h.after ⟨j, hj, by omega, by omega⟩

end Interval

end PulseTrain
