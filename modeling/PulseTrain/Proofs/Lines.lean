import Mathlib.Algebra.Group.Nat.Defs
import Mathlib.Data.List.Perm.Basic
import Mathlib.Order.Nat
import PulseTrain.Channel.State

/-!
# The lines of a state

The lines that are on are taken out of the word one by one, the lowest first. Each step switches off
one line and leaves the others alone, so the list of lines, the number of lines and the tests on
single lines all describe one set.
-/

namespace PulseTrain.ChannelState

variable {s : ChannelState} {c : ChannelId}

/-! ## The lowest bit of a number -/

section LowestBit

variable {x k : Nat}

theorem mod_two_pow_eq (hone : x.testBit k = true) (hzero : ∀ j < k, x.testBit j = false) :
    x % 2 ^ (k + 1) = 2 ^ k := by
  apply Nat.eq_of_testBit_eq
  intro i
  rw [Nat.testBit_mod_two_pow, Nat.testBit_two_pow]
  rcases lt_trichotomy i k with hlt | rfl | hgt
  · simp [hzero i hlt, hlt.ne']
  · simp [hone]
  · have hge : ¬ i < k + 1 := by omega
    simp [hge, hgt.ne]

/-- A number and its predecessor agree above the lowest one of the number, and nowhere else have
they a one in common. -/
theorem testBit_and_pred (hone : x.testBit k = true) (hzero : ∀ j < k, x.testBit j = false)
    (j : Nat) : (x.testBit j && (x - 1).testBit j) = (x.testBit j && decide (j ≠ k)) := by
  have hpos : 0 < 2 ^ k := Nat.two_pow_pos k
  have hpow : 2 ^ k < 2 ^ (k + 1) := Nat.pow_lt_pow_right (by decide) (Nat.lt_succ_self k)
  have hless : 2 ^ k - 1 < 2 ^ (k + 1) := by omega
  -- Both numbers have the same multiple of twice the lowest one, and differ in what is left.
  obtain ⟨m, hm⟩ : ∃ m, m = x / 2 ^ (k + 1) := ⟨_, rfl⟩
  have hx : x = 2 ^ (k + 1) * m + 2 ^ k := by
    have hdiv := Nat.div_add_mod x (2 ^ (k + 1))
    rw [mod_two_pow_eq hone hzero, ← hm] at hdiv
    exact hdiv.symm
  have hpred : x - 1 = 2 ^ (k + 1) * m + (2 ^ k - 1) := by omega
  by_cases hj : j < k + 1
  · have hbit : x.testBit j = decide (k = j) := by
      rw [hx, Nat.testBit_two_pow_mul_add m hpow, if_pos hj, Nat.testBit_two_pow]
    have hbitPred : (x - 1).testBit j = decide (j < k) := by
      rw [hpred, Nat.testBit_two_pow_mul_add m hless, if_pos hj, Nat.testBit_two_pow_sub_one]
    rw [hbit, hbitPred]
    by_cases hjk : j = k
    · simp [hjk]
    · simp [Ne.symm hjk]
  · have hsame : (x - 1).testBit j = x.testBit j := by
      rw [hpred, Nat.testBit_two_pow_mul_add m hless, if_neg hj, hx,
        Nat.testBit_two_pow_mul_add m hpow, if_neg hj]
    have hjk : j ≠ k := by omega
    rw [hsame]
    simp [hjk]

end LowestBit

/-! ## The lowest line -/

theorem index_lt_capacity (h : s.isOn c = true) : c.index < capacity := by
  by_contra hge
  rw [isOn_of_capacity_le s (not_lt.mp hge)] at h
  exact absurd h (by simp)

theorem isOn_lowest (h : s ≠ off) : s.isOn s.lowest = true :=
  BitVec.getLsbD_true_ctz_of_ne_zero fun hzero => h (bits_inj.mp hzero)

theorem lowest_le (hon : s.isOn c = true) : s.lowest.index ≤ c.index := by
  by_contra hlt
  have hoff : s.isOn c = false := BitVec.getLsbD_false_of_lt_ctz (not_le.mp hlt)
  rw [hon] at hoff
  exact absurd hoff (by simp)

/-- Without its lowest line, a state has the same lines on but for that one. -/
theorem isOn_dropLowest (h : s ≠ off) (c : ChannelId) :
    s.dropLowest.isOn c = (s.isOn c && decide (c ≠ s.lowest)) := by
  have hone : s.toNat.testBit s.lowest.index = true := isOn_lowest h
  have hzero : ∀ j < s.lowest.index, s.toNat.testBit j = false := fun j hj =>
    BitVec.getLsbD_false_of_lt_ctz hj
  have hand : s.dropLowest.isOn c = (s.toNat.testBit c.index && (s.toNat - 1).testBit c.index) := by
    rw [← toNat_bits_sub_one h]
    exact BitVec.getLsbD_and
  have hindex : c.index ≠ s.lowest.index ↔ c ≠ s.lowest := not_congr ChannelId.index_inj
  rw [hand, testBit_and_pred hone hzero, decide_eq_decide.mpr hindex]
  rfl

/-! ## The list of lines -/

theorem mem_onChannels : c ∈ s.onChannels ↔ s.isOn c = true := by
  fun_induction onChannels s with
  | case1 => simp
  | case2 s hne ih =>
    rw [List.mem_cons, ih, isOn_dropLowest hne]
    by_cases hc : c = s.lowest
    · simp [hc, isOn_lowest hne]
    · simp [hc]

/-- What is left when the lowest line has been taken out lies above it. -/
theorem pairwise_onChannels (s : ChannelState) :
    s.onChannels.Pairwise fun a b => a.index < b.index := by
  fun_induction onChannels s with
  | case1 => exact List.Pairwise.nil
  | case2 s hne ih =>
    refine List.pairwise_cons.mpr ⟨fun c hc => ?_, ih⟩
    rw [mem_onChannels, isOn_dropLowest hne, Bool.and_eq_true, decide_eq_true_eq] at hc
    obtain ⟨hon, hother⟩ := hc
    have hle := lowest_le hon
    have hindex : s.lowest.index ≠ c.index := fun h => hother (ChannelId.index_inj.mp h.symm)
    omega

theorem ofChannels_onChannels (s : ChannelState) : ofChannels s.onChannels = s := by
  apply ext_isOn
  intro c
  have hcapacity : ∀ c ∈ s.onChannels, c.index < capacity := fun c hc =>
    index_lt_capacity (mem_onChannels.mp hc)
  rw [Bool.eq_iff_iff, isOn_ofChannels hcapacity, mem_onChannels]

/-! ## The number of lines -/

/-- The bits are counted from the first line on; each line that is on adds one. -/
theorem length_filter_isOn (s : ChannelState) (n : Nat) :
    ((List.range n).filter fun i => s.isOn ⟨i⟩).length = s.bits.cpopNatRec n 0 := by
  induction n with
  | zero => rfl
  | succ n ih =>
    have hnext : s.bits.cpopNatRec (n + 1) 0 = s.bits.cpopNatRec n 0 + (s.isOn ⟨n⟩).toNat := by
      rw [BitVec.cpopNatRec_succ, BitVec.cpopNatRec_eq, Nat.zero_add]
      rfl
    rw [hnext, ← ih, List.range_succ, List.filter_append, List.length_append]
    cases hon : s.isOn ⟨n⟩ with
    | true => simp [hon]
    | false => simp [hon]

theorem countOn_eq (s : ChannelState) :
    s.countOn = ((List.range capacity).filter fun i => s.isOn ⟨i⟩).length := by
  rw [length_filter_isOn]
  exact BitVec.toNat_cpop s.bits

theorem length_onChannels (s : ChannelState) : s.onChannels.length = s.countOn := by
  have hlisted : (s.onChannels.map ChannelId.index).Nodup := by
    rw [List.nodup_iff_pairwise_ne, List.pairwise_map]
    exact (pairwise_onChannels s).imp fun h => h.ne
  have hcounted : ((List.range capacity).filter fun i => s.isOn ⟨i⟩).Nodup :=
    List.nodup_range.filter _
  have hsame : ∀ i, i ∈ s.onChannels.map ChannelId.index ↔
      i ∈ (List.range capacity).filter fun i => s.isOn ⟨i⟩ := by
    intro i
    rw [List.mem_map, List.mem_filter, List.mem_range]
    constructor
    · rintro ⟨c, hc, rfl⟩
      have hon := mem_onChannels.mp hc
      exact ⟨index_lt_capacity hon, hon⟩
    · rintro ⟨-, hon⟩
      exact ⟨⟨i⟩, mem_onChannels.mpr hon, rfl⟩
  have hperm := (List.perm_ext_iff_of_nodup hlisted hcounted).mpr hsame
  rw [countOn_eq, ← hperm.length_eq, List.length_map]

/-! ## The levels of the lines -/

theorem getElem?_levels {n i : Nat} (hn : n ≤ Word.limit32) (hi : i < n) :
    (s.levels n)[i]? = some (s.isOn ⟨i⟩) := by
  unfold levels
  rw [List.getElem?_map, List.getElem?_range hi, Option.map_some,
    Nat.mod_eq_of_lt (hi.trans_le hn)]

/-! ## States as sets -/

/-- A state is a set of lines. Switching a line switches that one only. The lines that are on are
listed once each, in increasing order, as many as are counted, and they make up the state; a state
made from any lines has just these on, so neither their order nor repetitions matter. The levels of
the first lines are theirs, and beyond the capacity all are off. -/
theorem set_of_lines (s : ChannelState) :
    (∀ c d : ChannelId, c.index < capacity → ∀ on,
      (s.set c on).isOn d = if d = c then on else s.isOn d) ∧
    (∀ c, c ∈ s.onChannels ↔ s.isOn c = true) ∧
    s.onChannels.Pairwise (fun a b => a.index < b.index) ∧
    s.onChannels.length = s.countOn ∧
    ofChannels s.onChannels = s ∧
    (∀ cs, (∀ c ∈ cs, c.index < capacity) →
      (∀ c, (ofChannels cs).isOn c = true ↔ c ∈ cs) ∧
      ∀ ds, (∀ c, c ∈ ds ↔ c ∈ cs) → ofChannels ds = ofChannels cs) ∧
    ∀ n ≤ Word.limit32, (s.levels n).length = n ∧
      ∀ i < n, (s.levels n)[i]? = some (s.isOn ⟨i⟩) ∧ (capacity ≤ i → s.isOn ⟨i⟩ = false) := by
  refine ⟨fun c d hc on => isOn_set s hc on d, fun c => mem_onChannels, pairwise_onChannels s,
    length_onChannels s, ofChannels_onChannels s, fun cs hcs => ⟨isOn_ofChannels hcs, ?_⟩,
    fun n hn => ⟨by simp [levels], fun i hi => ⟨getElem?_levels hn hi, ?_⟩⟩⟩
  · intro ds hsame
    have hds : ∀ c ∈ ds, c.index < capacity := fun c hc => hcs c ((hsame c).mp hc)
    apply ext_isOn
    intro c
    rw [Bool.eq_iff_iff, isOn_ofChannels hds, isOn_ofChannels hcs, hsame]
  · exact isOn_of_capacity_le s

/-- Line 63 is named twice, and the levels go on past the last line. -/
theorem set_of_lines_last :
    let s := ofChannels [⟨63⟩, ⟨5⟩, ⟨63⟩, ⟨1⟩]
    ⟨63⟩ ∈ s.onChannels ∧ s.onChannels.length = 3 ∧ s = ofChannels [⟨1⟩, ⟨5⟩, ⟨63⟩] ∧
      (s.set ⟨63⟩ false).isOn ⟨63⟩ = false ∧ (s.levels 70)[63]? = some true ∧
      (s.levels 70)[64]? = some false := by
  intro s
  obtain ⟨hset, hmem, -, hlength, -, hlists, hlevels⟩ := set_of_lines s
  obtain ⟨hon, hsame⟩ := hlists [⟨1⟩, ⟨5⟩, ⟨63⟩] (by decide)
  have hs : s = ofChannels [⟨1⟩, ⟨5⟩, ⟨63⟩] := hsame [⟨63⟩, ⟨5⟩, ⟨63⟩, ⟨1⟩] fun c => by
    simp only [List.mem_cons, List.not_mem_nil, or_false]
    tauto
  have hlast : s.isOn ⟨63⟩ = true := by
    rw [hs]
    exact (hon ⟨63⟩).mpr (by decide)
  obtain ⟨-, hentries⟩ := hlevels 70 (by decide)
  obtain ⟨hentry, -⟩ := hentries 63 (by decide)
  obtain ⟨hentry', hbeyond⟩ := hentries 64 (by decide)
  refine ⟨(hmem _).mpr hlast, ?_, hs, ?_, ?_, ?_⟩
  · rw [hlength]
    decide
  · exact hset ⟨63⟩ ⟨63⟩ (by decide) false
  · rw [hentry, hlast]
  · rw [hentry', hbeyond le_rfl]

end PulseTrain.ChannelState
