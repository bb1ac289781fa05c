import PulseTrain.Nanoseconds

/-!
# Channels and their states

A digital output line is identified by its position among the declared channels. A state holds the
levels of all lines at one instant, one bit for each line. It is a finite set of channels below the
capacity: `isOn` is its membership test, `ofChannels` builds it from a list and
`onChannels` lists it in increasing order.
-/

namespace PulseTrain

/-- The position of a digital output line among the declared channels. -/
structure ChannelId where
  /-- The position, counted from zero. -/
  index : Nat
deriving DecidableEq

namespace ChannelId

theorem index_inj {c d : ChannelId} : c.index = d.index ↔ c = d := by
  cases c
  cases d
  simp

/-- A channel is shown as `ch` and its position. -/
def label (c : ChannelId) : String := "ch" ++ toString c.index

end ChannelId

/-- The level of every output line: bit `i` is the level of channel `i`. -/
structure ChannelState where
  /-- The levels, channel 0 in the lowest bit. -/
  bits : BitVec 64
deriving DecidableEq

namespace ChannelState

/-- The number of lines that a state describes. -/
def capacity : Nat := 64

/-- Every line is off. -/
def off : ChannelState := ⟨0⟩

/-- The state whose bits spell the number `n`. -/
def ofNat (n : Nat) : ChannelState := ⟨BitVec.ofNat 64 n⟩

/-- The state as a number. -/
def toNat (s : ChannelState) : Nat := s.bits.toNat

/-- Whether the line is on. A line beyond the capacity is off. -/
def isOn (s : ChannelState) (c : ChannelId) : Bool := s.bits.getLsbD c.index

/-- The state with one line switched. A line beyond the capacity cannot be switched. -/
def set (s : ChannelState) (c : ChannelId) (on : Bool) : ChannelState :=
  let mask : BitVec 64 := 1#64 <<< c.index
  ⟨if on then s.bits ||| mask else s.bits &&& ~~~mask⟩

/-- The state in which exactly the given lines are on. -/
def ofChannels (cs : List ChannelId) : ChannelState := cs.foldl (fun s c => s.set c true) off

/-- Whether every line is off. -/
def isOff (s : ChannelState) : Bool := s = off

/-- The number of lines that are on. -/
def countOn (s : ChannelState) : Nat := s.bits.cpop.toNat

/-- The lowest line that is on, if any is. -/
def lowest (s : ChannelState) : ChannelId := ⟨s.bits.ctz.toNat⟩

/-- The state without its lowest line. Less one, the word differs in that bit and in those below it,
so what both words have in common is the rest. -/
def dropLowest (s : ChannelState) : ChannelState := ⟨s.bits &&& (s.bits - 1)⟩

theorem toNat_pos {s : ChannelState} (h : s ≠ off) : 0 < s.toNat := by
  rw [Nat.pos_iff_ne_zero]
  intro hzero
  exact h (congrArg mk (BitVec.eq_of_toNat_eq hzero))

theorem toNat_bits_sub_one {s : ChannelState} (h : s ≠ off) :
    (s.bits - 1).toNat = s.toNat - 1 :=
  BitVec.toNat_sub_of_le (BitVec.le_def.mpr (toNat_pos h))

theorem toNat_dropLowest_lt {s : ChannelState} (h : s ≠ off) : s.dropLowest.toNat < s.toNat := by
  have hle : s.dropLowest.toNat ≤ (s.bits - 1).toNat := by
    unfold toNat dropLowest
    rw [BitVec.toNat_and]
    exact Nat.and_le_right
  have hless := toNat_bits_sub_one h
  have hpos := toNat_pos h
  omega

/-- The lines that are on, lowest first: the lowest is taken out until none is left. -/
def onChannels (s : ChannelState) : List ChannelId :=
  if s = off then [] else s.lowest :: s.dropLowest.onChannels
termination_by s.toNat
decreasing_by exact toNat_dropLowest_lt ‹_›

/-- The levels of the first `n` lines, each at its position as 32 bits hold it. -/
def levels (s : ChannelState) (n : Nat) : List Bool :=
  (List.range n).map fun i => s.isOn ⟨i % Word.limit32⟩

/-- States are ordered as the numbers that their bits spell. -/
def compare (s t : ChannelState) : Ordering := Ord.compare s.toNat t.toNat

/-- A state is shown as the lines that are on, joined by `+` in brackets. -/
def label (s : ChannelState) : String :=
  "[" ++ String.intercalate "+" (s.onChannels.map ChannelId.label) ++ "]"

/-! ## Membership -/

@[simp] theorem isOn_off (c : ChannelId) : off.isOn c = false := by
  simp [isOn, off]

/-- A line beyond the capacity is off. -/
theorem isOn_of_capacity_le (s : ChannelState) {c : ChannelId} (h : capacity ≤ c.index) :
    s.isOn c = false :=
  BitVec.getLsbD_of_ge s.bits c.index h

/-- Switching a line below the capacity changes that line and no other. -/
theorem isOn_set (s : ChannelState) {c : ChannelId} (hc : c.index < capacity) (on : Bool)
    (d : ChannelId) : (s.set c on).isOn d = if d = c then on else s.isOn d := by
  obtain ⟨i⟩ := c
  obtain ⟨j⟩ := d
  simp only [capacity] at hc
  by_cases hj : j < 64
  · cases on <;> by_cases h : j = i <;> simp [set, isOn, h, hj, hc] <;> omega
  · have hne : j ≠ i := by omega
    have hoff : ∀ t : ChannelState, t.isOn ⟨j⟩ = false := fun t =>
      isOn_of_capacity_le t (Nat.le_of_not_lt hj)
    simp [hoff, hne]

theorem bits_inj {s t : ChannelState} : s.bits = t.bits ↔ s = t := by
  cases s
  cases t
  simp

/-- Two states with the same level on every line are equal. -/
theorem ext_isOn {s t : ChannelState} (h : ∀ c, s.isOn c = t.isOn c) : s = t := by
  obtain ⟨a⟩ := s
  obtain ⟨b⟩ := t
  congr 1
  exact BitVec.eq_of_getLsbD_eq fun i _ => h ⟨i⟩

theorem isOn_foldl_set {cs : List ChannelId} (hcs : ∀ c ∈ cs, c.index < capacity)
    (s : ChannelState) (d : ChannelId) :
    (cs.foldl (fun s c => s.set c true) s).isOn d = true ↔ s.isOn d = true ∨ d ∈ cs := by
  induction cs generalizing s with
  | nil => simp
  | cons c cs ih =>
    have hc : c.index < capacity := hcs c List.mem_cons_self
    have hrest : ∀ c ∈ cs, c.index < capacity := fun e he => hcs e (List.mem_cons_of_mem _ he)
    rw [List.foldl_cons, ih hrest, isOn_set s hc, List.mem_cons]
    by_cases hd : d = c
    · simp [hd]
    · simp [hd]

/-- A state made from lines below the capacity has exactly these on. -/
theorem isOn_ofChannels {cs : List ChannelId} (hcs : ∀ c ∈ cs, c.index < capacity)
    (d : ChannelId) : (ofChannels cs).isOn d = true ↔ d ∈ cs := by
  unfold ofChannels
  rw [isOn_foldl_set hcs]
  simp

end ChannelState

end PulseTrain
