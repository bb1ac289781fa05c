import PulseTrain.ModelError
import Std.Data.ExtTreeMap

/-!
# Stores of channels

Declared channels are kept in two stores. A list holds their names in order of declaration, so the
`i`-th name is that of channel `i`; a map leads from each name to its channel. Names are looked up
in the map, and channels in the list. A declaration writes to both, so what agrees before it agrees
afterwards: the two stay inverse to one another (`Coherent`).
-/

namespace PulseTrain

/-- The declared channels, by position and by name. -/
structure ChannelStore where
  /-- The names, in order of declaration. -/
  names : List String
  /-- The channel of each name. The order of a map's entries plays no part in its equality. -/
  byName : Std.ExtTreeMap String ChannelId
deriving DecidableEq

/-- A computation on stores of channels: it may fail, and it leaves stores in either case. -/
abbrev ChannelM := ExceptT ModelError (StateM ChannelStore)

namespace ChannelStore

/-- No channel is declared. -/
def empty : ChannelStore := ⟨[], ∅⟩

/-- The number of channels. -/
def size (s : ChannelStore) : Nat := s.names.length

/-- Whether there are no channels. -/
def isEmpty (s : ChannelStore) : Bool := s.names.isEmpty

/-- Declares one more channel, which gets the next free position. A name that is taken is refused
first, then a channel beyond the capacity. -/
def declare (name : String) : ChannelM ChannelId := do
  let s ← get
  if name ∈ s.byName then
    throw (.duplicateChannel name)
  if ChannelState.capacity ≤ s.names.length then
    throw (.tooManyChannels ChannelState.capacity (s.names.length + 1))
  let c : ChannelId := ⟨s.names.length⟩
  modify fun s => { s with byName := s.byName.insert name c }
  modify fun s => { s with names := s.names ++ [name] }
  return c

/-- What a declaration returns, and the stores that it leaves. -/
def attempt (s : ChannelStore) (name : String) : Except ModelError ChannelId × ChannelStore :=
  (declare name).run.run s

/-- The channel of that name. -/
def id? (s : ChannelStore) (name : String) : Option ChannelId := s.byName[name]?

/-- The channel of that name, which has to be declared. -/
def require (s : ChannelStore) (name : String) : Except ModelError ChannelId :=
  match s.id? name with
  | some c => .ok c
  | none => .error (.unknownChannelName name)

/-- The name of a channel. -/
def name? (s : ChannelStore) (c : ChannelId) : Option String := s.names[c.index]?

/-- Whether the channel is declared. -/
def contains (s : ChannelStore) (c : ChannelId) : Bool := c.index < s.names.length

/-- Refuses a channel that is not declared. -/
def check (s : ChannelStore) (c : ChannelId) : Except ModelError Unit :=
  if s.contains c then .ok () else .error (.unknownChannel c s.size)

/-- The channels, in order. -/
def ids (s : ChannelStore) : List ChannelId := (List.range s.size).map ChannelId.mk

/-- The channels with their names, in order. -/
def toList (s : ChannelStore) : List (ChannelId × String) := s.ids.zip s.names

/-! ## Single declarations -/

variable {s t : ChannelStore} {name : String} {c : ChannelId}

theorem attempt_of_taken (h : name ∈ s.byName) :
    s.attempt name = (.error (.duplicateChannel name), s) := by
  show (if name ∈ s.byName then throw _ else _ : ChannelM ChannelId).run.run s = _
  rw [if_pos h]
  rfl

theorem attempt_of_full (h : name ∉ s.byName) (hfull : ChannelState.capacity ≤ s.size) :
    s.attempt name = (.error (.tooManyChannels ChannelState.capacity (s.size + 1)), s) := by
  show (if name ∈ s.byName then throw _ else if ChannelState.capacity ≤ s.size then throw _ else _ :
    ChannelM ChannelId).run.run s = _
  rw [if_neg h, if_pos hfull]
  rfl

/-- The name goes to both stores. -/
theorem attempt_of_free (h : name ∉ s.byName) (hroom : s.size < ChannelState.capacity) :
    s.attempt name =
      (.ok ⟨s.size⟩, ⟨s.names ++ [name], s.byName.insert name ⟨s.size⟩⟩) := by
  show (if name ∈ s.byName then throw _ else if ChannelState.capacity ≤ s.size then throw _ else _ :
    ChannelM ChannelId).run.run s = _
  rw [if_neg h, if_neg (Nat.not_le.mpr hroom)]
  rfl

/-! ## Coherence -/

/-- The stores are inverse to one another, and a state has a line for every channel. -/
structure Coherent (s : ChannelStore) : Prop where
  /-- A name leads to the channel that has it, and to no other. -/
  inverse : ∀ (name : String) (c : ChannelId),
    s.byName[name]? = some c ↔ s.names[c.index]? = some name
  /-- A state has a line for every channel. -/
  length_le : s.names.length ≤ ChannelState.capacity

theorem coherent_empty : empty.Coherent where
  inverse := by simp [empty]
  length_le := Nat.zero_le _

/-- Behind the names that were there stands the new one. -/
theorem names_concat_iff {i : Nat} {other : String} :
    (s.names ++ [name])[i]? = some other ↔
      s.names[i]? = some other ∨ i = s.size ∧ name = other := by
  unfold size
  rcases Nat.lt_trichotomy i s.names.length with hlt | rfl | hgt
  · rw [List.getElem?_append_left hlt]
    simp [Nat.ne_of_lt hlt]
  · simp
  · have hlong : (s.names ++ [name]).length ≤ i := by
      rw [List.length_append, List.length_singleton]
      exact hgt
    simp [List.getElem?_eq_none hlong, List.getElem?_eq_none (Nat.le_of_lt hgt), Nat.ne_of_gt hgt]

namespace Coherent

theorem mem_byName_iff (h : s.Coherent) : name ∈ s.byName ↔ name ∈ s.names := by
  rw [Std.ExtTreeMap.mem_iff_isSome_getElem?, Option.isSome_iff_exists, List.mem_iff_getElem?]
  constructor
  · rintro ⟨c, hc⟩
    exact ⟨c.index, (h.inverse name c).mp hc⟩
  · rintro ⟨i, hi⟩
    exact ⟨⟨i⟩, (h.inverse name ⟨i⟩).mpr hi⟩

/-- No name is declared twice, since a name leads to one channel only. -/
theorem nodup (h : s.Coherent) : s.names.Nodup := by
  rw [List.nodup_iff_pairwise_ne, List.pairwise_iff_getElem]
  intro i j hi hj hij heq
  have hfirst := (h.inverse s.names[i] ⟨i⟩).mpr (List.getElem?_eq_getElem hi)
  have hsecond := (h.inverse s.names[j] ⟨j⟩).mpr (List.getElem?_eq_getElem hj)
  rw [← heq] at hsecond
  have hsame := Option.some.inj (hfirst.symm.trans hsecond)
  exact Nat.ne_of_lt hij (ChannelId.mk.inj hsame)

/-- The names determine the map, so they determine the stores. -/
theorem eq_of_names (hs : s.Coherent) (ht : t.Coherent) (h : s.names = t.names) : s = t := by
  have hmap : s.byName = t.byName := by
    apply Std.ExtTreeMap.ext_getElem?
    intro name
    apply Option.ext
    intro c
    rw [hs.inverse, ht.inverse, h]
  cases s
  cases t
  simp only at h hmap
  rw [h, hmap]

/-- A name that is new gets the channel behind the last one, and that channel gets the name. -/
theorem insert (h : s.Coherent) (hnew : name ∉ s.names) (hroom : s.size < ChannelState.capacity) :
    Coherent ⟨s.names ++ [name], s.byName.insert name ⟨s.size⟩⟩ where
  inverse other c := by
    dsimp only
    rw [Std.ExtTreeMap.getElem?_insert, names_concat_iff]
    by_cases hname : name = other
    · -- The name was at no position, so it is at the new one only.
      subst hname
      have hnone : s.names[c.index]? ≠ some name := fun hc => hnew (List.mem_of_getElem? hc)
      rw [if_pos (by simp), Option.some.injEq, ← ChannelId.index_inj]
      simp [hnone, eq_comm]
    · have hne : compare name other ≠ .eq := by simpa using hname
      rw [if_neg hne, h.inverse]
      simp [hname]
  length_le := by
    rw [List.length_append, List.length_singleton]
    exact hroom

/-- Whether a declaration succeeds or fails, the stores that it leaves agree. -/
theorem attempt (h : s.Coherent) (name : String) : (s.attempt name).2.Coherent := by
  by_cases hname : name ∈ s.byName
  · rw [attempt_of_taken hname]
    exact h
  · rcases Nat.lt_or_ge s.size ChannelState.capacity with hroom | hfull
    · rw [attempt_of_free hname hroom]
      exact h.insert (fun hmem => hname (h.mem_byName_iff.mpr hmem)) hroom
    · rw [attempt_of_full hname hfull]
      exact h

end Coherent

end ChannelStore

end PulseTrain
