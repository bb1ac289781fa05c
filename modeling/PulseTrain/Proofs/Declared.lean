import Mathlib.Data.List.Induction
import Mathlib.Order.Nat
import PulseTrain.Channel.Set
import PulseTrain.Proofs.Fallible

/-!
# Declared channels

A name leads to the one channel of a set that has it, and a name that is not declared to none. A
list of names is declared iff there is a set with just these names.
-/

namespace PulseTrain

namespace ChannelStore

variable {s : ChannelStore} {name : String} {c : ChannelId}

/-! ## Channels -/

theorem contains_iff : s.contains c = true ↔ c.index < s.size := decide_eq_true_iff

theorem mem_ids : c ∈ s.ids ↔ c.index < s.size := by
  unfold ids
  rw [List.mem_map]
  constructor
  · rintro ⟨i, hi, rfl⟩
    exact List.mem_range.mp hi
  · intro hc
    exact ⟨c.index, List.mem_range.mpr hc, rfl⟩

theorem length_ids : s.ids.length = s.size := by
  simp [ids]

/-- The channels stand in order. -/
theorem getElem?_ids_eq_some_iff {d : ChannelId} :
    s.ids[c.index]? = some d ↔ d = c ∧ c.index < s.size := by
  unfold ids
  rw [List.getElem?_map, Option.map_eq_some_iff]
  constructor
  · rintro ⟨i, hi, rfl⟩
    obtain ⟨hlt, rfl⟩ := List.getElem?_eq_some_iff.mp hi
    rw [List.length_range] at hlt
    exact ⟨congrArg ChannelId.mk (List.getElem_range _), hlt⟩
  · rintro ⟨rfl, hlt⟩
    exact ⟨d.index, List.getElem?_range hlt, rfl⟩

theorem index_lt_of_name? (h : s.name? c = some name) : c.index < s.size :=
  (List.getElem?_eq_some_iff.mp h).1

theorem mem_names_of_name? (h : s.name? c = some name) : name ∈ s.names :=
  List.mem_of_getElem? h

/-! ## Names -/

namespace Coherent

variable (h : s.Coherent)

include h

theorem id?_eq_some_iff : s.id? name = some c ↔ s.name? c = some name := h.inverse name c

theorem id?_eq_none_iff : s.id? name = none ↔ name ∉ s.names := by
  rw [← h.mem_byName_iff, Std.ExtTreeMap.mem_iff_isSome_getElem?, Option.not_isSome_iff_eq_none]
  rfl

theorem require_eq_ok_iff : s.require name = .ok c ↔ s.name? c = some name := by
  rw [← h.id?_eq_some_iff]
  unfold require
  cases s.id? name with
  | none => simp
  | some d => simp

theorem require_eq_error_iff {e : ModelError} :
    s.require name = .error e ↔ name ∉ s.names ∧ e = .unknownChannelName name := by
  rw [← h.id?_eq_none_iff]
  unfold require
  cases s.id? name with
  | none => simp [eq_comm]
  | some d => simp

/-- A declaration fails because the name is taken or, if it is not, because there is no room. Then
the stores stay as they are. Otherwise the name gets the next channel. -/
theorem attempt_cases (name : String) :
    (name ∈ s.names ∧ s.attempt name = (.error (.duplicateChannel name), s)) ∨
    (name ∉ s.names ∧ s.size = ChannelState.capacity ∧ s.attempt name =
      (.error (.tooManyChannels ChannelState.capacity (ChannelState.capacity + 1)), s)) ∨
    (name ∉ s.names ∧ s.size < ChannelState.capacity ∧ s.attempt name =
      (.ok ⟨s.size⟩, ⟨s.names ++ [name], s.byName.insert name ⟨s.size⟩⟩)) := by
  rw [← h.mem_byName_iff]
  by_cases hname : name ∈ s.byName
  · exact .inl ⟨hname, attempt_of_taken hname⟩
  · rcases h.length_le.eq_or_lt with hfull | hroom
    · have hsize : s.size = ChannelState.capacity := hfull
      have hattempt := attempt_of_full hname hsize.ge
      rw [hsize] at hattempt
      exact .inr (.inl ⟨hname, hsize, hattempt⟩)
    · exact .inr (.inr ⟨hname, hroom, attempt_of_free hname hroom⟩)

end Coherent

end ChannelStore

namespace ChannelSet

variable {s t : ChannelSet} {name : String} {c : ChannelId}

/-- A state that is made from declared lines has no other line on. -/
theorem contains_of_isOn_ofChannels {cs : List ChannelId}
    (hcs : ∀ d ∈ cs, s.contains d = true)
    (hc : (ChannelState.ofChannels cs).isOn c = true) : s.contains c = true := by
  have hcapacity : ∀ d ∈ cs, d.index < ChannelState.capacity := fun d hd =>
    (ChannelStore.contains_iff.mp (hcs d hd)).trans_le s.length_le
  exact hcs c ((ChannelState.isOn_ofChannels hcapacity c).mp hc)

/-! ## Declarations -/

/-- There is a set with these names if they are distinct and not too many. -/
theorem exists_names {names : List String} (hnodup : names.Nodup)
    (hlength : names.length ≤ ChannelState.capacity) : ∃ s : ChannelSet, s.names = names := by
  induction names using List.reverseRecOn with
  | nil => exact ⟨empty, rfl⟩
  | append_singleton names name ih =>
    obtain ⟨hbefore, -, hapart⟩ := List.nodup_append.mp hnodup
    rw [List.length_append, List.length_singleton] at hlength
    obtain ⟨s, rfl⟩ := ih hbefore (Nat.le_of_succ_le hlength)
    have hnew : name ∉ s.names := fun hmem => hapart name hmem name List.mem_cons_self rfl
    exact ⟨⟨_, s.coherent.insert hnew hlength⟩, rfl⟩

/-- A name is declared behind those that are there, as long as there is such a set. -/
theorem extend_eq_ok_iff : s.extend name = .ok t ↔ t.names = s.names ++ [name] := by
  unfold extend
  rw [map_eq_ok]
  rcases s.coherent.attempt_cases name with ⟨htaken, heq⟩ | ⟨-, hfull, heq⟩ | ⟨-, -, heq⟩
  · have hne : t.names ≠ s.names ++ [name] := by
      intro h
      have hnodup := t.nodup
      rw [h, List.nodup_append] at hnodup
      exact hnodup.2.2 name htaken name List.mem_cons_self rfl
    simp [heq, hne]
  · have hne : t.names ≠ s.names ++ [name] := by
      intro h
      have hlength := t.length_le
      rw [h, List.length_append, List.length_singleton] at hlength
      exact absurd hfull (Nat.ne_of_lt hlength)
    simp [heq, hne]
  · have hnames : (s.attempt name).2.names = s.names ++ [name] := by rw [heq]
    constructor
    · rintro ⟨_, -, rfl⟩
      exact hnames
    · intro h
      exact ⟨⟨s.size⟩, congrArg Prod.fst heq, names_inj (hnames.trans h.symm)⟩

/-- Names are declared one after the other, as long as there is a set with all of them. -/
theorem foldlM_extend_eq_ok_iff {names : List String} :
    names.foldlM extend s = .ok t ↔ t.names = s.names ++ names := by
  induction names generalizing s with
  | nil =>
    rw [List.append_nil]
    constructor
    · intro h
      obtain rfl : s = t := Except.ok.inj h
      rfl
    · intro h
      exact congrArg Except.ok (names_inj h.symm)
  | cons name rest ih =>
    rw [List.foldlM_cons, bind_eq_ok]
    simp only [ih, extend_eq_ok_iff]
    constructor
    · rintro ⟨u, hu, h⟩
      rw [h, hu, List.append_assoc, List.singleton_append]
    · intro h
      have hsplit : t.names = (s.names ++ [name]) ++ rest := by
        rw [h, List.append_assoc, List.singleton_append]
      have hnodup := t.nodup
      have hlength := t.length_le
      rw [hsplit] at hnodup hlength
      rw [List.length_append] at hlength
      obtain ⟨u, hu⟩ := exists_names (List.nodup_append.mp hnodup).1
        (Nat.le_trans (Nat.le_add_right _ _) hlength)
      exact ⟨u, hu, hu ▸ hsplit⟩

/-- Names make a set iff there is a set with these names. -/
theorem ofNames_eq_ok_iff {names : List String} : ofNames names = .ok s ↔ s.names = names :=
  foldlM_extend_eq_ok_iff

end ChannelSet

end PulseTrain
