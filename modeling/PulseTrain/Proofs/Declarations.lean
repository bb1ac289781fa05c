import Mathlib.Data.List.Induction
import PulseTrain.Proofs.Declared
import PulseTrain.Proofs.Documents

/-!
# Runs of declarations

Names are declared again and again on empty stores, taken ones among them, and more than there is
room for. Each declaration keeps the two stores inverse to one another, be it that it writes to both
or that it fails, and so does a run. A declaration that fails leaves the stores as they are, and one
that succeeds only adds at the end, so a channel keeps its name and a name its channel. Of the
distinct names the first ones are declared, as many as there is room for.
-/

namespace PulseTrain.ChannelStore

/-- The stores after a run of declarations. One that fails does not end the run. -/
def attempts (s : ChannelStore) (names : List String) : ChannelStore :=
  names.foldl (fun s name => (s.attempt name).2) s

variable {s : ChannelStore} {name : String} {c : ChannelId}

theorem attempts_append (s : ChannelStore) (names later : List String) :
    s.attempts (names ++ later) = (s.attempts names).attempts later :=
  List.foldl_append

theorem attempts_concat (s : ChannelStore) (names : List String) (name : String) :
    s.attempts (names ++ [name]) = ((s.attempts names).attempt name).2 :=
  attempts_append s names [name]

/-! ## Look-up by name -/

theorem id?_insert_self {names : List String} :
    (ChannelStore.mk names (s.byName.insert name c)).id? name = some c :=
  Std.ExtTreeMap.getElem?_insert_self

theorem id?_insert_of_ne {names : List String} {other : String} (h : name ≠ other) :
    (ChannelStore.mk names (s.byName.insert name c)).id? other = s.id? other := by
  have hne : compare name other ≠ .eq := by simpa using h
  unfold id?
  rw [Std.ExtTreeMap.getElem?_insert, if_neg hne]

/-! ## What runs keep -/

namespace Coherent

variable (h : s.Coherent)

include h

/-- The stores agree after any run. -/
theorem attempts (names : List String) : (s.attempts names).Coherent := by
  induction names generalizing s with
  | nil => exact h
  | cons name rest ih => exact ih (h.attempt name)

theorem names_attempt (name : String) : (s.attempt name).2.names =
    if name ∈ s.names ∨ s.size = ChannelState.capacity then s.names else s.names ++ [name] := by
  rcases h.attempt_cases name with ⟨hname, heq⟩ | ⟨-, hfull, heq⟩ | ⟨hname, hroom, heq⟩
  · rw [heq, if_pos (.inl hname)]
  · rw [heq, if_pos (.inr hfull)]
  · rw [heq, if_neg (not_or.mpr ⟨hname, hroom.ne⟩)]

/-- A run keeps the names that are there, at their places. -/
theorem names_isPrefix_attempts (names : List String) : s.names <+: (s.attempts names).names := by
  induction names using List.reverseRecOn with
  | nil => exact List.prefix_rfl
  | append_singleton names name ih =>
    rw [attempts_concat, (h.attempts names).names_attempt]
    split_ifs
    · exact ih
    · exact ih.trans (List.prefix_append _ _)

theorem name?_attempts (hname : s.name? c = some name) (names : List String) :
    (s.attempts names).name? c = some name := by
  obtain ⟨later, hlater⟩ := h.names_isPrefix_attempts names
  have hlt := index_lt_of_name? hname
  unfold name? at hname ⊢
  rw [← hlater, List.getElem?_append_left hlt, hname]

/-- The map is kept because the list is. -/
theorem id?_attempts (hid : s.id? name = some c) (names : List String) :
    (s.attempts names).id? name = some c :=
  (h.attempts names).id?_eq_some_iff.mpr (h.name?_attempts (h.id?_eq_some_iff.mp hid) names)

/-- The names by themselves make the stores again. -/
theorem ofNames_names : ChannelSet.ofNames s.names = .ok ⟨s, h⟩ :=
  ChannelSet.ofNames_eq_ok_iff.mpr rfl

theorem ofNode_toNode : ChannelSet.ofNode s.toNode = .ok ⟨s, h⟩ := by
  have hnames : (Node.list (s.names.map .str)).toListOf Node.toText = .ok s.names :=
    Node.toListOf_list fun _ _ => rfl
  unfold ChannelSet.ofNode toNode
  rw [hnames]
  show (ChannelSet.ofNames s.names).mapError DecodeError.refused = _
  rw [h.ofNames_names]
  rfl

end Coherent

/-! ## Runs on empty stores -/

theorem eraseDups_concat (names : List String) (name : String) : (names ++ [name]).eraseDups =
    if name ∈ names then names.eraseDups else names.eraseDups ++ [name] := by
  rw [List.eraseDups_append]
  by_cases h : name ∈ names
  · simp [List.removeAll, h]
  · simp [List.removeAll, h, List.eraseDups_cons]

/-- Of the names that are declared the set holds the first distinct ones. -/
theorem names_attempts (names : List String) :
    (empty.attempts names).names = names.eraseDups.take ChannelState.capacity := by
  induction names using List.reverseRecOn with
  | nil => rfl
  | append_singleton names name ih =>
    rw [attempts_concat, (coherent_empty.attempts names).names_attempt, eraseDups_concat]
    unfold size
    rw [ih, List.length_take]
    rcases lt_or_ge names.eraseDups.length ChannelState.capacity with hroom | hfull
    · -- All distinct names so far are in the set.
      have hsize : ¬ min ChannelState.capacity names.eraseDups.length = ChannelState.capacity := by
        omega
      rw [List.take_of_length_le hroom.le]
      by_cases h : name ∈ names
      · have hmem : name ∈ names.eraseDups := List.mem_eraseDups.mpr h
        rw [if_pos (.inl hmem), if_pos h, List.take_of_length_le hroom.le]
      · have hnew : name ∉ names.eraseDups := fun hmem => h (List.mem_eraseDups.mp hmem)
        rw [if_neg (not_or.mpr ⟨hnew, hsize⟩), if_neg h, List.take_of_length_le]
        rw [List.length_append, List.length_singleton]
        exact hroom
    · -- Nothing is added, be the name a new one or one that has been refused before.
      rw [if_pos (.inr (min_eq_left hfull))]
      split_ifs
      · rfl
      · rw [List.take_append_of_le_length hfull]

/-- Whatever is declared on empty stores, they hold the first of the distinct names, and never more
than there are lines. A further declaration fails iff the name is taken or, if not, there is no
room, and then it changes neither store. Otherwise the name gets the next channel in both, and no
other name is moved. Channels and names determine one another, later declarations do not change
this, and the names by themselves, also when they are written and read, make a set with the same
stores. -/
theorem attempts_outcome (names : List String) :
    let s := empty.attempts names
    s.names = names.eraseDups.take ChannelState.capacity ∧
    s.names.Nodup ∧ s.size ≤ 64 ∧
    (∀ name,
      ((s.attempt name).1 = .error (.duplicateChannel name) ↔ name ∈ s.names) ∧
      ((s.attempt name).1 = .error (.tooManyChannels 64 65) ↔ name ∉ s.names ∧ s.size = 64) ∧
      (∀ e, (s.attempt name).1 = .error e →
        (e = .duplicateChannel name ∨ e = .tooManyChannels 64 65) ∧ (s.attempt name).2 = s) ∧
      (name ∉ s.names → s.size < 64 →
        ∃ t, s.attempt name = (.ok ⟨s.size⟩, t) ∧ t.names = s.names ++ [name] ∧
          t.id? name = some ⟨s.size⟩ ∧ ∀ other, other ≠ name → t.id? other = s.id? other)) ∧
    (∀ later, (∀ c name, s.name? c = some name →
        (empty.attempts (names ++ later)).name? c = some name) ∧
      ∀ name c, s.id? name = some c → (empty.attempts (names ++ later)).id? name = some c) ∧
    (∀ name c, s.id? name = some c ↔ s.name? c = some name) ∧
    (∀ c, s.contains c = true ↔ c.index < s.size) ∧
    ∃ t : ChannelSet, t.toChannelStore = s ∧ ChannelSet.ofNames s.names = .ok t ∧
      ChannelSet.ofNode s.toNode = .ok t := by
  intro s
  have hs : s.Coherent := coherent_empty.attempts names
  refine ⟨names_attempts names, hs.nodup, hs.length_le, fun name => ?_, fun later => ?_,
    fun name c => hs.id?_eq_some_iff, fun c => contains_iff,
    ⟨⟨s, hs⟩, rfl, hs.ofNames_names, hs.ofNode_toNode⟩⟩
  · rcases hs.attempt_cases name with ⟨h, heq⟩ | ⟨h, hfull, heq⟩ | ⟨h, hroom, heq⟩
    · simp [heq, h]
    · have hsize : s.size = 64 := hfull
      simp [heq, h, hsize, ChannelState.capacity]
    · have hsize : s.size < 64 := hroom
      refine ⟨by simp [heq, h], by simp [heq, hsize.ne], by simp [heq], fun _ _ => ?_⟩
      exact ⟨_, heq, rfl, id?_insert_self, fun other hne => id?_insert_of_ne hne.symm⟩
  · rw [attempts_append]
    exact ⟨fun c name h => hs.name?_attempts h later, fun name c h => hs.id?_attempts h later⟩

/-- A name is declared twice. -/
theorem attempts_outcome_twice :
    let s := empty.attempts ["laser", "gate", "laser"]
    s.names = ["laser", "gate"] ∧
      (s.attempt "gate").1 = .error (.duplicateChannel "gate") ∧
      (∃ t, s.attempt "trigger" = (.ok ⟨2⟩, t) ∧ t.names = ["laser", "gate", "trigger"]) ∧
      (s.attempts ["gate", "trigger"]).id? "laser" = some ⟨0⟩ := by
  intro s
  have hnames : s.names = ["laser", "gate"] := rfl
  obtain ⟨-, -, -, hattempt, hlater, hinverse, -⟩ := attempts_outcome ["laser", "gate", "laser"]
  obtain ⟨-, -, -, hfree⟩ := hattempt "trigger"
  obtain ⟨t, ht, htnames, -⟩ := hfree (by decide) (by decide)
  refine ⟨hnames, (hattempt "gate").1.mpr (by decide), ⟨t, ht, htnames⟩, ?_⟩
  exact (hlater ["gate", "trigger"]).2 "laser" ⟨0⟩ ((hinverse "laser" ⟨0⟩).mpr rfl)

end PulseTrain.ChannelStore
