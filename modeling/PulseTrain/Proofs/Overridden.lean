import PulseTrain.Experiment.Resolve
import PulseTrain.Proofs.Fallible

/-!
# Windows with the changes of a step

A step and the defaults together name some channels, and on each of them the step has its say before
the defaults have. Laying the overrides of a step over the default windows gives exactly these
windows, unless one of the overrides is refused; it is then named by the parameter that is wrong.
-/

namespace PulseTrain

theorem nonNegative_eq_ok_iff {parameter : String} {v : Int} {n : Nat} :
    nonNegative parameter v = .ok n ↔ (n : Int) = v := by
  unfold nonNegative
  rw [guarded_eq_ok]
  constructor
  · rintro ⟨rfl, hv⟩
    exact Int.toNat_of_nonneg hv
  · rintro rfl
    exact ⟨(Int.toNat_natCast n).symm, Int.natCast_nonneg n⟩

theorem nonNegative_eq_error_iff {parameter : String} {v : Int} {e : CompileError} :
    nonNegative parameter v = .error e ↔
      e = .invalidParameter parameter s!"must be non-negative, got {v}" ∧ v < 0 := by
  unfold nonNegative
  rw [guarded_eq_error, Int.not_le]

/-! ## Named values in a map -/

namespace NameMap

variable {α β ε : Type} {f : String × β → Except ε α} {xs : List (String × β)} {m m' : NameMap α}

/-- Putting values into a map one after the other, under names that are all different, leaves each
value under its name and nothing else changed. -/
theorem getElem?_of_foldlM_insert (hdistinct : xs.Pairwise fun x y => x.1 ≠ y.1)
    (h : xs.foldlM (fun m x => do return m.insert x.1 (← f x)) m = .ok m') :
    (∀ x ∈ xs, ∃ a, f x = .ok a ∧ m'[x.1]? = some a) ∧
      ∀ name, (∀ x ∈ xs, x.1 ≠ name) → m'[name]? = m[name]? := by
  induction xs generalizing m with
  | nil =>
    obtain rfl : m = m' := Except.ok.inj h
    exact ⟨fun x hx => absurd hx List.not_mem_nil, fun name _ => rfl⟩
  | cons x xs ih =>
    obtain ⟨hx, hxs⟩ := List.pairwise_cons.mp hdistinct
    rw [List.foldlM_cons] at h
    obtain ⟨m₁, hm₁, hrest⟩ := bind_eq_ok.mp h
    obtain ⟨a, ha, hput⟩ := bind_eq_ok.mp hm₁
    obtain rfl : m.insert x.1 a = m₁ := Except.ok.inj hput
    obtain ⟨hlater, hother⟩ := ih hxs hrest
    refine ⟨?_, ?_⟩
    · intro y hy
      rcases List.mem_cons.mp hy with rfl | hy
      · refine ⟨a, ha, ?_⟩
        rw [hother y.1 fun z hz => (hx z hz).symm]
        exact Std.TreeMap.getElem?_insert_self
      · exact hlater y hy
    · intro name hname
      rw [hother name fun z hz => hname z (List.mem_cons_of_mem _ hz), Std.TreeMap.getElem?_insert,
        if_neg]
      rw [Std.LawfulEqCmp.compare_eq_iff_eq]
      exact hname x List.mem_cons_self

/-- That fails because of one of the values. -/
theorem exists_of_foldlM_insert_eq_error {e : ε}
    (h : xs.foldlM (fun m x => do return m.insert x.1 (← f x)) m = .error e) :
    ∃ x ∈ xs, f x = .error e := by
  induction xs generalizing m with
  | nil => exact absurd h pure_ne_error
  | cons x xs ih =>
    rw [List.foldlM_cons] at h
    rcases bind_eq_error.mp h with hput | ⟨m₁, -, hrest⟩
    · rcases bind_eq_error.mp hput with hx | ⟨a, -, hx⟩
      · exact ⟨x, List.mem_cons_self, hx⟩
      · exact absurd hx pure_ne_error
    · obtain ⟨y, hy, he⟩ := ih hrest
      exact ⟨y, List.mem_cons_of_mem _ hy, he⟩

theorem pairwise_ne_toList (m : NameMap α) : m.toList.Pairwise fun x y => x.1 ≠ y.1 := by
  refine Std.TreeMap.distinct_keys_toList.imp fun {x y} hxy heq => hxy ?_
  rw [Std.LawfulEqCmp.compare_eq_iff_eq]
  exact heq

theorem mem_iff_exists {name : String} : name ∈ m ↔ ∃ a, m[name]? = some a := by
  rw [Std.TreeMap.mem_iff_isSome_getElem?, Option.isSome_iff_exists]

theorem fst_ne_of_notMem {name : String} (h : name ∉ m) : ∀ x ∈ m.toList, x.1 ≠ name := by
  rintro ⟨n, a⟩ hx rfl
  exact h (mem_iff_exists.mpr ⟨a, Std.TreeMap.mem_toList_iff_getElem?_eq_some.mp hx⟩)

end NameMap

/-! ## One channel -/

namespace PulseOverride

variable {o : PulseOverride} {name : String} {base : Option PulseWindow}

/-- When the pulse begins: as the override says, else as the default window does, else at zero. -/
def startOver (o : PulseOverride) (base : Option PulseWindow) : Int :=
  (o.start <|> base.map fun w => (w.start : Int)).getD 0

/-- How long it lasts: as the override says, else as the default window does. -/
def durationOver? (o : PulseOverride) (base : Option PulseWindow) : Option Int :=
  o.duration <|> base.map fun w => (w.duration : Int)

/-- The parameters of a channel that an override has wrong, as errors name them. -/
inductive Misstates (o : PulseOverride) (name : String) (base : Option PulseWindow) : String → Prop
  /-- The pulse would begin before the unit. -/
  | start {v : Int} (h : o.start = some v) (hneg : v < 0) :
    Misstates o name base s!"{name}.start_ns"
  /-- The pulse would last less than no time. -/
  | duration {v : Int} (h : o.duration = some v) (hneg : v < 0) :
    Misstates o name base s!"{name}.duration_ns"
  /-- It is not said how long the pulse lasts. -/
  | missing (h : o.duration = none) (hbase : base = none) :
    Misstates o name base s!"{name}.duration_ns"

/-- The start that an override leads to. -/
def start? (o : PulseOverride) (name : String) (base : Option PulseWindow) :
    Except CompileError Nanoseconds :=
  match o.start with
  | some v => nonNegative s!"{name}.start_ns" v
  | none => .ok ((base.map PulseWindow.start).getD 0)

/-- The duration that an override leads to. -/
def duration? (o : PulseOverride) (name : String) (base : Option PulseWindow) :
    Except CompileError Nanoseconds :=
  match o.duration, base with
  | some v, _ => nonNegative s!"{name}.duration_ns" v
  | none, some w => .ok w.duration
  | none, none =>
    .error (.invalidParameter s!"{name}.duration_ns"
      "required for a channel without a default pulse")

/-- The start is settled before the duration. -/
theorem onto_eq (o : PulseOverride) (name : String) (base : Option PulseWindow) :
    o.onto name base = (do
      let start ← o.start? name base
      let duration ← o.duration? name base
      return ⟨start, duration⟩) := by
  obtain ⟨start, duration⟩ := o
  cases start with
  | none =>
    cases duration with
    | none =>
      cases base with
      | none => rfl
      | some w => rfl
    | some t => rfl
  | some s =>
    cases duration with
    | none =>
      cases base with
      | none => rfl
      | some w => rfl
    | some t => rfl

theorem start?_eq_ok_iff {n : Nat} :
    o.start? name base = .ok n ↔ (n : Int) = o.startOver base := by
  unfold start? startOver
  cases o.start with
  | some v => exact nonNegative_eq_ok_iff
  | none =>
    cases base with
    | none =>
      show Except.ok 0 = Except.ok n ↔ (n : Int) = 0
      rw [Except.ok.injEq, Int.natCast_eq_zero, eq_comm]
    | some w =>
      show Except.ok w.start = Except.ok n ↔ (n : Int) = (w.start : Int)
      rw [Except.ok.injEq, Int.natCast_inj, eq_comm]

theorem duration?_eq_ok_iff {n : Nat} :
    o.duration? name base = .ok n ↔ o.durationOver? base = some (n : Int) := by
  unfold duration? durationOver?
  cases o.duration with
  | some v =>
    show nonNegative _ v = .ok n ↔ some v = some (n : Int)
    rw [nonNegative_eq_ok_iff, Option.some_inj, eq_comm]
  | none =>
    cases base with
    | none => simp
    | some w =>
      show Except.ok w.duration = Except.ok n ↔ some (w.duration : Int) = some (n : Int)
      rw [Except.ok.injEq, Option.some_inj, Int.natCast_inj]

/-- The window of a channel is the one that the override and the default window ask for. -/
theorem onto_eq_ok_iff {w : PulseWindow} : o.onto name base = .ok w ↔
    (w.start : Int) = o.startOver base ∧ o.durationOver? base = some (w.duration : Int) := by
  rw [onto_eq, bind_eq_ok]
  simp only [bind_eq_ok, start?_eq_ok_iff, duration?_eq_ok_iff]
  constructor
  · rintro ⟨start, hstart, duration, hduration, h⟩
    obtain rfl := Except.ok.inj h
    exact ⟨hstart, hduration⟩
  · rintro ⟨hstart, hduration⟩
    exact ⟨w.start, hstart, w.duration, hduration, rfl⟩

theorem misstates_of_start?_eq_error {e : CompileError} (h : o.start? name base = .error e) :
    ∃ parameter reason, e = .invalidParameter parameter reason ∧
      o.Misstates name base parameter := by
  unfold start? at h
  split at h
  · rename_i v hv
    obtain ⟨rfl, hneg⟩ := nonNegative_eq_error_iff.mp h
    exact ⟨_, _, rfl, .start hv hneg⟩
  · simp at h

theorem misstates_of_duration?_eq_error {e : CompileError}
    (h : o.duration? name base = .error e) :
    ∃ parameter reason, e = .invalidParameter parameter reason ∧
      o.Misstates name base parameter := by
  unfold duration? at h
  split at h
  · rename_i v hv
    obtain ⟨rfl, hneg⟩ := nonNegative_eq_error_iff.mp h
    exact ⟨_, _, rfl, .duration hv hneg⟩
  · simp at h
  · rename_i hmissing
    obtain rfl := Except.error.inj h
    exact ⟨_, _, rfl, .missing hmissing rfl⟩

/-- If there is no such window, the error names what is wrong. -/
theorem misstates_of_onto_eq_error {e : CompileError} (h : o.onto name base = .error e) :
    ∃ parameter reason, e = .invalidParameter parameter reason ∧
      o.Misstates name base parameter := by
  rw [onto_eq] at h
  rcases bind_eq_error.mp h with hstart | ⟨start, -, hrest⟩
  · exact misstates_of_start?_eq_error hstart
  · rcases bind_eq_error.mp hrest with hduration | ⟨duration, -, hdone⟩
    · exact misstates_of_duration?_eq_error hduration
    · exact absurd hdone pure_ne_error

end PulseOverride

/-! ## All channels -/

namespace TimingParams

variable {p : TimingParams} {d : TimingDefaults} {name : String} {m : NameMap PulseWindow}

/-- The step or the defaults have a pulse on the channel. -/
def Names (p : TimingParams) (d : TimingDefaults) (name : String) : Prop :=
  name ∈ p.pulses ∨ name ∈ d.pulses

/-- What a step changes in the pulse of a channel; nothing if it does not name the channel. -/
def changes (p : TimingParams) (name : String) : PulseOverride :=
  p.pulses[name]?.getD ⟨none, none⟩

/-- When the pulse on a channel begins, after the step or else after the defaults. -/
def startOf (p : TimingParams) (d : TimingDefaults) (name : String) : Int :=
  (p.changes name).startOver d.pulses[name]?

/-- How long the pulse on a channel lasts, after the step or else after the defaults. -/
def durationOf? (p : TimingParams) (d : TimingDefaults) (name : String) : Option Int :=
  (p.changes name).durationOver? d.pulses[name]?

section Given

variable {o : PulseOverride} {v : Int} (ho : p.pulses[name]? = some o)

include ho

theorem names_of_given : p.Names d name := .inl (NameMap.mem_iff_exists.mpr ⟨o, ho⟩)

theorem startOf_of_given (hv : o.start = some v) : p.startOf d name = v := by
  rw [startOf, changes, ho, Option.getD_some, PulseOverride.startOver, hv]
  rfl

theorem durationOf?_of_given (hv : o.duration = some v) : p.durationOf? d name = some v := by
  rw [durationOf?, changes, ho, Option.getD_some, PulseOverride.durationOver?, hv]
  rfl

theorem durationOf?_of_no_default (hbase : name ∉ d.pulses) :
    p.durationOf? d name = o.duration := by
  rw [durationOf?, changes, ho, Option.getD_some, PulseOverride.durationOver?,
    Std.TreeMap.getElem?_eq_none hbase]
  cases o.duration with
  | none => rfl
  | some v => rfl

end Given

theorem windows_eq (p : TimingParams) (d : TimingDefaults) : p.windows d =
    p.pulses.toList.foldlM
      (fun m x => do return m.insert x.1 (← x.2.onto x.1 d.pulses[x.1]?)) d.pulses := rfl

/-- Channels that the step does not name keep their default windows. -/
theorem getElem?_windows_of_notMem (h : p.windows d = .ok m) (hname : name ∉ p.pulses) :
    m[name]? = d.pulses[name]? := by
  rw [windows_eq] at h
  obtain ⟨-, hother⟩ := NameMap.getElem?_of_foldlM_insert (NameMap.pairwise_ne_toList _) h
  exact hother name (NameMap.fst_ne_of_notMem hname)

/-- A channel that is named has the window that its changes lead to. -/
theorem getElem?_windows_of_names (h : p.windows d = .ok m) (hname : p.Names d name) :
    ∃ w, (p.changes name).onto name d.pulses[name]? = .ok w ∧ m[name]? = some w := by
  by_cases hp : name ∈ p.pulses
  · obtain ⟨o, ho⟩ := NameMap.mem_iff_exists.mp hp
    rw [windows_eq] at h
    obtain ⟨hput, -⟩ := NameMap.getElem?_of_foldlM_insert (NameMap.pairwise_ne_toList _) h
    rw [changes, ho]
    exact hput (name, o) (Std.TreeMap.mem_toList_iff_getElem?_eq_some.mpr ho)
  · obtain ⟨w, hw⟩ := NameMap.mem_iff_exists.mp (hname.resolve_left hp)
    refine ⟨w, ?_, (getElem?_windows_of_notMem h hp).trans hw⟩
    rw [changes, Std.TreeMap.getElem?_eq_none hp, hw]
    rfl

theorem names_of_getElem?_windows (h : p.windows d = .ok m) {w : PulseWindow}
    (hw : m[name]? = some w) : p.Names d name := by
  by_cases hp : name ∈ p.pulses
  · exact .inl hp
  · rw [getElem?_windows_of_notMem h hp] at hw
    exact .inr (NameMap.mem_iff_exists.mpr ⟨w, hw⟩)

/-- The windows are those that the step and the defaults ask for, on the channels that they name. -/
theorem getElem?_windows_iff (h : p.windows d = .ok m) {w : PulseWindow} :
    m[name]? = some w ↔ p.Names d name ∧ (w.start : Int) = p.startOf d name ∧
      p.durationOf? d name = some (w.duration : Int) := by
  constructor
  · intro hw
    have hname := names_of_getElem?_windows h hw
    obtain ⟨x, honto, hx⟩ := getElem?_windows_of_names h hname
    obtain rfl : w = x := Option.some_inj.mp (hw.symm.trans hx)
    exact ⟨hname, PulseOverride.onto_eq_ok_iff.mp honto⟩
  · rintro ⟨hname, hw⟩
    obtain ⟨x, honto, hx⟩ := getElem?_windows_of_names h hname
    obtain rfl : x = w :=
      Except.ok.inj (honto.symm.trans (PulseOverride.onto_eq_ok_iff.mpr hw))
    exact hx

/-- An override that is refused is named by the parameter that is wrong. -/
theorem misstates_of_windows_eq_error {e : CompileError} (h : p.windows d = .error e) :
    ∃ name, ∃ o : PulseOverride, ∃ parameter reason, p.pulses[name]? = some o ∧
      e = .invalidParameter parameter reason ∧ o.Misstates name d.pulses[name]? parameter := by
  rw [windows_eq] at h
  obtain ⟨⟨name, o⟩, hmem, honto⟩ := NameMap.exists_of_foldlM_insert_eq_error h
  obtain ⟨parameter, reason, he, hwrong⟩ := PulseOverride.misstates_of_onto_eq_error honto
  have ho := Std.TreeMap.mem_toList_iff_getElem?_eq_some.mp hmem
  exact ⟨name, o, parameter, reason, ho, he, hwrong⟩

end TimingParams

end PulseTrain
