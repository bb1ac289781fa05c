import PulseTrain.Proofs.Named
import PulseTrain.Proofs.Overridden

/-!
# Specs of experiment steps

The spec of a step has one pulse for each channel that the step or the defaults name, and the pulse
lies as the step or else the defaults say. There is no such spec iff one of a list of rules is
broken, and the error is then of the kind that belongs to a broken rule.
-/

namespace PulseTrain

namespace TimingParams

variable {p : TimingParams} {channels : ChannelSet} {d : TimingDefaults} {spec : TimingSpec}
  {error : CompileError} {n : Nat}

/-- The time between two repetitions, after the step or else after the defaults. -/
def intervalOf (p : TimingParams) (d : TimingDefaults) : Int := p.interval.getD d.interval

/-- How often the unit is played, after the step or else after the defaults. -/
def countOf (p : TimingParams) (d : TimingDefaults) : Int := p.repetitions.getD d.repetitions

/-- The parameters that a step has wrong, as errors name them. -/
inductive Misstates (p : TimingParams) (d : TimingDefaults) : String → Prop
  /-- A parameter of a channel that the step names. -/
  | pulse {name parameter : String} {o : PulseOverride} (h : p.pulses[name]? = some o)
    (hwrong : o.Misstates name d.pulses[name]? parameter) : Misstates p d parameter
  /-- The time between two repetitions would be negative. -/
  | interval {v : Int} (h : p.interval = some v) (hneg : v < 0) :
    Misstates p d "sequence_interval_ns"
  /-- The unit would never be played, or more often than can be counted. -/
  | repetitions {v : Int} (h : p.repetitions = some v)
    (hrange : ¬ (1 ≤ v ∧ v < repetitionLimit)) : Misstates p d "repetitions"

/-- The rules that a step has to obey. -/
structure Resolvable (p : TimingParams) (channels : ChannelSet) (d : TimingDefaults) : Prop where
  /-- Some channel is named. -/
  named : ∃ name, p.Names d name
  /-- The channels that are named are declared. -/
  declared : ∀ name, p.Names d name → name ∈ channels.names
  /-- No pulse that the step places begins before the unit. -/
  start_nonneg : ∀ (name : String) (o : PulseOverride) (v : Int), p.pulses[name]? = some o →
    o.start = some v → 0 ≤ v
  /-- No duration that the step gives is negative. -/
  duration_nonneg : ∀ (name : String) (o : PulseOverride) (v : Int), p.pulses[name]? = some o →
    o.duration = some v → 0 ≤ v
  /-- The step says how long a pulse lasts that has no default. -/
  lasting : ∀ (name : String) (o : PulseOverride), p.pulses[name]? = some o → name ∉ d.pulses →
    ∃ v, o.duration = some v
  /-- No interval that the step gives is negative. -/
  interval_nonneg : ∀ v, p.interval = some v → 0 ≤ v
  /-- The unit is played at least once, and a 32-bit counter can hold how often. -/
  repeated : 1 ≤ p.countOf d ∧ p.countOf d < repetitionLimit
  /-- Every pulse ends within the range of a 64-bit counter. -/
  fits : ∀ name t, p.Names d name → p.durationOf? d name = some t →
    p.startOf d name + t < Nanoseconds.limit

/-- The spec says what the step and the defaults say. -/
structure Describes (p : TimingParams) (channels : ChannelSet) (d : TimingDefaults)
    (spec : TimingSpec) : Prop where
  /-- Every channel that is named has its pulse. -/
  each : ∀ name, p.Names d name → ∃ e ∈ spec.events, channels.name? e.channel = some name ∧
    (e.start : Int) = p.startOf d name ∧ p.durationOf? d name = some (e.duration : Int)
  /-- No other channel has one. -/
  only : ∀ e ∈ spec.events, ∃ name, channels.name? e.channel = some name ∧ p.Names d name
  /-- Pulses come in the order of their channels, and no channel has two. -/
  increasing : spec.events.Pairwise fun a b => a.channel.index < b.channel.index
  /-- The interval is the one that is asked for. -/
  interval : (spec.interval : Int) = p.intervalOf d
  /-- So is the number of repetitions. -/
  repetitions : (spec.repetitions : Int) = p.countOf d
  /-- The unit is not longer than its pulses. -/
  minUnitLength : spec.minUnitLength = 0

/-- The kinds of errors, each for a rule that is broken. -/
inductive Refuses (p : TimingParams) (channels : ChannelSet) (d : TimingDefaults) :
    CompileError → Prop
  /-- The step has a parameter wrong. -/
  | invalid {parameter reason : String} (h : p.Misstates d parameter) :
    Refuses p channels d (.invalidParameter parameter reason)
  /-- The step leaves it to the defaults how often the unit is played, which is never. -/
  | never {reason : String} (h : p.repetitions = none) (hzero : d.repetitions = 0) :
    Refuses p channels d (.invalidParameter "repetitions" reason)
  /-- A channel that is named is not declared. -/
  | undeclared {name : String} (h : p.Names d name) (hname : name ∉ channels.names) :
    Refuses p channels d (.unknownChannel name)
  /-- No channel is named. -/
  | empty (h : ∀ name, ¬ p.Names d name) : Refuses p channels d .emptyTimingSpec
  /-- A pulse ends too late. -/
  | late {quantity name : String} {t : Int} (h : p.Names d name)
    (ht : p.durationOf? d name = some t) (hlate : Nanoseconds.limit ≤ p.startOf d name + t) :
    Refuses p channels d (.overflow quantity)

/-! ## The steps of the resolution -/

/-- The interval that a step leads to. -/
def interval? (p : TimingParams) (d : TimingDefaults) : Except CompileError Nanoseconds :=
  match p.interval with
  | some v => nonNegative "sequence_interval_ns" v
  | none => .ok d.interval

/-- The number of repetitions that a step leads to. -/
def count? (p : TimingParams) (d : TimingDefaults) : Except CompileError Nat :=
  match p.repetitions with
  | some v => repetitionCount v
  | none => .ok d.repetitions

/-- A step needs a pulse. -/
def pulsed? (events : List PulseEvent) : Except CompileError Unit :=
  if events ≠ [] then .ok () else .error .emptyTimingSpec

/-- The windows are found first, then their channels, then the interval and the number of
repetitions. -/
theorem resolve_eq (p : TimingParams) (channels : ChannelSet) (d : TimingDefaults) :
    p.resolve channels d = (do
      let windows ← p.windows d
      let events ← windows.toList.mapM fun w => pulse channels w.1 w.2
      pulsed? events
      let interval ← p.interval? d
      let repetitions ← p.count? d
      TimingSpec.ofParts (events.mergeSort fun a b => a.channel.index ≤ b.channel.index) interval
        repetitions 0) := by
  unfold resolve interval? count?
  refine congrArg _ (funext fun windows => congrArg _ (funext fun events => ?_))
  cases events with
  | nil => rfl
  | cons e es =>
    cases p.interval with
    | none =>
      cases p.repetitions with
      | none => rfl
      | some v => rfl
    | some v =>
      cases p.repetitions with
      | none => rfl
      | some v => rfl

theorem interval?_eq_ok_iff : p.interval? d = .ok n ↔ (n : Int) = p.intervalOf d := by
  unfold interval? intervalOf
  cases p.interval with
  | some v => exact nonNegative_eq_ok_iff
  | none =>
    show Except.ok d.interval = Except.ok n ↔ (n : Int) = (d.interval : Int)
    rw [Except.ok.injEq, Int.natCast_inj, eq_comm]

theorem repetitionCount_eq_ok_iff {v : Int} : repetitionCount v = .ok n ↔
    (n : Int) = v ∧ 1 ≤ v ∧ v < repetitionLimit := by
  unfold repetitionCount
  rw [guarded_eq_ok]
  constructor
  · rintro ⟨rfl, hrange⟩
    exact ⟨Int.toNat_of_nonneg (by omega), hrange⟩
  · rintro ⟨rfl, hrange⟩
    exact ⟨(Int.toNat_natCast n).symm, hrange⟩

theorem count?_eq_ok_iff : p.count? d = .ok n ↔
    (n : Int) = p.countOf d ∧ ∀ v, p.repetitions = some v → 1 ≤ v ∧ v < repetitionLimit := by
  unfold count? countOf
  cases p.repetitions with
  | some v =>
    show repetitionCount v = .ok n ↔ (n : Int) = v ∧ _
    rw [repetitionCount_eq_ok_iff]
    simp
  | none =>
    show Except.ok d.repetitions = Except.ok n ↔ (n : Int) = (d.repetitions : Int) ∧ _
    rw [Except.ok.injEq, Int.natCast_inj]
    simp [eq_comm]

/-- A spec comes about in these steps. -/
theorem resolve_eq_ok (h : p.resolve channels d = .ok spec) : ∃ windows events,
    p.windows d = .ok windows ∧
      events.map (PulseEvent.named? channels) = windows.toList.map some ∧ events ≠ [] ∧
      spec.events = events.mergeSort (fun a b => a.channel.index ≤ b.channel.index) ∧
      (spec.interval : Int) = p.intervalOf d ∧ (spec.repetitions : Int) = p.countOf d ∧
      (∀ v, p.repetitions = some v → 1 ≤ v ∧ v < repetitionLimit) ∧ spec.minUnitLength = 0 := by
  rw [resolve_eq] at h
  obtain ⟨windows, hwindows, h₁⟩ := bind_eq_ok.mp h
  obtain ⟨events, hevents, h₂⟩ := bind_eq_ok.mp h₁
  obtain ⟨_, hne, h₃⟩ := bind_eq_ok.mp h₂
  obtain ⟨interval, hinterval, h₄⟩ := bind_eq_ok.mp h₃
  obtain ⟨repetitions, hrepetitions, h₅⟩ := bind_eq_ok.mp h₄
  obtain ⟨hsorted, rfl, rfl, hmin, -, -⟩ :=
    TimingSpec.ofParts_eq_ok_iff.mp (mapError_eq_ok.mp h₅)
  obtain ⟨hcount, hrange⟩ := count?_eq_ok_iff.mp hrepetitions
  exact ⟨windows, events, hwindows, pulses_eq_ok_iff.mp hevents, (guarded_eq_ok.mp hne).2, hsorted,
    interval?_eq_ok_iff.mp hinterval, hcount, hrange, hmin⟩

/-! ## What a spec describes -/

/-- Pulses on channels of different names come in the order of their channels when sorted. -/
theorem pairwise_mergeSort_of_shown {events : List PulseEvent} {ws : List NamedPulse}
    (hshown : events.map (PulseEvent.named? channels) = ws.map some)
    (hdistinct : ws.Pairwise fun x y => x.1 ≠ y.1) :
    (events.mergeSort fun a b => a.channel.index ≤ b.channel.index).Pairwise
      fun a b => a.channel.index < b.channel.index := by
  have hne : events.Pairwise fun a b => a.channel.index ≠ b.channel.index := by
    refine (pairwise_shown hshown hdistinct).imp ?_
    rintro a b ⟨⟨x, v⟩, ⟨y, w⟩, hx, hy, hxy⟩ heq
    obtain ⟨hx, -⟩ := PulseEvent.named?_eq_some_iff.mp hx
    obtain ⟨hy, -⟩ := PulseEvent.named?_eq_some_iff.mp hy
    have hchannel : a.channel = b.channel := congrArg ChannelId.mk heq
    exact hxy (Option.some_inj.mp (hx.symm.trans (hchannel ▸ hy)))
  have hsorted : (events.mergeSort fun a b => a.channel.index ≤ b.channel.index).Pairwise
      fun a b => decide (a.channel.index ≤ b.channel.index) = true :=
    List.pairwise_mergeSort (by simp; omega) (by simp; omega) events
  have hperm := List.mergeSort_perm events fun a b => a.channel.index ≤ b.channel.index
  refine (hsorted.and (hperm.symm.pairwise hne Ne.symm)).imp ?_
  rintro a b ⟨hle, hne⟩
  exact Nat.lt_of_le_of_ne (of_decide_eq_true hle) hne

theorem describes_of_resolve (h : p.resolve channels d = .ok spec) :
    p.Describes channels d spec := by
  obtain ⟨windows, events, hwindows, hshown, -, hsorted, hinterval, hrepetitions, -, hmin⟩ :=
    resolve_eq_ok h
  have hmem : ∀ e, e ∈ spec.events ↔ e ∈ events := fun e => by rw [hsorted, List.mem_mergeSort]
  refine ⟨?_, ?_, ?_, hinterval, hrepetitions, hmin⟩
  · intro name hname
    obtain ⟨w, -, hw⟩ := getElem?_windows_of_names hwindows hname
    obtain ⟨-, hstart, hduration⟩ := (getElem?_windows_iff hwindows).mp hw
    obtain ⟨e, he, hnamed⟩ :=
      exists_showing hshown (Std.TreeMap.mem_toList_iff_getElem?_eq_some.mpr hw)
    obtain ⟨hchannel, rfl⟩ := PulseEvent.named?_eq_some_iff.mp hnamed
    exact ⟨e, (hmem e).mpr he, hchannel, hstart, hduration⟩
  · intro e he
    obtain ⟨⟨name, w⟩, hw, hnamed⟩ := exists_shown hshown ((hmem e).mp he)
    exact ⟨name, (PulseEvent.named?_eq_some_iff.mp hnamed).1,
      names_of_getElem?_windows hwindows (Std.TreeMap.mem_toList_iff_getElem?_eq_some.mp hw)⟩
  · rw [hsorted]
    exact pairwise_mergeSort_of_shown hshown (NameMap.pairwise_ne_toList windows)

/-- A step that has a spec obeys the rules. -/
theorem resolvable_of_resolve (hword : d.repetitions < repetitionLimit)
    (h : p.resolve channels d = .ok spec) : p.Resolvable channels d := by
  obtain ⟨windows, events, -, -, hne, hsorted, -, -, hrange, -⟩ := resolve_eq_ok h
  have hd := describes_of_resolve h
  refine ⟨?_, ?_, ?_, ?_, ?_, ?_, ?_, ?_⟩
  · obtain ⟨e, he⟩ := List.exists_mem_of_ne_nil events hne
    obtain ⟨name, -, hname⟩ := hd.only e (by rw [hsorted, List.mem_mergeSort]; exact he)
    exact ⟨name, hname⟩
  · intro name hname
    obtain ⟨e, -, hchannel, -⟩ := hd.each name hname
    exact ChannelStore.mem_names_of_name? hchannel
  · intro name o v ho hv
    obtain ⟨e, -, -, hstart, -⟩ := hd.each name (names_of_given ho)
    rw [startOf_of_given ho hv] at hstart
    omega
  · intro name o v ho hv
    obtain ⟨e, -, -, -, hduration⟩ := hd.each name (names_of_given ho)
    rw [durationOf?_of_given ho hv, Option.some_inj] at hduration
    omega
  · intro name o ho hbase
    obtain ⟨e, -, -, -, hduration⟩ := hd.each name (names_of_given ho)
    rw [durationOf?_of_no_default ho hbase] at hduration
    exact ⟨_, hduration⟩
  · intro v hv
    have hinterval := hd.interval
    rw [intervalOf, hv, Option.getD_some] at hinterval
    omega
  · have hpos := spec.repetitions_pos
    have hcount := hd.repetitions
    refine ⟨by omega, ?_⟩
    rw [countOf]
    cases hrep : p.repetitions with
    | some v => exact (hrange v hrep).2
    | none => exact Int.ofNat_lt.mpr hword
  · intro name t hname ht
    obtain ⟨e, he, -, hstart, hduration⟩ := hd.each name hname
    rw [ht, Option.some_inj] at hduration
    rw [← hstart, hduration]
    exact Int.ofNat_lt.mpr (spec.stop_lt e he)

/-! ## What is wrong with a step that has no spec -/

theorem misstates_of_interval?_eq_error (h : p.interval? d = .error error) :
    ∃ parameter reason, error = .invalidParameter parameter reason ∧ p.Misstates d parameter := by
  unfold interval? at h
  split at h
  · rename_i v hv
    obtain ⟨rfl, hneg⟩ := nonNegative_eq_error_iff.mp h
    exact ⟨_, _, rfl, .interval hv hneg⟩
  · exact absurd h (by simp)

theorem misstates_of_count?_eq_error (h : p.count? d = .error error) :
    ∃ parameter reason, error = .invalidParameter parameter reason ∧ p.Misstates d parameter := by
  unfold count? at h
  split at h
  · rename_i v hv
    obtain ⟨rfl, hrange⟩ := guarded_eq_error.mp h
    exact ⟨_, _, rfl, .repetitions hv hrange⟩
  · exact absurd h (by simp)

/-- If a step has no spec, the error belongs to a rule that is broken. -/
theorem refuses_of_resolve_eq_error (h : p.resolve channels d = .error error) :
    p.Refuses channels d error := by
  rw [resolve_eq] at h
  rcases bind_eq_error.mp h with hwindows | ⟨windows, hwindows, h⟩
  · obtain ⟨name, o, parameter, reason, ho, rfl, hwrong⟩ := misstates_of_windows_eq_error hwindows
    exact .invalid (.pulse ho hwrong)
  rcases bind_eq_error.mp h with hevents | ⟨events, hevents, h⟩
  · obtain ⟨⟨name, w⟩, hw, hname, rfl⟩ := exists_undeclared_of_pulses hevents
    exact .undeclared (names_of_getElem?_windows hwindows
      (Std.TreeMap.mem_toList_iff_getElem?_eq_some.mp hw)) hname
  have hshown := pulses_eq_ok_iff.mp hevents
  rcases bind_eq_error.mp h with hnone | ⟨-, -, h⟩
  · obtain ⟨rfl, hempty⟩ := guarded_eq_error.mp hnone
    refine .empty fun name hname => hempty ?_
    obtain ⟨w, -, hw⟩ := getElem?_windows_of_names hwindows hname
    obtain ⟨e, he, -⟩ := exists_showing hshown
      (Std.TreeMap.mem_toList_iff_getElem?_eq_some.mpr hw)
    exact List.ne_nil_of_mem he
  rcases bind_eq_error.mp h with hinterval | ⟨interval, -, h⟩
  · obtain ⟨parameter, reason, rfl, hwrong⟩ := misstates_of_interval?_eq_error hinterval
    exact .invalid hwrong
  rcases bind_eq_error.mp h with hcount | ⟨repetitions, hcount, h⟩
  · obtain ⟨parameter, reason, rfl, hwrong⟩ := misstates_of_count?_eq_error hcount
    exact .invalid hwrong
  obtain ⟨fault, hfault, rfl⟩ := mapError_eq_error.mp h
  rcases TimingSpec.broken_of_ofParts_eq_error hfault with
      ⟨rfl, rfl⟩ | ⟨e, he, hlate, quantity, rfl⟩
  · -- An override of zero repetitions would have been refused before.
    obtain ⟨hzero, hrange⟩ := count?_eq_ok_iff.mp hcount
    cases hrep : p.repetitions with
    | some v =>
      rw [countOf, hrep, Option.getD_some] at hzero
      have hpos := (hrange v hrep).1
      omega
    | none =>
      rw [countOf, hrep, Option.getD_none] at hzero
      exact .never hrep (by omega)
  · obtain ⟨⟨name, w⟩, hw, hnamed⟩ := exists_shown hshown (List.mem_mergeSort.mp he)
    obtain ⟨-, rfl⟩ := PulseEvent.named?_eq_some_iff.mp hnamed
    obtain ⟨hname, hstart, hduration⟩ :=
      (getElem?_windows_iff hwindows).mp (Std.TreeMap.mem_toList_iff_getElem?_eq_some.mp hw)
    refine .late hname hduration ?_
    rw [← hstart]
    exact Int.ofNat_le.mpr hlate

/-- A kind of error that belongs to a rule says that the rule is broken. -/
theorem Refuses.not_resolvable (h : p.Refuses channels d error) : ¬ p.Resolvable channels d := by
  intro hr
  cases h with
  | invalid hwrong =>
    cases hwrong with
    | pulse ho hwrong =>
      cases hwrong with
      | start hv hneg => exact Int.not_le.mpr hneg (hr.start_nonneg _ _ _ ho hv)
      | duration hv hneg => exact Int.not_le.mpr hneg (hr.duration_nonneg _ _ _ ho hv)
      | missing hnone hbase =>
        obtain ⟨v, hv⟩ := hr.lasting _ _ ho fun hmem => by
          obtain ⟨w, hw⟩ := NameMap.mem_iff_exists.mp hmem
          exact absurd (hw.symm.trans hbase) (by simp)
        exact absurd (hv.symm.trans hnone) (by simp)
    | interval hv hneg => exact Int.not_le.mpr hneg (hr.interval_nonneg _ hv)
    | repetitions hv hrange =>
      have hrep := hr.repeated
      rw [countOf, hv] at hrep
      exact hrange hrep
  | never hnone hzero =>
    have hrep := hr.repeated.1
    rw [countOf, hnone, hzero] at hrep
    exact absurd hrep (by decide)
  | undeclared hname hundeclared => exact hundeclared (hr.declared _ hname)
  | empty hnone =>
    obtain ⟨name, hname⟩ := hr.named
    exact hnone name hname
  | late hname ht hlate => exact Int.not_le.mpr (hr.fits _ _ hname ht) hlate

/-- A step has a spec iff it obeys the rules. The spec then has one pulse for each channel that is
named, as the step and the defaults say; otherwise the error belongs to a rule that is broken. The
number of repetitions in the defaults fits in 32 bits. -/
theorem resolve_outcome (p : TimingParams) (channels : ChannelSet) (d : TimingDefaults)
    (hword : d.repetitions < repetitionLimit) :
    ((∃ spec, p.resolve channels d = .ok spec) ↔ p.Resolvable channels d) ∧
      (∀ spec, p.resolve channels d = .ok spec → p.Describes channels d spec) ∧
      ∀ error, p.resolve channels d = .error error → p.Refuses channels d error := by
  refine ⟨⟨?_, ?_⟩, fun spec => describes_of_resolve, fun error => refuses_of_resolve_eq_error⟩
  · rintro ⟨spec, h⟩
    exact resolvable_of_resolve hword h
  · intro hr
    cases h : p.resolve channels d with
    | ok spec => exact ⟨spec, rfl⟩
    | error error => exact absurd hr (refuses_of_resolve_eq_error h).not_resolvable

/-- The microwave pulse is moved and keeps its default duration. -/
theorem resolve_outcome_moved :
    let p : TimingParams :=
      ⟨.ofList [(ChannelSet.microwave, PulseOverride.mk (some 120) none)], none, some 3⟩
    let spec : TimingSpec :=
      ⟨[⟨⟨0⟩, 48, 1000⟩, ⟨⟨1⟩, 120, 104⟩, ⟨⟨2⟩, 200, 504⟩], 10000, 3, 0, by decide, by decide⟩
    TimingDefaults.odmr.repetitions < repetitionLimit ∧ p.resolve .odmr .odmr = .ok spec ∧
      p.Resolvable .odmr .odmr ∧ p.Describes .odmr .odmr spec := by
  intro p spec
  have hword : TimingDefaults.odmr.repetitions < repetitionLimit := by decide
  have h : p.resolve .odmr .odmr = .ok spec := by
    -- By name, detection comes before the laser, and both before the microwave.
    have hsort : List.mergeSort [⟨⟨2⟩, 200, 504⟩, ⟨⟨0⟩, 48, 1000⟩, ⟨⟨1⟩, 120, 104⟩]
        (fun a b : PulseEvent => a.channel.index ≤ b.channel.index) = spec.events := by
      simp [List.mergeSort, spec]
    rw [resolve_eq]
    show (TimingSpec.ofParts (List.mergeSort [⟨⟨2⟩, 200, 504⟩, ⟨⟨0⟩, 48, 1000⟩, ⟨⟨1⟩, 120, 104⟩]
      fun a b => a.channel.index ≤ b.channel.index) 10000 3 0).mapError _ = .ok spec
    rw [hsort]
    rfl
  obtain ⟨hiff, hdescribes, -⟩ := resolve_outcome p .odmr .odmr hword
  exact ⟨hword, h, hiff.mp ⟨spec, h⟩, hdescribes spec h⟩

end TimingParams

end PulseTrain
