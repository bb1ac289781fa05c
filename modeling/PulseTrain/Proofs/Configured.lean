import PulseTrain.Config.Basic
import PulseTrain.Proofs.Outcome
import PulseTrain.Proofs.Resolved

/-!
# Valid configurations

A configuration that obeys the rules has a compiler. A step that is compiled with its defaults can
fail for what the step itself has wrong, for lack of pulses, or because a total does not fit, and
for nothing else.
-/

namespace PulseTrain

namespace Config

variable {c : Config} {s : ChannelSet} {q : Quantum} {k : Compiler}

/-- The rules for a configuration. -/
structure Valid (c : Config) : Prop where
  /-- There are channels. -/
  channels_ne : c.hardware.channels ≠ []
  /-- No name is declared twice. -/
  nodup : c.hardware.channels.Nodup
  /-- A state has a line for every channel. -/
  length_le : c.hardware.channels.length ≤ ChannelState.capacity
  /-- The time step is not empty. -/
  quantum_pos : 0 < c.hardware.quantum
  /-- The default pulses are on declared channels. -/
  declared : ∀ name ∈ c.defaults.pulses, name ∈ c.hardware.channels
  /-- The unit is played at least once. -/
  repetitions_ne : c.defaults.repetitions ≠ 0
  /-- The level is one of those there are. -/
  level_mem : c.logging.level ∈ Logging.levels

theorem channelSet_eq_ok_iff :
    c.channelSet = .ok s ↔ c.hardware.channels ≠ [] ∧ s.names = c.hardware.channels := by
  unfold channelSet
  cases hchannels : c.hardware.channels with
  | nil => simp
  | cons name rest => simp [mapError_eq_ok, ChannelSet.ofNames_eq_ok_iff]

theorem quantum_eq_ok_iff : c.quantum = .ok q ↔ q.ns = c.hardware.quantum := by
  unfold quantum Quantum.ofNat Quantum.ofInt
  rw [mapError_eq_ok]
  obtain ⟨ns, hpos⟩ := q
  split
  · simp [eq_comm]
  · rename_i hzero
    simp only [reduceCtorEq, false_iff]
    rintro rfl
    exact hzero (Int.natCast_pos.mpr hpos)

theorem find?_undeclared_eq_none_iff {m : NameMap PulseWindow} :
    m.keys.find? (fun name => (s.id? name).isNone) = none ↔ ∀ name ∈ m, name ∈ s.names := by
  rw [List.find?_eq_none]
  simp only [Std.TreeMap.mem_keys, Option.isNone_iff_eq_none, s.coherent.id?_eq_none_iff,
    not_not]

/-- A configuration is accepted iff it obeys the rules. -/
theorem validate_eq_ok_iff : c.validate = .ok () ↔ c.Valid := by
  unfold validate
  constructor
  · intro h
    obtain ⟨s, hs, h⟩ := bind_eq_ok.mp h
    obtain ⟨q, hq, h⟩ := bind_eq_ok.mp h
    obtain ⟨hne, hnames⟩ := channelSet_eq_ok_iff.mp hs
    have hquantum := quantum_eq_ok_iff.mp hq
    cases hfound : c.defaults.pulses.keys.find? fun name => (s.id? name).isNone with
    | some name =>
      rw [hfound] at h
      obtain ⟨_, hthrow, -⟩ := bind_eq_ok.mp h
      exact absurd hthrow throw_ne_ok
    | none =>
      rw [hfound] at h
      by_cases hzero : c.defaults.repetitions = 0
      · rw [if_pos hzero] at h
        obtain ⟨_, hthrow, -⟩ := bind_eq_ok.mp h
        exact absurd hthrow throw_ne_ok
      · by_cases hlevel : c.logging.level ∈ Logging.levels
        · exact
            { channels_ne := hne
              nodup := hnames ▸ s.nodup
              length_le := hnames ▸ s.length_le
              quantum_pos := hquantum ▸ q.pos
              declared := hnames ▸ find?_undeclared_eq_none_iff.mp hfound
              repetitions_ne := hzero
              level_mem := hlevel }
        · simp [hzero, hlevel, throw_ne_ok] at h
  · intro hv
    obtain ⟨s, hnames⟩ := ChannelSet.exists_names hv.nodup hv.length_le
    have hs : c.channelSet = .ok s := channelSet_eq_ok_iff.mpr ⟨hv.channels_ne, hnames⟩
    have hq : c.quantum = .ok ⟨c.hardware.quantum, hv.quantum_pos⟩ := quantum_eq_ok_iff.mpr rfl
    have hfound : c.defaults.pulses.keys.find? (fun name => (s.id? name).isNone) = none :=
      find?_undeclared_eq_none_iff.mpr (hnames ▸ hv.declared)
    rw [hs, hq]
    simp [bind, Except.bind, hfound, hv.repetitions_ne, hv.level_mem, pure, Except.pure]

/-- It then has a compiler for its channels and its time step. -/
theorem Valid.exists_compiler (hv : c.Valid) : ∃ k : Compiler, c.compiler = .ok k ∧
    k.channels.names = c.hardware.channels ∧ k.quantum.ns = c.hardware.quantum := by
  obtain ⟨s, hnames⟩ := ChannelSet.exists_names hv.nodup hv.length_le
  let q : Quantum := ⟨c.hardware.quantum, hv.quantum_pos⟩
  have hs : c.channelSet = .ok s := channelSet_eq_ok_iff.mpr ⟨hv.channels_ne, hnames⟩
  have hq : c.quantum = .ok q := quantum_eq_ok_iff.mpr rfl
  exact ⟨⟨s, q, true⟩, bind_eq_ok.mpr ⟨s, hs, bind_eq_ok.mpr ⟨q, hq, rfl⟩⟩, hnames, rfl⟩

end Config

namespace TimingParams

variable {p : TimingParams} {c : Config} {k : Compiler} {d : TimingDefaults} {error : CompileError}

/-- What the compilation of a step can fail for, if the defaults obey the rules. -/
inductive Fails (p : TimingParams) (k : Compiler) (d : TimingDefaults) : CompileError → Prop
  /-- The step has a parameter wrong. -/
  | invalid {parameter reason : String} (h : p.Misstates d parameter) :
    Fails p k d (.invalidParameter parameter reason)
  /-- The step names a channel that is not declared. -/
  | undeclared {name : String} (h : name ∈ p.pulses) (hname : name ∉ k.channels.names) :
    Fails p k d (.unknownChannel name)
  /-- All pulses are without duration. -/
  | empty (h : ∀ name, p.Names d name → p.durationOf? d name = some 0) :
    Fails p k d .emptyTimingSpec
  /-- A pulse ends too late. -/
  | late {quantity name : String} {t : Int} (h : p.Names d name)
    (ht : p.durationOf? d name = some t) (hlate : Nanoseconds.limit ≤ p.startOf d name + t) :
    Fails p k d (.overflow quantity)
  /-- On the grid the unit or its repetitions get too long. -/
  | long {quantity : String} {spec : TimingSpec} (h : p.resolve k.channels d = .ok spec)
    (hlong : spec.Overflows k.quantum) : Fails p k d (.overflow quantity)

/-- With the defaults of a valid configuration a step is refused only for these. -/
theorem Refuses.fails (hv : c.Valid) (hchannels : k.channels.names = c.hardware.channels)
    (h : p.Refuses k.channels c.defaults error) : p.Fails k c.defaults error := by
  cases h with
  | invalid hwrong => exact .invalid hwrong
  | never _ hzero => exact absurd hzero hv.repetitions_ne
  | undeclared hname hundeclared =>
    rcases hname with hname | hname
    · exact .undeclared hname hundeclared
    · rw [hchannels] at hundeclared
      exact absurd (hv.declared _ hname) hundeclared
  | empty hnone => exact .empty fun name hname => absurd hname (hnone name)
  | late hname ht hlate => exact .late hname ht hlate

/-- The spec of a step has declared channels, so it compiles unless it is empty or too long. -/
theorem fails_of_compile_eq_error {spec : TimingSpec} (hspec : p.resolve k.channels d = .ok spec)
    (h : k.compile spec = .error error) : p.Fails k d error := by
  have hd := describes_of_resolve hspec
  have hdecl : spec.undeclared? k.channels = none := by
    rw [TimingSpec.undeclared?_eq_none_iff]
    intro e he
    obtain ⟨name, hname, -⟩ := hd.only e he
    exact ChannelStore.index_lt_of_name? hname
  by_cases hactive : spec.activeEvents = []
  · have hempty := Compiler.compile_eq_error_iff.mpr
      (Compiler.compileWithReport_of_inactive hdecl hactive)
    obtain rfl : error = .emptyTimingSpec := Except.error.inj (h.symm.trans hempty)
    refine .empty fun name hname => ?_
    obtain ⟨e, he, -, -, hduration⟩ := hd.each name hname
    rw [hduration, TimingSpec.activeEvents_eq_nil_iff.mp hactive e he]
    rfl
  · rcases Compiler.compile_cases hdecl hactive with ⟨hlong, quantity, hover⟩ | ⟨-, s, hok⟩
    · obtain rfl : error = .overflow quantity := Except.error.inj (h.symm.trans hover)
      exact .long hspec hlong
    · exact absurd (h.symm.trans hok) (by simp)

theorem fails_of_compileParams_eq_error (hv : c.Valid)
    (hchannels : k.channels.names = c.hardware.channels)
    (h : k.compileParams p c.defaults = .error error) : p.Fails k c.defaults error := by
  rcases bind_eq_error.mp h with hrefused | ⟨spec, hspec, hcompile⟩
  · exact (refuses_of_resolve_eq_error hrefused).fails hv hchannels
  · exact fails_of_compile_eq_error hspec hcompile

/-- A step that changes nothing has nothing wrong. -/
theorem Fails.of_unchanged (hpulses : ∀ name, name ∉ p.pulses) (hinterval : p.interval = none)
    (hrepetitions : p.repetitions = none) (h : p.Fails k d error) :
    error = .emptyTimingSpec ∨ ∃ quantity, error = .overflow quantity := by
  cases h with
  | invalid hwrong =>
    cases hwrong with
    | pulse ho => exact absurd (NameMap.mem_iff_exists.mpr ⟨_, ho⟩) (hpulses _)
    | interval hv => exact absurd (hinterval.symm.trans hv) (by simp)
    | repetitions hv => exact absurd (hrepetitions.symm.trans hv) (by simp)
  | undeclared hname => exact absurd hname (hpulses _)
  | empty => exact .inl rfl
  | late => exact .inr ⟨_, rfl⟩
  | long => exact .inr ⟨_, rfl⟩

end TimingParams

namespace Config

/-- A valid configuration has a compiler for its channels and its time step. A step that is compiled
with the defaults fails only for what the step itself has wrong, for lack of a pulse with a
duration, or because a total does not fit; the first is out of the question for a step that changes
nothing. -/
theorem compileParams_outcome (c : Config) (h : c.validate = .ok ()) :
    ∃ k : Compiler, c.compiler = .ok k ∧ k.channels.names = c.hardware.channels ∧
      k.quantum.ns = c.hardware.quantum ∧ ∀ p : TimingParams,
        ((∃ s, k.compileParams p c.defaults = .ok s) ∨
          ∃ error, k.compileParams p c.defaults = .error error ∧
            p.Fails k c.defaults error) ∧
        ((∀ name, name ∉ p.pulses) → p.interval = none → p.repetitions = none →
          (∃ s, k.compileParams p c.defaults = .ok s) ∨
            k.compileParams p c.defaults = .error .emptyTimingSpec ∨
            ∃ quantity, k.compileParams p c.defaults = .error (.overflow quantity)) := by
  have hv := validate_eq_ok_iff.mp h
  obtain ⟨k, hk, hchannels, hquantum⟩ := hv.exists_compiler
  refine ⟨k, hk, hchannels, hquantum, fun p => ?_⟩
  cases hcompile : k.compileParams p c.defaults with
  | ok s => exact ⟨.inl ⟨s, rfl⟩, fun _ _ _ => .inl ⟨s, rfl⟩⟩
  | error error =>
    have hfails := TimingParams.fails_of_compileParams_eq_error hv hchannels hcompile
    refine ⟨.inr ⟨error, rfl, hfails⟩, fun hpulses hinterval hrepetitions => .inr ?_⟩
    rcases hfails.of_unchanged hpulses hinterval hrepetitions with rfl | ⟨quantity, rfl⟩
    · exact .inl rfl
    · exact .inr ⟨quantity, rfl⟩

/-- A step with a pulse on a line that the standard configuration does not have. -/
theorem compileParams_outcome_undeclared :
    let c : Config := {}
    let p : TimingParams := ⟨.ofList [("trigger", PulseOverride.mk none (some 10))], none, none⟩
    c.validate = .ok () ∧ ∃ k : Compiler, c.compiler = .ok k ∧
      k.compileParams p c.defaults = .error (.unknownChannel "trigger") ∧
      p.Fails k c.defaults (.unknownChannel "trigger") := by
  intro c p
  have h : c.validate = .ok () := rfl
  obtain ⟨k, hk, -, -, hall⟩ := compileParams_outcome c h
  obtain rfl : ⟨.odmr, .default, true⟩ = k := Except.ok.inj hk
  have herror : Compiler.compileParams ⟨.odmr, .default, true⟩ p c.defaults =
      .error (.unknownChannel "trigger") := rfl
  refine ⟨h, _, hk, herror, ?_⟩
  rcases (hall p).1 with ⟨s, hok⟩ | ⟨error, he, hfails⟩
  · exact absurd (herror.symm.trans hok) (by simp)
  · obtain rfl := Except.error.inj (herror.symm.trans he)
    exact hfails

end Config

end PulseTrain
