import PulseTrain.Experiment.Resolve
import PulseTrain.Proofs.Declared
import PulseTrain.Protocol.Layout

/-!
# Pulses under the names of their channels

A window with a name becomes a pulse on the channel of that name, and the pulse shows the window
and the name again. So a list of named windows can be resolved iff all the names are declared, and
the pulses are then these windows, in order.
-/

namespace PulseTrain

namespace PulseWindow

/-- The window ends within the range of a 64-bit counter. -/
def Fits (w : PulseWindow) : Prop := w.start + w.duration < Nanoseconds.limit

instance (w : PulseWindow) : Decidable w.Fits :=
  inferInstanceAs (Decidable (w.start + w.duration < Nanoseconds.limit))

end PulseWindow

namespace PulseEvent

variable {channels : ChannelSet} {e : PulseEvent} {name : String} {w : PulseWindow}

/-- The window of a pulse, with the name of its channel; nothing if that is not declared. -/
def named? (channels : ChannelSet) (e : PulseEvent) : Option NamedPulse :=
  (channels.name? e.channel).map fun name => (name, ⟨e.start, e.duration⟩)

theorem named?_eq_some_iff : e.named? channels = some (name, w) ↔
    channels.name? e.channel = some name ∧ (⟨e.start, e.duration⟩ : PulseWindow) = w := by
  unfold named?
  rw [Option.map_eq_some_iff]
  simp only [Prod.mk.injEq]
  constructor
  · rintro ⟨n, hn, rfl, hw⟩
    exact ⟨hn, hw⟩
  · rintro ⟨hn, hw⟩
    exact ⟨name, hn, rfl, hw⟩

theorem stop_lt_iff_of_named? (h : e.named? channels = some (name, w)) :
    e.stop < Nanoseconds.limit ↔ w.Fits := by
  obtain ⟨-, rfl⟩ := named?_eq_some_iff.mp h
  exact Iff.rfl

end PulseEvent

namespace TimingParams

variable {channels : ChannelSet} {name : String} {w : PulseWindow} {e : PulseEvent}
  {ws : List NamedPulse} {es : List PulseEvent} {error : CompileError}

/-- A pulse is made of a named window iff it shows the window and the name. -/
theorem pulse_eq_ok_iff : pulse channels name w = .ok e ↔ e.named? channels = some (name, w) := by
  unfold pulse
  rw [bind_eq_ok, PulseEvent.named?_eq_some_iff]
  constructor
  · rintro ⟨c, hc, h⟩
    obtain rfl := Except.ok.inj h
    exact ⟨channels.coherent.require_eq_ok_iff.mp (mapError_eq_ok.mp hc), rfl⟩
  · rintro ⟨hname, rfl⟩
    exact ⟨e.channel, mapError_eq_ok.mpr (channels.coherent.require_eq_ok_iff.mpr hname), rfl⟩

theorem pulse_eq_error_iff : pulse channels name w = .error error ↔
    name ∉ channels.names ∧ error = .unknownChannel name := by
  unfold pulse
  rw [bind_eq_error]
  constructor
  · rintro (h | ⟨c, -, h⟩)
    · obtain ⟨fault, hfault, rfl⟩ := mapError_eq_error.mp h
      obtain ⟨hname, rfl⟩ := channels.coherent.require_eq_error_iff.mp hfault
      exact ⟨hname, rfl⟩
    · exact absurd h pure_ne_error
  · rintro ⟨hname, rfl⟩
    have hrequire := channels.coherent.require_eq_error_iff.mpr ⟨hname, rfl⟩
    exact .inl (mapError_eq_error.mpr ⟨_, hrequire, rfl⟩)

/-- The pulses of a list of named windows show these windows, in order. -/
theorem pulses_eq_ok_iff : ws.mapM (fun w => pulse channels w.1 w.2) = .ok es ↔
    es.map (PulseEvent.named? channels) = ws.map some := by
  rw [mapM_eq_ok]
  induction ws generalizing es with
  | nil =>
    cases es with
    | nil => simp
    | cons e es => simp
  | cons w ws ih =>
    cases es with
    | nil => simp
    | cons e es => simp only [List.map_cons, List.cons.injEq, pulse_eq_ok_iff, ih]

/-- They fail for a name that is not declared. -/
theorem exists_undeclared_of_pulses (h : ws.mapM (fun w => pulse channels w.1 w.2) = .error error) :
    ∃ w ∈ ws, w.1 ∉ channels.names ∧ error = .unknownChannel w.1 := by
  obtain ⟨w, hw, hpulse⟩ := exists_of_mapM_eq_error h
  exact ⟨w, hw, pulse_eq_error_iff.mp hpulse⟩

theorem exists_pulses (h : ∀ w ∈ ws, w.1 ∈ channels.names) :
    ∃ es, ws.mapM (fun w => pulse channels w.1 w.2) = .ok es := by
  cases hpulses : ws.mapM fun w => pulse channels w.1 w.2 with
  | ok es => exact ⟨es, rfl⟩
  | error error =>
    obtain ⟨w, hw, hname, -⟩ := exists_undeclared_of_pulses hpulses
    exact absurd (h w hw) hname

section Shown

variable (h : es.map (PulseEvent.named? channels) = ws.map some)

include h

theorem exists_shown (he : e ∈ es) : ∃ w ∈ ws, e.named? channels = some w := by
  have hshown : e.named? channels ∈ ws.map some := h ▸ List.mem_map_of_mem he
  obtain ⟨w, hw, hnamed⟩ := List.mem_map.mp hshown
  exact ⟨w, hw, hnamed.symm⟩

theorem exists_showing {w : NamedPulse} (hw : w ∈ ws) : ∃ e ∈ es, e.named? channels = some w := by
  have hshown : some w ∈ es.map (PulseEvent.named? channels) := h ▸ List.mem_map_of_mem hw
  exact List.mem_map.mp hshown

theorem mem_names_of_shown {w : NamedPulse} (hw : w ∈ ws) : w.1 ∈ channels.names := by
  obtain ⟨e, -, hnamed⟩ := exists_showing h hw
  exact ChannelStore.mem_names_of_name? (PulseEvent.named?_eq_some_iff.mp hnamed).1

theorem stop_lt_iff_fits : (∀ e ∈ es, e.stop < Nanoseconds.limit) ↔ ∀ w ∈ ws, w.2.Fits := by
  constructor
  · intro hstop w hw
    obtain ⟨e, he, hnamed⟩ := exists_showing h hw
    exact (PulseEvent.stop_lt_iff_of_named? hnamed).mp (hstop e he)
  · intro hfits e he
    obtain ⟨w, hw, hnamed⟩ := exists_shown h he
    exact (PulseEvent.stop_lt_iff_of_named? hnamed).mpr (hfits w hw)

/-- What holds between any two windows holds between the pulses that show them. -/
theorem pairwise_shown {R : NamedPulse → NamedPulse → Prop} (hR : ws.Pairwise R) :
    es.Pairwise fun d e => ∃ x y, d.named? channels = some x ∧ e.named? channels = some y ∧
      R x y := by
  have hsome : (ws.map some).Pairwise fun a b => ∃ x y, a = some x ∧ b = some y ∧ R x y := by
    rw [List.pairwise_map]
    exact hR.imp fun hxy => ⟨_, _, rfl, rfl, hxy⟩
  rw [← h, List.pairwise_map] at hsome
  exact hsome

end Shown

end TimingParams

end PulseTrain
