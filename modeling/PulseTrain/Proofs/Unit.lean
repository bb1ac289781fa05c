import PulseTrain.Proofs.Named
import PulseTrain.Protocol.Basic

/-!
# Units of protocols

The windows of a unit in exact numbers. A layout gives the windows of its pulses iff its last item
ends within the range of the counter, since no item ends before an earlier one. So nothing wraps on
the way, and a timing spec is refused iff a window ends too late, a name is not declared, or the
unit is never played.
-/

namespace PulseTrain

namespace LayoutItem

variable {protocol channel : String} {c d : Nat} {item : LayoutItem}
  {items later : List LayoutItem} {w : NamedPulse}

/-- When the last of the items ends, laid end to end from `c` on. -/
def endFrom (c : Nat) : List LayoutItem → Nat
  | [] => c
  | item :: rest => endFrom (c + item.duration) rest

/-- The windows of the pulses among the items, laid end to end from `c` on. -/
def windowsFrom (c : Nat) : List LayoutItem → List NamedPulse
  | [] => []
  | wait d :: rest => windowsFrom (c + d) rest
  | pulse channel d :: rest => (channel, ⟨c, d⟩) :: windowsFrom (c + d) rest

theorem le_endFrom : c ≤ endFrom c items := by
  induction items generalizing c with
  | nil => exact Nat.le_refl c
  | cons item rest ih => exact Nat.le_trans (Nat.le_add_right c item.duration) ih

theorem endFrom_concat : endFrom c (items ++ [item]) = endFrom c items + item.duration := by
  induction items generalizing c with
  | nil => rfl
  | cons first rest ih => exact ih

/-- What comes later is laid from the end of the earlier items on. -/
theorem windowsFrom_append : windowsFrom c (items ++ later) =
    windowsFrom c items ++ windowsFrom (endFrom c items) later := by
  induction items generalizing c with
  | nil => rfl
  | cons first rest ih =>
    cases first with
    | wait t => exact ih
    | pulse name t => exact congrArg _ ih

/-- The windows lie between the start of the layout and its end. -/
theorem bounds_of_mem_windowsFrom (h : w ∈ windowsFrom c items) :
    c ≤ w.2.start ∧ w.2.start + w.2.duration ≤ endFrom c items := by
  induction items generalizing c with
  | nil => simp [windowsFrom] at h
  | cons first rest ih =>
    cases first with
    | wait t =>
      obtain ⟨hstart, hstop⟩ := ih h
      exact ⟨Nat.le_of_add_right_le hstart, hstop⟩
    | pulse name t =>
      rcases List.mem_cons.mp h with rfl | h
      · exact ⟨Nat.le_refl c, le_endFrom⟩
      · obtain ⟨hstart, hstop⟩ := ih h
        exact ⟨Nat.le_of_add_right_le hstart, hstop⟩

/-- Pulses that are laid end to end come one after the other. -/
theorem windowsFrom_pairwise :
    (windowsFrom c items).Pairwise fun a b => a.2.start + a.2.duration ≤ b.2.start := by
  induction items generalizing c with
  | nil => exact .nil
  | cons first rest ih =>
    cases first with
    | wait t => exact ih
    | pulse name t => exact .cons (fun w hw => (bounds_of_mem_windowsFrom hw).1) ih

/-- The windows of a layout whose last item is a pulse all fit iff that one does. -/
theorem forall_fits_iff : (∀ w ∈ windowsFrom 0 (items ++ [pulse channel d]), w.2.Fits) ↔
    endFrom 0 (items ++ [pulse channel d]) < Nanoseconds.limit := by
  constructor
  · intro hall
    rw [endFrom_concat]
    refine hall (channel, ⟨endFrom 0 items, d⟩) ?_
    rw [windowsFrom_append]
    exact List.mem_append_right _ (List.mem_singleton_self _)
  · intro hlt w hw
    exact Nat.lt_of_le_of_lt (bounds_of_mem_windowsFrom hw).2 hlt

end LayoutItem

namespace Layout

open LayoutItem

variable {protocol channel : String} {l : Layout} {item : LayoutItem} {items : List LayoutItem}
  {d : Nat}

/-- An item is laid at the cursor iff it does not end too late. -/
theorem add_eq : l.add protocol item =
    if l.cursor + item.duration < Nanoseconds.limit then
      .ok (l.cursor, ⟨l.cursor + item.duration, l.pulses ++ windowsFrom l.cursor [item]⟩)
    else .error (.overflow s!"{protocol} layout") := by
  unfold add Nanoseconds.add?
  by_cases hstop : l.cursor + item.duration < Nanoseconds.limit
  · rw [Nanoseconds.check?_of_lt hstop, if_pos hstop]
    cases item with
    | wait t => simp [windowsFrom]
    | pulse name t => rfl
  · rw [Nanoseconds.check?_eq_none_iff.mpr (Nat.le_of_not_lt hstop), if_neg hstop]

/-- Laying items fails iff the last one ends too late; an item that ends too late is never followed
by one that does not. -/
theorem addAll_eq (hc : l.cursor < Nanoseconds.limit) : l.addAll protocol items =
    if endFrom l.cursor items < Nanoseconds.limit then
      .ok ⟨endFrom l.cursor items, l.pulses ++ windowsFrom l.cursor items⟩
    else .error (.overflow s!"{protocol} layout") := by
  induction items generalizing l with
  | nil =>
    rw [if_pos (show endFrom l.cursor [] < _ from hc)]
    simp [addAll, endFrom, windowsFrom, pure, Except.pure]
  | cons first rest ih =>
    have hsplit : l.addAll protocol (first :: rest) =
        (Prod.snd <$> l.add protocol first) >>= fun l' => l'.addAll protocol rest :=
      List.foldlM_cons
    rw [hsplit, add_eq]
    by_cases hstop : l.cursor + first.duration < Nanoseconds.limit
    · rw [if_pos hstop]
      show addAll protocol ⟨l.cursor + first.duration, _⟩ rest = _
      have hwindows : windowsFrom l.cursor (first :: rest) = windowsFrom l.cursor [first] ++
          windowsFrom (l.cursor + first.duration) rest := @windowsFrom_append l.cursor [first] rest
      rw [ih hstop, List.append_assoc, hwindows]
      rfl
    · have hend : ¬ endFrom l.cursor (first :: rest) < Nanoseconds.limit := fun hlt =>
        hstop (Nat.lt_of_le_of_lt le_endFrom hlt)
      rw [if_neg hstop, if_neg hend]
      rfl

/-- An item behind others begins where they end. -/
theorem addAll_add (hc : l.cursor < Nanoseconds.limit) :
    (l.addAll protocol items >>= fun l' => l'.add protocol item) =
      if endFrom l.cursor (items ++ [item]) < Nanoseconds.limit then
        .ok (endFrom l.cursor items,
          ⟨endFrom l.cursor (items ++ [item]), l.pulses ++ windowsFrom l.cursor (items ++ [item])⟩)
      else .error (.overflow s!"{protocol} layout") := by
  rw [addAll_eq hc, endFrom_concat, windowsFrom_append, ← List.append_assoc]
  by_cases hend : endFrom l.cursor items < Nanoseconds.limit
  · rw [if_pos hend]
    exact add_eq
  · rw [if_neg hend, if_neg fun hlast => hend (Nat.lt_of_le_of_lt (Nat.le_add_right _ _) hlast)]
    rfl

theorem pulses_addAll (h : items.getLast? = some (pulse channel d)) :
    Layout.pulses <$> empty.addAll protocol items =
      if ∀ w ∈ windowsFrom 0 items, w.2.Fits then .ok (windowsFrom 0 items)
      else .error (.overflow s!"{protocol} layout") := by
  obtain ⟨before, rfl⟩ := List.getLast?_eq_some_iff.mp h
  have hempty : empty.cursor < Nanoseconds.limit := by decide
  rw [addAll_eq hempty]
  simp only [forall_fits_iff]
  by_cases hend : endFrom 0 (before ++ [pulse channel d]) < Nanoseconds.limit
  · rw [if_pos hend, if_pos (show endFrom empty.cursor _ < _ from hend)]
    rfl
  · rw [if_neg hend, if_neg (show ¬ endFrom empty.cursor _ < _ from hend)]
    rfl

end Layout

namespace Protocol

variable {p : Protocol} {channels : ChannelSet} {plan : RepetitionPlan} {spec : TimingSpec}
  {w : NamedPulse}

/-- The windows of one unit, in exact numbers. -/
def unit : Protocol → List NamedPulse
  | odmr o =>
    [(ChannelSet.laser, o.laser), (ChannelSet.microwave, o.microwave),
      (ChannelSet.detection, o.detection)]
  | rabi r =>
    [(ChannelSet.laser, ⟨0, r.laser⟩),
      (ChannelSet.microwave, ⟨r.laser + r.wait, r.microwave⟩),
      (ChannelSet.detection, ⟨r.laser + r.wait + r.microwave, r.detection⟩)]
  | ramsey r =>
    [(ChannelSet.laser, ⟨0, r.laser⟩),
      (ChannelSet.microwave, ⟨r.laser + 1000, r.piHalf⟩),
      (ChannelSet.microwave, ⟨r.laser + 1000 + r.piHalf + r.tau, r.piHalf⟩),
      (ChannelSet.detection,
        ⟨r.laser + 1000 + r.piHalf + r.tau + r.piHalf + 100, r.detection⟩)]
  | spinEcho e =>
    [(ChannelSet.laser, ⟨0, e.laser⟩),
      (ChannelSet.microwave, ⟨e.laser + 1000, e.piHalf⟩),
      (ChannelSet.microwave, ⟨e.laser + 1000 + e.piHalf + e.tau, e.pi⟩),
      (ChannelSet.detection,
        ⟨e.laser + 1000 + e.piHalf + e.tau + e.pi + e.tau + 100, e.detection⟩)]
  | t1 t =>
    [(ChannelSet.laser, ⟨t.initDelay, t.initLaser⟩),
      (ChannelSet.laser, ⟨t.initDelay + t.initLaser + t.delay, t.readoutLaser⟩),
      (ChannelSet.detection, ⟨t.initDelay + t.initLaser + t.delay, t.detection⟩)]

/-- The windows that are laid end to end: all of a unit, but for the detection window of a T1 unit,
which begins with the readout laser, and the windows of an ODMR unit, which lie where they like. -/
def laid : Protocol → List NamedPulse
  | odmr _ => []
  | rabi r => (rabi r).unit
  | ramsey r => (ramsey r).unit
  | spinEcho e => (spinEcho e).unit
  | t1 t => (t1 t).unit.take 2

theorem mem_unit_of_mem_laid (h : w ∈ p.laid) : w ∈ p.unit := by
  cases p with
  | odmr o => simp [laid] at h
  | rabi r => exact h
  | ramsey r => exact h
  | spinEcho e => exact h
  | t1 t => exact List.mem_of_mem_take h

theorem laid_eq_unit (hodmr : ∀ o, p ≠ odmr o) (ht1 : ∀ t, p ≠ t1 t) : p.laid = p.unit := by
  cases p with
  | odmr o => exact absurd rfl (hodmr o)
  | rabi r => rfl
  | ramsey r => rfl
  | spinEcho e => rfl
  | t1 t => exact absurd rfl (ht1 t)

theorem free_of_mem_unit (hw : w ∈ p.unit) (hfree : w ∉ p.laid) :
    (∃ o, p = odmr o) ∨ ∃ t, p = t1 t ∧
      w = (ChannelSet.detection, ⟨t.initDelay + t.initLaser + t.delay, t.detection⟩) := by
  cases p with
  | odmr o => exact .inl ⟨o, rfl⟩
  | rabi r => exact absurd hw hfree
  | ramsey r => exact absurd hw hfree
  | spinEcho e => exact absurd hw hfree
  | t1 t =>
    have hsplit : (t1 t).unit = (t1 t).laid ++ (t1 t).unit.drop 2 :=
      (List.take_append_drop 2 (t1 t).unit).symm
    rw [hsplit, List.mem_append] at hw
    exact .inr ⟨t, rfl, List.mem_singleton.mp (hw.resolve_left hfree)⟩

/-! ## The layouts of the protocols -/

theorem windowsFrom_rabi (r : Rabi) : LayoutItem.windowsFrom 0 r.layout = (rabi r).unit := by
  simp [Rabi.layout, LayoutItem.windowsFrom, unit]

theorem windowsFrom_ramsey (r : Ramsey) : LayoutItem.windowsFrom 0 r.layout = (ramsey r).unit := by
  simp [Ramsey.layout, LayoutItem.windowsFrom, unit, relaxation, readoutDelay]

theorem windowsFrom_spinEcho (e : SpinEcho) :
    LayoutItem.windowsFrom 0 e.layout = (spinEcho e).unit := by
  simp [SpinEcho.layout, LayoutItem.windowsFrom, unit, relaxation, readoutDelay]

theorem windowsFrom_t1 (t : T1) : LayoutItem.windowsFrom 0
    (t.layout ++ [.pulse ChannelSet.laser t.readoutLaser]) = (t1 t).laid := by
  simp [T1.layout, LayoutItem.windowsFrom, laid, unit]

theorem endFrom_t1 (t : T1) :
    LayoutItem.endFrom 0 t.layout = t.initDelay + t.initLaser + t.delay := by
  simp [T1.layout, LayoutItem.endFrom, LayoutItem.duration]

/-- The pulses are the windows of the unit, unless a window that is laid end to end with others
ends too late. -/
theorem pulses_eq (p : Protocol) : p.pulses =
    if ∀ w ∈ p.laid, w.2.Fits then .ok p.unit
    else .error (.overflow s!"{p.name} layout") := by
  cases p with
  | odmr o => exact (if_pos fun w hw => absurd hw List.not_mem_nil).symm
  | rabi r =>
    show Layout.pulses <$> Layout.empty.addAll _ r.layout = _
    rw [Layout.pulses_addAll rfl, windowsFrom_rabi]
    rfl
  | ramsey r =>
    show Layout.pulses <$> Layout.empty.addAll _ r.layout = _
    rw [Layout.pulses_addAll rfl, windowsFrom_ramsey]
    rfl
  | spinEcho e =>
    show Layout.pulses <$> Layout.empty.addAll _ e.layout = _
    rw [Layout.pulses_addAll rfl, windowsFrom_spinEcho]
    rfl
  | t1 t =>
    -- The detection window begins with the readout laser, and the windows that are laid fit iff the
    -- readout laser does.
    have hempty : Layout.empty.cursor < Nanoseconds.limit := by decide
    have hsteps : (t1 t).pulses = (Layout.empty.addAll (t1 t).name t.layout >>= fun l =>
        l.add (t1 t).name (.pulse ChannelSet.laser t.readoutLaser)) >>= fun r =>
        .ok (r.2.pulses ++ [(ChannelSet.detection, ⟨r.1, t.detection⟩)]) := by
      rw [bind_assoc]
      rfl
    rw [hsteps, Layout.addAll_add hempty, ← windowsFrom_t1]
    simp only [LayoutItem.forall_fits_iff]
    by_cases hfits : LayoutItem.endFrom 0
        (t.layout ++ [.pulse ChannelSet.laser t.readoutLaser]) < Nanoseconds.limit
    · rw [if_pos hfits, if_pos (show LayoutItem.endFrom Layout.empty.cursor _ < _ from hfits)]
      show Except.ok (LayoutItem.windowsFrom 0 _ ++
        [(ChannelSet.detection, ⟨LayoutItem.endFrom 0 t.layout, t.detection⟩)]) = _
      rw [windowsFrom_t1, endFrom_t1]
      rfl
    · rw [if_neg hfits, if_neg (show ¬ LayoutItem.endFrom Layout.empty.cursor _ < _ from hfits)]
      rfl

/-- The windows of a protocol that lays its whole unit end to end come one after the other. -/
theorem unit_pairwise (h : p.laid = p.unit) :
    p.unit.Pairwise fun a b => a.2.start + a.2.duration ≤ b.2.start := by
  cases p with
  | odmr o => simp [laid, unit] at h
  | rabi r => exact windowsFrom_rabi r ▸ LayoutItem.windowsFrom_pairwise
  | ramsey r => exact windowsFrom_ramsey r ▸ LayoutItem.windowsFrom_pairwise
  | spinEcho e => exact windowsFrom_spinEcho e ▸ LayoutItem.windowsFrom_pairwise
  | t1 t => simp [laid, unit] at h

/-! ## Timing specs -/

/-- A protocol has a timing spec iff its windows fit, its names are declared and it is played, and
the pulses of the spec are then the windows of the unit. -/
theorem timingSpec_eq_ok_iff : p.timingSpec channels plan = .ok spec ↔
    (∀ w ∈ p.unit, w.2.Fits) ∧ 1 ≤ plan.repetitions ∧
      spec.events.map (PulseEvent.named? channels) = p.unit.map some ∧
      spec.interval = plan.interval ∧ spec.repetitions = plan.repetitions ∧
      spec.minUnitLength = 0 := by
  have hsteps : p.timingSpec channels plan = (do
      let pulses ← p.pulses
      let events ← pulses.mapM fun w => TimingParams.pulse channels w.1 w.2
      TimingSpec.ofParts events plan.interval plan.repetitions 0) := rfl
  rw [hsteps, pulses_eq]
  constructor
  · intro h
    obtain ⟨pulses, hpulses, hrest⟩ := bind_eq_ok.mp h
    obtain ⟨events, hevents, hspec⟩ := bind_eq_ok.mp hrest
    obtain ⟨rfl, -⟩ := guarded_eq_ok.mp hpulses
    have hshown := TimingParams.pulses_eq_ok_iff.mp hevents
    obtain ⟨rfl, hinterval, hrepetitions, hmin, honce, hstop⟩ :=
      TimingSpec.ofParts_eq_ok_iff.mp (mapError_eq_ok.mp hspec)
    exact ⟨(TimingParams.stop_lt_iff_fits hshown).mp hstop, honce, hshown, hinterval, hrepetitions,
      hmin⟩
  · rintro ⟨hfits, honce, hshown, hinterval, hrepetitions, hmin⟩
    rw [if_pos fun w hw => hfits w (mem_unit_of_mem_laid hw)]
    refine bind_eq_ok.mpr ⟨p.unit, rfl, bind_eq_ok.mpr ⟨spec.events, ?_, mapError_eq_ok.mpr ?_⟩⟩
    · exact TimingParams.pulses_eq_ok_iff.mpr hshown
    · exact TimingSpec.ofParts_eq_ok_iff.mpr ⟨rfl, hinterval, hrepetitions, hmin, honce,
        (TimingParams.stop_lt_iff_fits hshown).mpr hfits⟩

/-- A timing spec realises the unit of its protocol. There is one iff every window ends within the
range of the counter, every name is declared and the unit is played at least once; its pulses are
then the windows of the unit in order, on the channels of their names, and it is repeated as
planned. No sum wraps on the way, so where the whole unit is laid end to end each pulse stops before
the next one starts. -/
theorem timingSpec_realises (p : Protocol) (channels : ChannelSet) (plan : RepetitionPlan) :
    ((∃ spec, p.timingSpec channels plan = .ok spec) ↔
      (∀ w ∈ p.unit, w.2.start + w.2.duration < Nanoseconds.limit) ∧
        (∀ w ∈ p.unit, w.1 ∈ channels.names) ∧ 1 ≤ plan.repetitions) ∧
    ∀ spec, p.timingSpec channels plan = .ok spec →
      spec.events.map (PulseEvent.named? channels) = p.unit.map some ∧
        spec.repetitions = plan.repetitions ∧ spec.interval = plan.interval ∧
        spec.minUnitLength = 0 ∧
        ((∀ o, p ≠ odmr o) → (∀ t, p ≠ t1 t) →
          spec.events.Pairwise fun a b => a.start + a.duration ≤ b.start) := by
  refine ⟨⟨?_, ?_⟩, ?_⟩
  · rintro ⟨spec, h⟩
    obtain ⟨hfits, honce, hshown, -⟩ := timingSpec_eq_ok_iff.mp h
    exact ⟨hfits, fun w hw => TimingParams.mem_names_of_shown hshown hw, honce⟩
  · rintro ⟨hfits, hnames, honce⟩
    obtain ⟨events, hevents⟩ := TimingParams.exists_pulses hnames
    have hshown := TimingParams.pulses_eq_ok_iff.mp hevents
    have hstop := (TimingParams.stop_lt_iff_fits hshown).mpr hfits
    exact ⟨⟨events, plan.interval, plan.repetitions, 0, honce, hstop⟩,
      timingSpec_eq_ok_iff.mpr ⟨hfits, honce, hshown, rfl, rfl, rfl⟩⟩
  · intro spec h
    obtain ⟨-, -, hshown, hinterval, hrepetitions, hmin⟩ := timingSpec_eq_ok_iff.mp h
    refine ⟨hshown, hrepetitions, hinterval, hmin, fun hodmr ht1 => ?_⟩
    have horder := TimingParams.pairwise_shown hshown (unit_pairwise (laid_eq_unit hodmr ht1))
    refine horder.imp ?_
    rintro a b ⟨⟨n, v⟩, ⟨m, w⟩, ha, hb, hab⟩
    obtain ⟨-, rfl⟩ := PulseEvent.named?_eq_some_iff.mp ha
    obtain ⟨-, rfl⟩ := PulseEvent.named?_eq_some_iff.mp hb
    exact hab

/-! ## What is left to the timing spec -/

/-- The pulses of a protocol are the windows of its unit. They are refused, as an overflow of the
layout, iff a window that is laid end to end with others ends too late. So of the pulses that are
given only the detection window of a T1 unit and the windows of an ODMR unit can end too late, and
these do so unnoticed. -/
theorem pulses_outcome (p : Protocol) :
    (∀ ws, p.pulses = .ok ws ↔
      ws = p.unit ∧ ∀ w ∈ p.laid, w.2.start + w.2.duration < Nanoseconds.limit) ∧
    (∀ error, p.pulses = .error error ↔ error = .overflow s!"{p.name} layout" ∧
      ∃ w ∈ p.laid, Nanoseconds.limit ≤ w.2.start + w.2.duration) ∧
    ∀ ws, p.pulses = .ok ws → ∀ w ∈ ws, Nanoseconds.limit ≤ w.2.start + w.2.duration →
      (∃ o, p = odmr o) ∨ ∃ t, p = t1 t ∧
        w = (ChannelSet.detection, ⟨t.initDelay + t.initLaser + t.delay, t.detection⟩) := by
  have hlate : (∃ w ∈ p.laid, Nanoseconds.limit ≤ w.2.start + w.2.duration) ↔
      ¬ ∀ w ∈ p.laid, w.2.Fits := by
    simp [PulseWindow.Fits]
  rw [hlate, pulses_eq]
  refine ⟨fun ws => guarded_eq_ok, fun error => guarded_eq_error, ?_⟩
  intro ws h w hw hlast
  obtain ⟨rfl, hfits⟩ := guarded_eq_ok.mp h
  have hfree : w ∉ p.laid := fun hlaid => Nat.not_lt.mpr hlast (hfits w hlaid)
  exact free_of_mem_unit hw hfree

theorem not_pulses_fit : ¬ ∀ (p : Protocol) (ws : List NamedPulse), p.pulses = .ok ws →
    ∀ w ∈ ws, w.2.start + w.2.duration < Nanoseconds.limit := by
  intro h
  let late : Protocol := t1 { detection := Nanoseconds.limit - 1 }
  have hpulses : late.pulses = .ok late.unit := by
    rw [pulses_eq]
    exact if_pos (by decide)
  have hlate := h late late.unit hpulses (ChannelSet.detection, ⟨11000, Nanoseconds.limit - 1⟩)
    (by decide)
  exact absurd hlate (by decide)

end Protocol

end PulseTrain
