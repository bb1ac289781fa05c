import PulseTrain.Proofs.Pipeline
import PulseTrain.Proofs.Quantized
import PulseTrain.Proofs.Reading
import PulseTrain.Proofs.Repeated
import PulseTrain.Proofs.Verified

/-!
# What every run of passes keeps

The standard passes may run in any order and any number of times, and a run may stop at any of them
with an error. The timeline stays canonical throughout. Once it has been quantized, it also stays on
the grid, as a pass that repeats it moves by whole ticks only.
-/

namespace PulseTrain

namespace Timeline

variable {q : Quantum} {t : Timeline} {n b : Nat} {w : Waveform}

/-! ## Timelines on the grid -/

theorem OnGrid.dvd_length (h : t.OnGrid q) : q.ns ∣ t.length := by
  unfold length
  cases hlast : t.spans.getLast? with
  | none => exact Nat.dvd_zero _
  | some s => exact (h s (List.mem_of_getLast? hlast)).2

theorem OnGrid.dvd_breakpoint (h : t.OnGrid q) (hb : b ∈ t.breakpoints) : q.ns ∣ b := by
  rcases Nat.eq_zero_or_pos b with rfl | hpos
  · exact Nat.dvd_zero _
  · obtain ⟨s, hs, rfl⟩ := (mem_breakpoints_of_pos hpos).mp hb
    exact (h s hs).2

/-- A timeline on the grid shows at each instant what it shows at the beginning of the tick. -/
theorem OnGrid.renders_sampled (h : t.OnGrid q) (ht : t.Renders n w) :
    t.Renders n (w.sampled q) := by
  refine ht.congr fun i hi => ?_
  have hend : endFrom 0 t.spans = n := ht.length
  obtain ⟨s, hs, hstart, hstop⟩ := TilesFrom.exists_contains ht.canonical (Nat.zero_le i)
    (hend ▸ hi)
  have hfloor : s.start ≤ q.floor i := by
    rw [← q.ceil_le_iff, q.ceil_eq_self (h s hs).1]
    exact hstart
  have hnow : w i = s.state := ht.shows s hs i ⟨hstart, hstop⟩
  have htick : w (q.floor i) = s.state :=
    ht.shows s hs _ ⟨hfloor, (q.floor_le i).trans_lt hstop⟩
  exact htick.trans hnow.symm

/-- Quantization moves every breakpoint to the grid. -/
theorem onGrid_of_quantized {u : Timeline} {c : CollapsedSpans} (ht : t.Canonical)
    (h : t.quantized q = .ok (u, c)) : u.Canonical ∧ u.OnGrid q := by
  obtain ⟨-, -, -, hu⟩ := quantized_inv ht.renders h
  exact ⟨hu.canonical, hu.onGrid (q.dvd_ceil _) fun i _ => Waveform.sampled_floor _ q i⟩

theorem canonical_of_repeated {u : Timeline} {repetitions interval gap : Nat} (ht : t.Canonical)
    (h : t.repeated q repetitions interval = .ok (u, gap)) : u.Canonical := by
  obtain ⟨-, -, -, hu⟩ := repeated_inv ht.renders h
  exact hu.canonical

/-- Repetition leaves no breakpoint off the grid, if there was none before. -/
theorem onGrid_of_repeated {u : Timeline} {repetitions interval gap : Nat} (ht : t.Canonical)
    (hgrid : t.OnGrid q) (h : t.repeated q repetitions interval = .ok (u, gap)) : u.OnGrid q := by
  have hunit := hgrid.dvd_length
  obtain ⟨hpos, -, hgap, hu⟩ := repeated_inv (hgrid.renders_sampled ht.renders) h
  have hdvd : q.ns ∣ gap := hgap ▸ q.dvd_ceil interval
  have hlen : q.ns ∣ repeatedLength repetitions t.length gap :=
    Nat.dvd_add (Dvd.dvd.mul_left hunit _) (Dvd.dvd.mul_left hdvd _)
  exact hu.onGrid hlen fun i _ =>
    Waveform.repeated_floor hpos hunit hdvd (Waveform.sampled_floor _ q) i

end Timeline

/-! ## Properties that passes keep -/

variable {K : NoteKinds}

namespace Pass

/-- The passes of the standard pipeline. -/
def standard : List (Pass K) := [quantize, expand, verify]

theorem mem_standard {p : Pass K} : p ∈ standard ↔ p = quantize ∨ p = expand ∨ p = verify := by
  simp [standard]

/-- A pass keeps a property of the workpiece, be it that it succeeds or that it fails. -/
def Keeps (p : Pass K) (I : Workpiece K → Prop) : Prop := ∀ w, I w → I (p.perform w).2

/-- A pass that leaves its workpiece alone when it fails need only keep what it succeeds on. -/
theorem Performs.keeps {p : Pass K} {f : Workpiece K → Except CompileError (Workpiece K)}
    {I : Workpiece K → Prop} (hp : p.Performs f) (hf : ∀ w w', I w → f w = .ok w' → I w') :
    p.Keeps I := by
  intro w hw
  rw [hp w]
  cases hfw : f w with
  | ok w' => exact hf w w' hw hfw
  | error e => exact hw

end Pass

namespace Workpiece

variable {w w' : Workpiece K} {ps qs : List (Pass K)} {I : Workpiece K → Prop} {o : Option Quantum}
  {q : Quantum}

/-- A run keeps what each of its passes keeps. -/
theorem process_keeps (hps : ∀ p ∈ ps, p.Keeps I) (hw : I w) : I (w.process ps).2 := by
  induction ps generalizing w with
  | nil => exact hw
  | cons p ps ih =>
    have hp : I (p.perform w).2 := hps p List.mem_cons_self w hw
    have hrest : ∀ p ∈ ps, p.Keeps I := fun p hp => hps p (List.mem_cons_of_mem _ hp)
    rw [process_cons]
    split_ifs
    · cases hperform : p.perform w with
      | mk r w1 =>
        rw [hperform] at hp
        cases r with
        | ok a => exact ih hrest hp
        | error e => exact hp
    · exact ih hrest hw

/-- The later part of a run goes on where the earlier one ended, if that did not fail. -/
theorem process_append (w : Workpiece K) (ps qs : List (Pass K)) : w.process (ps ++ qs) =
    match w.process ps with
    | (.ok (), w') => w'.process qs
    | (.error e, w') => (.error e, w') := by
  induction ps generalizing w with
  | nil => rfl
  | cons p ps ih =>
    rw [List.cons_append, process_cons, process_cons]
    split_ifs
    · cases p.perform w with
      | mk r w1 =>
        cases r with
        | ok a => exact ih w1
        | error e => rfl
    · exact ih w

/-! ## The standard passes -/

/-- The timeline is canonical, and the quantum is the one that was given, if any. -/
structure Sound (o : Option Quantum) (w : Workpiece K) : Prop where
  /-- The spans tile an interval from zero, and neighbours differ. -/
  canonical : w.timeline.Canonical
  /-- No pass changes the quantum. -/
  quantum : w.properties.quantum = o

/-- The timeline is canonical and lies on the grid of the quantum. -/
structure Gridded (q : Quantum) (w : Workpiece K) : Prop extends Sound (some q) w where
  /-- All breakpoints are multiples of the quantum. -/
  onGrid : w.timeline.OnGrid q

theorem quantized_inv (h : w.quantized = .ok w') : ∃ q c, w.properties.quantum = some q ∧
    w.timeline.quantized q = .ok (w'.timeline, c) ∧ w'.properties.quantum = some q := by
  unfold quantized at h
  obtain ⟨q, hq, h⟩ := bind_eq_ok.mp h
  obtain ⟨⟨t, c⟩, ht, h⟩ := bind_eq_ok.mp h
  obtain rfl := Except.ok.inj h
  rw [Properties.requireQuantum_eq_ok] at hq
  exact ⟨q, c, hq, ht, hq⟩

theorem repeated_inv (h : w.repeated = .ok w') : ∃ q gap, w.properties.quantum = some q ∧
    w.timeline.repeated q w.properties.repetitions w.properties.interval =
      .ok (w'.timeline, gap) ∧ w'.properties.quantum = some q := by
  unfold repeated at h
  obtain ⟨q, hq, h⟩ := bind_eq_ok.mp h
  obtain ⟨⟨t, gap⟩, ht, h⟩ := bind_eq_ok.mp h
  obtain rfl := Except.ok.inj h
  rw [Properties.requireQuantum_eq_ok] at hq
  exact ⟨q, gap, hq, ht, hq⟩

theorem verified_inv (h : w.verified = .ok w') :
    w'.timeline = w.timeline ∧ w'.properties.quantum = w.properties.quantum := by
  unfold verified at h
  dsimp only at h
  split at h
  · obtain rfl := Except.ok.inj h
    exact ⟨rfl, rfl⟩
  · exact absurd h (by simp)

/-- Quantization needs a quantum, and puts the timeline on its grid. -/
theorem Sound.quantized (hw : w.Sound o) (h : w.quantized = .ok w') :
    ∃ q, o = some q ∧ w'.Gridded q := by
  obtain ⟨q, c, hq, ht, hq'⟩ := quantized_inv h
  obtain ⟨hcan, hgrid⟩ := Timeline.onGrid_of_quantized hw.canonical ht
  exact ⟨q, hw.quantum.symm.trans hq, ⟨hcan, hq'⟩, hgrid⟩

theorem Sound.repeated (hw : w.Sound o) (h : w.repeated = .ok w') : w'.Sound o := by
  obtain ⟨q, gap, hq, ht, hq'⟩ := repeated_inv h
  exact ⟨Timeline.canonical_of_repeated hw.canonical ht, hq'.trans (hq.symm.trans hw.quantum)⟩

theorem Gridded.repeated (hw : w.Gridded q) (h : w.repeated = .ok w') : w'.Gridded q := by
  have hsound := hw.toSound.repeated h
  obtain ⟨q', gap, hq, ht, -⟩ := repeated_inv h
  obtain rfl : q' = q := Option.some.inj (hq.symm.trans hw.quantum)
  exact ⟨hsound, Timeline.onGrid_of_repeated hw.canonical hw.onGrid ht⟩

theorem Sound.verified (hw : w.Sound o) (h : w.verified = .ok w') : w'.Sound o := by
  obtain ⟨ht, hq⟩ := verified_inv h
  exact ⟨ht ▸ hw.canonical, hq.trans hw.quantum⟩

theorem Gridded.verified (hw : w.Gridded q) (h : w.verified = .ok w') : w'.Gridded q := by
  obtain ⟨ht, -⟩ := verified_inv h
  exact ⟨hw.toSound.verified h, ht ▸ hw.onGrid⟩

theorem keeps_sound {p : Pass K} (hp : p ∈ Pass.standard) : p.Keeps (Sound o) := by
  rcases Pass.mem_standard.mp hp with rfl | rfl | rfl
  · refine performs_quantize.keeps fun w w' hw h => ?_
    obtain ⟨q, rfl, hgridded⟩ := hw.quantized h
    exact hgridded.toSound
  · exact performs_expand.keeps fun w w' hw h => hw.repeated h
  · exact performs_verify.keeps fun w w' hw h => hw.verified h

theorem keeps_gridded {p : Pass K} (hp : p ∈ Pass.standard) : p.Keeps (Gridded q) := by
  rcases Pass.mem_standard.mp hp with rfl | rfl | rfl
  · refine performs_quantize.keeps fun w w' hw h => ?_
    obtain ⟨q', hq, hgridded⟩ := hw.toSound.quantized h
    obtain rfl := Option.some.inj hq
    exact hgridded
  · exact performs_expand.keeps fun w w' hw h => hw.repeated h
  · exact performs_verify.keeps fun w w' hw h => hw.verified h

/-- What comes behind a quantization that succeeded is on the grid. -/
theorem Sound.process_quantize (hw : w.Sound o) (hps : ∀ p ∈ ps, p ∈ Pass.standard)
    (hqs : ∀ p ∈ qs, p ∈ Pass.standard) (h : (w.process (ps ++ [.quantize])).1 = .ok ()) :
    ∃ q, o = some q ∧ (w.process (ps ++ .quantize :: qs)).2.Gridded q := by
  have hbefore : (w.process ps).2.Sound o := process_keeps (fun p hp => keeps_sound (hps p hp)) hw
  rw [process_append] at h ⊢
  cases hrun : w.process ps with
  | mk r w0 =>
    rw [hrun] at h hbefore
    cases r with
    | error e => exact absurd h (by simp)
    | ok a =>
      dsimp only at h hbefore ⊢
      cases hquant : w0.quantized with
      | error e =>
        rw [process_cons_of_error performs_quantize rfl hquant] at h
        exact absurd h (by simp)
      | ok w1 =>
        obtain ⟨q, ho, hgridded⟩ := hbefore.quantized hquant
        rw [process_cons_of_ok performs_quantize rfl hquant]
        exact ⟨q, ho, process_keeps (fun p hp => keeps_gridded (hqs p hp)) hgridded⟩

/-- Whatever standard passes are run on a canonical timeline, in any order, and wherever the run
ends, it leaves a canonical timeline. After any part of a run that includes a successful
quantization, all breakpoints are multiples of the quantum that was given. -/
theorem process_canonical (hw : w.timeline.Canonical) (hps : ∀ p ∈ ps, p ∈ Pass.standard) :
    (w.process ps).2.timeline.Canonical ∧
    ∀ before after, ps = before ++ .quantize :: after →
      (w.process (before ++ [.quantize])).1 = .ok () →
        ∃ q, w.properties.quantum = some q ∧ ∀ part, part <+: after →
          let reached := (w.process (before ++ .quantize :: part)).2
          reached.timeline.Canonical ∧ reached.properties.quantum = some q ∧
            ∀ b ∈ reached.timeline.breakpoints, q.ns ∣ b := by
  have hsound : w.Sound w.properties.quantum := ⟨hw, rfl⟩
  refine ⟨(process_keeps (fun p hp => keeps_sound (hps p hp)) hsound).canonical, ?_⟩
  intro before after hsplit hok
  have hbefore : ∀ p ∈ before, p ∈ Pass.standard := fun p hp =>
    hps p (hsplit ▸ List.mem_append_left _ hp)
  have hafter : ∀ p ∈ after, p ∈ Pass.standard := fun p hp =>
    hps p (hsplit ▸ List.mem_append_right _ (List.mem_cons_of_mem _ hp))
  obtain ⟨q, hq, -⟩ := hsound.process_quantize hbefore hafter hok
  refine ⟨q, hq, fun part hpart => ?_⟩
  have hpartStandard : ∀ p ∈ part, p ∈ Pass.standard := fun p hp => hafter p (hpart.subset hp)
  obtain ⟨q', hq', hgridded⟩ := hsound.process_quantize hbefore hpartStandard hok
  obtain rfl : q' = q := Option.some.inj (hq'.symm.trans hq)
  exact ⟨hgridded.canonical, hgridded.quantum, fun b hb => hgridded.onGrid.dvd_breakpoint hb⟩

/-- A unit off the grid that is to be played twice. -/
def uneven : Workpiece .none where
  timeline := ⟨[⟨0, 5, ⟨1⟩⟩]⟩
  properties := (Properties.initial.withQuantum .default).withRepetitions 2 3

/-- The unit is repeated before it is quantized, and once more after that. -/
theorem process_canonical_uneven :
    (uneven.process [.expand, .quantize, .expand, .verify]).2.timeline.Canonical ∧
      ∀ b ∈ (uneven.process [.expand, .quantize, .expand, .verify]).2.timeline.breakpoints,
        8 ∣ b := by
  have hcanonical : uneven.timeline.Canonical := by decide
  have hquantized : (uneven.process [.expand, .quantize]).1 = .ok () := by rfl
  have hstandard : ∀ p ∈ ([.expand, .quantize, .expand, .verify] : List (Pass .none)),
      p ∈ Pass.standard := by
    simp [Pass.standard]
  obtain ⟨hleft, hgrid⟩ := process_canonical hcanonical hstandard
  obtain ⟨q, hq, hreached⟩ := hgrid [.expand] [.expand, .verify] rfl hquantized
  obtain ⟨-, -, hdvd⟩ := hreached [.expand, .verify] List.prefix_rfl
  obtain rfl : Quantum.default = q := Option.some.inj hq
  exact ⟨hleft, hdvd⟩

end Workpiece

end PulseTrain
