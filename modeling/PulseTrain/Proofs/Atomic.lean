import PulseTrain.Proofs.Invariants

/-!
# What a failed run leaves

A run ends at the first pass that fails. What it leaves is what the passes before that one have
left, since a standard pass works out its whole result before it writes any of it.
-/

namespace PulseTrain

variable {K : NoteKinds}

namespace Pass

variable {p : Pass K} {f : Workpiece K → Except CompileError (Workpiece K)}

/-- A pass that fails leaves the workpiece as it was. -/
def Atomic (p : Pass K) : Prop := ∀ w e left, p.perform w = (.error e, left) → left = w

theorem Performs.atomic (hp : p.Performs f) : p.Atomic := by
  intro w e left h
  cases hf : f w with
  | ok w' =>
    rw [hp.perform_of_ok hf] at h
    exact absurd (congrArg Prod.fst h) (by simp)
  | error d =>
    rw [hp.perform_of_error hf] at h
    exact (congrArg Prod.snd h).symm

theorem atomic_of_mem_standard (hp : p ∈ standard) : p.Atomic := by
  rcases mem_standard.mp hp with rfl | rfl | rfl
  · exact Workpiece.performs_quantize.atomic
  · exact Workpiece.performs_expand.atomic
  · exact Workpiece.performs_verify.atomic

end Pass

namespace Workpiece

variable {w left : Workpiece K} {ps qs before after : List (Pass K)} {p : Pass K} {e : CompileError}

/-- In a run that fails, some passes succeed or are left out, and then one fails. -/
theorem exists_failing (hps : ∀ p ∈ ps, p.Atomic) (h : w.process ps = (.error e, left)) :
    ∃ before p after, ps = before ++ p :: after ∧ w.process before = (.ok (), left) ∧
      p.shouldRun left = true ∧ p.perform left = (.error e, left) := by
  induction ps generalizing w with
  | nil =>
    rw [process_nil] at h
    exact absurd (congrArg Prod.fst h) (by simp)
  | cons p ps ih =>
    have hrest : ∀ p ∈ ps, p.Atomic := fun p hp => hps p (List.mem_cons_of_mem _ hp)
    rw [process_cons] at h
    by_cases hrun : p.shouldRun w = true
    · rw [if_pos hrun] at h
      cases hperform : p.perform w with
      | mk r w1 =>
        rw [hperform] at h
        cases r with
        | error d =>
          -- The first pass is the one that fails, and it leaves the workpiece that it was given.
          obtain ⟨hd, rfl⟩ := Prod.mk.inj h
          obtain rfl := Except.error.inj hd
          obtain rfl := hps p List.mem_cons_self w d w1 hperform
          exact ⟨[], p, ps, rfl, process_nil w1, hrun, hperform⟩
        | ok a =>
          obtain ⟨before, failing, after, rfl, hbefore, hfailing⟩ := ih hrest h
          refine ⟨p :: before, failing, after, rfl, ?_, hfailing⟩
          rw [process_cons, if_pos hrun, hperform]
          exact hbefore
    · rw [if_neg hrun] at h
      obtain ⟨before, failing, after, rfl, hbefore, hfailing⟩ := ih hrest h
      refine ⟨p :: before, failing, after, rfl, ?_, hfailing⟩
      rw [process_cons, if_neg hrun]
      exact hbefore

/-- Nothing comes behind a pass that fails. -/
theorem process_append_of_failing (hbefore : w.process before = (.ok (), left))
    (hrun : p.shouldRun left = true) (hperform : p.perform left = (.error e, left)) :
    w.process (before ++ p :: after) = (.error e, left) := by
  rw [process_append, hbefore]
  dsimp only
  rw [process_cons, if_pos hrun, hperform]

theorem process_part_eq_ok (hqs : qs <+: ps) (h : (w.process ps).1 = .ok ()) :
    (w.process qs).1 = .ok () := by
  obtain ⟨rest, rfl⟩ := hqs
  rw [process_append] at h
  cases hrun : w.process qs with
  | mk r w1 =>
    rw [hrun] at h
    cases r with
    | ok a => rfl
    | error e => exact absurd h (by simp)

/-- A run that fails leaves the timeline and all properties as the passes before the failing one
left them. The failing pass changes nothing, and whatever would come behind it makes no difference.
It is the pass behind the longest part of the run that does not fail. -/
theorem process_atomic (hps : ∀ p ∈ ps, p ∈ Pass.standard) (hfail : (w.process ps).1 = .error e) :
    let left := (w.process ps).2
    ∃ before failing after, ps = before ++ failing :: after ∧
      w.process before = (.ok (), left) ∧
      failing.shouldRun left = true ∧ failing.perform left = (.error e, left) ∧
      (∀ later, w.process (before ++ failing :: later) = (.error e, left)) ∧
      ∀ part, part <+: ps → ((w.process part).1 = .ok () ↔ part <+: before) := by
  intro left
  have hatomic : ∀ p ∈ ps, p.Atomic := fun p hp => Pass.atomic_of_mem_standard (hps p hp)
  have hrun : w.process ps = (.error e, left) := Prod.ext hfail rfl
  obtain ⟨before, failing, after, hsplit, hbefore, hshould, hperform⟩ := exists_failing hatomic hrun
  refine ⟨before, failing, after, hsplit, hbefore, hshould, hperform, ?_, ?_⟩
  · intro later
    exact process_append_of_failing hbefore hshould hperform
  · intro part hpart
    constructor
    · -- A part that is not a part of `before` goes on at least as far as the failing pass.
      intro hok
      have hfailed : (w.process (before ++ [failing])).1 = .error e := by
        rw [process_append_of_failing hbefore hshould hperform]
      have hnot : ¬ before ++ [failing] <+: part := fun hle => by
        rw [process_part_eq_ok hle hok] at hfailed
        exact absurd hfailed (by simp)
      have hfirst : before ++ [failing] <+: ps := ⟨after, by simp [hsplit]⟩
      rcases List.prefix_or_prefix_of_prefix hpart hfirst with hle | hle
      · rcases List.prefix_concat_iff.mp hle with heq | hle
        · exact absurd (heq ▸ List.prefix_rfl) hnot
        · exact hle
      · exact absurd hle hnot
    · intro hle
      exact process_part_eq_ok hle (by rw [hbefore])

/-- A unit off the grid that is not to be played at all. -/
def idle : Workpiece .none where
  timeline := ⟨[⟨0, 5, ⟨1⟩⟩]⟩
  properties := (Properties.initial.withQuantum .default).withRepetitions 0 3

/-- Quantization has been done and is not undone when the repetition fails. -/
theorem process_atomic_idle :
    (idle.process [.quantize, .expand, .verify]).2 = (idle.process [.quantize]).2 := by
  have hstandard : ∀ p ∈ ([.quantize, .expand, .verify] : List (Pass .none)),
      p ∈ Pass.standard := by
    simp [Pass.standard]
  have hfail : (idle.process [.quantize, .expand, .verify]).1 =
      .error (.invalidParameter "repetitions" "must be at least 1") := by rfl
  obtain ⟨before, failing, after, hsplit, hbefore, -, -, -, hparts⟩ :=
    process_atomic hstandard hfail
  have hone : [Pass.quantize] <+: before := (hparts _ ⟨_, rfl⟩).mp (by rfl)
  have htwo : ¬ [Pass.quantize, .expand] <+: before := fun h => by
    have hok := (hparts _ ⟨[.verify], rfl⟩).mpr h
    have hexpand : (idle.process [.quantize, .expand]).1 =
        .error (.invalidParameter "repetitions" "must be at least 1") := by rfl
    rw [hexpand] at hok
    exact absurd hok (by simp)
  obtain ⟨rest, rfl⟩ := hone
  cases rest with
  | nil => exact (congrArg Prod.snd hbefore).symm
  | cons p rest =>
    obtain rfl : Pass.expand = p := (List.cons.inj (List.cons.inj hsplit).2).1
    exact absurd ⟨rest, rfl⟩ htwo

end Workpiece

end PulseTrain
