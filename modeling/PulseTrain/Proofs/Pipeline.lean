import PulseTrain.Pipeline.Plan
import PulseTrain.Proofs.Fallible

/-!
# What passes do to a workpiece

Each standard pass is atomic: what it does is a function that gives a new workpiece or an error, and
with an error the workpiece stays as it was (`Performs`). A run of passes is a fold over these
functions that stops at the first error.
-/

namespace PulseTrain

variable {K : NoteKinds}

theorem Properties.requireQuantum_eq_ok {p : Properties K} {q : Quantum} :
    p.requireQuantum = .ok q ↔ p.quantum = some q := by
  unfold requireQuantum
  cases p.quantum with
  | none => simp
  | some q => simp

namespace Pass

/-- What a pass makes of a workpiece: whether it failed, and what it left. -/
def perform (p : Pass K) (w : Workpiece K) : Except CompileError Unit × Workpiece K :=
  p.action.run.run w

/-- A pass leaves what the function gives, and leaves the workpiece alone if that is an error. -/
def Performs (p : Pass K) (f : Workpiece K → Except CompileError (Workpiece K)) : Prop :=
  ∀ w, p.perform w =
    match f w with
    | .ok w' => (.ok (), w')
    | .error e => (.error e, w)

variable {p : Pass K} {f : Workpiece K → Except CompileError (Workpiece K)} {w w' : Workpiece K}
  {e : CompileError}

theorem Performs.perform_of_ok (hp : p.Performs f) (hf : f w = .ok w') :
    p.perform w = (.ok (), w') := by
  rw [hp w, hf]

theorem Performs.perform_of_error (hp : p.Performs f) (hf : f w = .error e) :
    p.perform w = (.error e, w) := by
  rw [hp w, hf]

end Pass

namespace Workpiece

variable {w w' : Workpiece K} {p : Pass K} {ps : List (Pass K)} {q : Quantum} {e : CompileError}
  {f : Workpiece K → Except CompileError (Workpiece K)}

/-! ## The three passes as functions -/

/-- The workpiece with its timeline on the grid. -/
def quantized (w : Workpiece K) : Except CompileError (Workpiece K) := do
  let q ← w.properties.requireQuantum
  let (timeline, collapsed) ← w.timeline.quantized q
  let properties := { w.properties with unitLength := some timeline.length }
  return ⟨timeline, properties.withNote .collapsed collapsed⟩

/-- The workpiece with its timeline repeated. -/
def repeated (w : Workpiece K) : Except CompileError (Workpiece K) := do
  let p := w.properties
  let q ← p.requireQuantum
  let (timeline, gap) ← w.timeline.repeated q p.repetitions p.interval
  let unitLength := p.unitLength <|> some w.timeline.length
  return ⟨timeline, { p with unitLength, gap := some gap }⟩

/-- The workpiece with a note on its verification. -/
def verified (w : Workpiece K) : Except CompileError (Workpiece K) :=
  let p := w.properties
  match w.timeline.verify p.quantum p.repetitions p.unitLength (p.gap.getD 0) with
  | .ok verification => .ok { w with properties := p.withNote .verification verification }
  | .error flaw => .error (.passFailed "verify_sequence" flaw.message)

theorem quantized_of_ok {t : Timeline} {collapsed : CollapsedSpans}
    (hq : w.properties.quantum = some q) (h : w.timeline.quantized q = .ok (t, collapsed)) :
    w.quantized = .ok ⟨t, { w.properties with unitLength := some t.length }.withNote .collapsed
      collapsed⟩ := by
  simp [quantized, Properties.requireQuantum, hq, h, bind, Except.bind, pure, Except.pure]

theorem quantized_of_error (hq : w.properties.quantum = some q)
    (h : w.timeline.quantized q = .error e) : w.quantized = .error e := by
  simp [quantized, Properties.requireQuantum, hq, h, bind, Except.bind]

theorem repeated_of_ok {t : Timeline} {gap : Nat} (hq : w.properties.quantum = some q)
    (h : w.timeline.repeated q w.properties.repetitions w.properties.interval = .ok (t, gap)) :
    w.repeated = .ok ⟨t, { w.properties with
      unitLength := w.properties.unitLength <|> some w.timeline.length
      gap := some gap }⟩ := by
  simp [repeated, Properties.requireQuantum, hq, h, bind, Except.bind, pure, Except.pure]

theorem repeated_of_error (hq : w.properties.quantum = some q)
    (h : w.timeline.repeated q w.properties.repetitions w.properties.interval = .error e) :
    w.repeated = .error e := by
  simp [repeated, Properties.requireQuantum, hq, h, bind, Except.bind]

theorem verified_of_ok {v : Verification} (h : w.timeline.verify w.properties.quantum
      w.properties.repetitions w.properties.unitLength (w.properties.gap.getD 0) = .ok v) :
    w.verified = .ok { w with properties := w.properties.withNote .verification v } := by
  simp [verified, h]

theorem verified_of_error {flaw : Flaw} (h : w.timeline.verify w.properties.quantum
      w.properties.repetitions w.properties.unitLength (w.properties.gap.getD 0) = .error flaw) :
    w.verified = .error (.passFailed "verify_sequence" flaw.message) := by
  simp [verified, h]

theorem performs_quantize : (Pass.quantize : Pass K).Performs quantized := by
  intro w
  unfold Pass.perform Pass.quantize quantized
  dsimp only
  rw [run_get_bind, run_lift_bind]
  cases w.properties.requireQuantum with
  | error e => rfl
  | ok q =>
    dsimp only
    rw [run_lift_bind]
    cases ht : w.timeline.quantized q with
    | error e => simp [bind, Except.bind, ht]
    | ok r =>
      simp only [bind, Except.bind, ht]
      rfl

theorem performs_expand : (Pass.expand : Pass K).Performs repeated := by
  intro w
  unfold Pass.perform Pass.expand repeated
  dsimp only
  rw [run_get_bind, run_lift_bind]
  cases w.properties.requireQuantum with
  | error e => rfl
  | ok q =>
    dsimp only
    rw [run_lift_bind]
    cases ht : w.timeline.repeated q w.properties.repetitions w.properties.interval with
    | error e => simp [bind, Except.bind, ht]
    | ok r =>
      simp only [bind, Except.bind, ht]
      rfl

theorem performs_verify : (Pass.verify : Pass K).Performs verified := by
  intro w
  unfold Pass.perform Pass.verify verified
  dsimp only
  rw [run_get_bind]
  cases w.timeline.verify w.properties.quantum w.properties.repetitions w.properties.unitLength
      (w.properties.gap.getD 0) with
  | error flaw => rfl
  | ok verification => rfl

/-! ## Runs -/

theorem process_nil (w : Workpiece K) : w.process [] = (.ok (), w) := rfl

/-- One pass after the other: the rest of a run sees what the pass left, if it did not fail. -/
theorem process_cons (w : Workpiece K) (p : Pass K) (ps : List (Pass K)) : w.process (p :: ps) =
    if p.shouldRun w then
      match p.perform w with
      | (.ok (), w') => w'.process ps
      | (.error e, w') => (.error e, w')
    else w.process ps := by
  have hstep : w.process (p :: ps) =
      ((do if p.shouldRun w then p.action : PassM K Unit) >>= fun _ => runPasses ps).run.run w :=
    rfl
  rw [hstep]
  by_cases hrun : p.shouldRun w = true
  · rw [if_pos hrun, if_pos hrun, run_bind]
    unfold Pass.perform
    cases hact : p.action.run.run w with
    | mk r w' =>
      cases r with
      | ok a => rfl
      | error e => rfl
  · rw [if_neg hrun, if_neg hrun]
    rfl

/-- A pass that has something to do and succeeds hands its workpiece to the next pass. -/
theorem process_cons_of_ok (hp : p.Performs f) (hrun : p.shouldRun w = true) (hf : f w = .ok w') :
    w.process (p :: ps) = w'.process ps := by
  rw [process_cons, if_pos hrun, hp.perform_of_ok hf]

/-- The first failure ends the run. -/
theorem process_cons_of_error (hp : p.Performs f) (hrun : p.shouldRun w = true)
    (hf : f w = .error e) : w.process (p :: ps) = (.error e, w) := by
  rw [process_cons, if_pos hrun, hp.perform_of_error hf]

/-- A pass that has nothing to do is left out. -/
theorem process_cons_of_skip (hskip : p.shouldRun w = false) :
    w.process (p :: ps) = w.process ps := by
  rw [process_cons, hskip, if_neg Bool.false_ne_true]

end Workpiece

end PulseTrain
