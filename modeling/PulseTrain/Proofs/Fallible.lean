/-!
# Computations that can fail

What a computation in two parts comes to, and what working through a list comes to, can be read off
the parts and the items. A computation may also leave a state behind, whether or not it fails.
-/

namespace PulseTrain

variable {ε ε' α β : Type}

/-- A computation in two parts succeeds iff both parts do. -/
theorem bind_eq_ok {r : Except ε α} {k : α → Except ε β} {b : β} :
    r >>= k = .ok b ↔ ∃ a, r = .ok a ∧ k a = .ok b := by
  cases r with
  | ok a => simp [bind, Except.bind]
  | error e => simp [bind, Except.bind]

/-- It fails iff the first part does, or the second after it. -/
theorem bind_eq_error {r : Except ε α} {k : α → Except ε β} {e : ε} :
    r >>= k = .error e ↔ r = .error e ∨ ∃ a, r = .ok a ∧ k a = .error e := by
  cases r with
  | ok a => simp [bind, Except.bind]
  | error e' => simp [bind, Except.bind]

theorem map_eq_ok {r : Except ε α} {f : α → β} {b : β} :
    f <$> r = .ok b ↔ ∃ a, r = .ok a ∧ f a = b := by
  cases r with
  | ok a =>
    show Except.ok (f a) = Except.ok b ↔ _
    simp
  | error e =>
    show Except.error e = Except.ok b ↔ _
    simp

theorem map_eq_error {r : Except ε α} {f : α → β} {e : ε} :
    f <$> r = .error e ↔ r = .error e := by
  cases r with
  | ok a =>
    show Except.ok (f a) = Except.error e ↔ _
    simp
  | error e' =>
    show Except.error e' = Except.error e ↔ _
    simp

theorem pure_ne_error {a : α} {e : ε} : (pure a : Except ε α) ≠ .error e := nofun

theorem throw_ne_ok {e : ε} {a : α} : (throw e : Except ε α) ≠ .ok a := nofun

/-- A guarded value is given iff the guard holds. -/
theorem guarded_eq_ok {P : Prop} [Decidable P] {a b : α} {e : ε} :
    (if P then Except.ok a else .error e) = .ok b ↔ b = a ∧ P := by
  by_cases h : P
  · simp [h, eq_comm]
  · simp [h]

theorem guarded_eq_error {P : Prop} [Decidable P] {a : α} {d e : ε} :
    (if P then Except.ok a else .error e) = .error d ↔ d = e ∧ ¬ P := by
  by_cases h : P
  · simp [h]
  · simp [h, eq_comm]

theorem mapError_eq_ok {r : Except ε α} {f : ε → ε'} {a : α} :
    r.mapError f = .ok a ↔ r = .ok a := by
  cases r with
  | ok b =>
    show Except.ok b = Except.ok a ↔ _
    rw [Except.ok.injEq, Except.ok.injEq]
  | error e =>
    show Except.error (f e) = Except.ok a ↔ _
    simp

theorem mapError_eq_error {r : Except ε α} {f : ε → ε'} {e' : ε'} :
    r.mapError f = .error e' ↔ ∃ e, r = .error e ∧ f e = e' := by
  cases r with
  | ok b =>
    show Except.ok b = Except.error e' ↔ _
    simp
  | error e =>
    show Except.error (f e) = Except.error e' ↔ _
    simp

/-! ## Lists -/

variable {f : α → Except ε β} {xs : List α} {ys : List β}

/-- A list is worked through iff every item succeeds. -/
theorem mapM_eq_ok : xs.mapM f = .ok ys ↔ xs.map f = ys.map .ok := by
  induction xs generalizing ys with
  | nil =>
    cases ys with
    | nil => simp [pure, Except.pure]
    | cons y ys => simp [pure, Except.pure]
  | cons x xs ih =>
    rw [List.mapM_cons, bind_eq_ok]
    constructor
    · rintro ⟨y, hy, h⟩
      obtain ⟨ys', hys, h⟩ := bind_eq_ok.mp h
      obtain rfl : y :: ys' = ys := Except.ok.inj h
      rw [List.map_cons, List.map_cons, hy, ih.mp hys]
    · intro h
      cases ys with
      | nil => simp at h
      | cons y ys' =>
        rw [List.map_cons, List.map_cons] at h
        obtain ⟨hy, hys⟩ := List.cons.inj h
        exact ⟨y, hy, bind_eq_ok.mpr ⟨ys', ih.mpr hys, rfl⟩⟩

/-- If that fails, then because of one of the items. -/
theorem exists_of_mapM_eq_error {e : ε} (h : xs.mapM f = .error e) : ∃ x ∈ xs, f x = .error e := by
  induction xs with
  | nil => exact absurd h pure_ne_error
  | cons x xs ih =>
    rw [List.mapM_cons] at h
    rcases bind_eq_error.mp h with hx | ⟨y, -, h⟩
    · exact ⟨x, List.mem_cons_self, hx⟩
    · rcases bind_eq_error.mp h with hxs | ⟨ys, -, h⟩
      · obtain ⟨z, hz, he⟩ := ih hxs
        exact ⟨z, List.mem_cons_of_mem _ hz, he⟩
      · exact absurd h pure_ne_error

/-! ## Computations that leave a state -/

section Stateful

variable {σ : Type} (s : σ)

theorem run_get_bind (k : σ → ExceptT ε (StateM σ) β) :
    (get >>= k).run.run s = (k s).run.run s := rfl

/-- What comes second sees what the first left, if that did not fail. -/
theorem run_bind (m : ExceptT ε (StateM σ) α) (k : α → ExceptT ε (StateM σ) β) :
    (m >>= k).run.run s =
      match m.run.run s with
      | (.ok a, s') => (k a).run.run s'
      | (.error e, s') => (.error e, s') := by
  show (match m.run.run s with | (r, s') => ExceptT.bindCont k r s') = _
  obtain ⟨r, s'⟩ := m.run.run s
  cases r with
  | ok a => rfl
  | error e => rfl

/-- A computation that does not look at the state leaves it alone. -/
theorem run_lift_bind (r : Except ε α) (k : α → ExceptT ε (StateM σ) β) :
    ((liftM r : ExceptT ε (StateM σ) α) >>= k).run.run s =
      match r with
      | .ok a => (k a).run.run s
      | .error e => (.error e, s) := by
  rw [run_bind]
  cases r with
  | ok a => rfl
  | error e => rfl

end Stateful

end PulseTrain
