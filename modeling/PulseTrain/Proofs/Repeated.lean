import Mathlib.Tactic.Ring
import PulseTrain.Proofs.Builder
import PulseTrain.Proofs.Grid
import PulseTrain.Timeline.Repeated

/-!
# Repetitions are periodic

Playing a unit several times renders the periodic continuation of its waveform, with all lines off
over the gaps. Every copy begins at a multiple of the period, so the copies do not drift, and the
last one ends without a gap behind it.
-/

namespace PulseTrain

namespace Waveform

/-- A unit of some length, repeated for ever with a gap behind each repetition. -/
def repeated (w : Waveform) (unit gap : Nat) : Waveform := fun t =>
  let u := t % (unit + gap)
  if u < unit then w u else .off

variable {w : Waveform} {unit gap i : Nat}

theorem add_mod_period (k : Nat) (hi : i < unit + gap) :
    (k * (unit + gap) + i) % (unit + gap) = i := by
  rw [Nat.add_comm, Nat.add_mul_mod_self_right, Nat.mod_eq_of_lt hi]

/-- Every repetition looks like the first, and so does the gap behind it. -/
theorem repeated_add (k : Nat) (hi : i < unit + gap) :
    w.repeated unit gap (k * (unit + gap) + i) = w.repeated unit gap i := by
  unfold repeated
  rw [add_mod_period k hi, Nat.mod_eq_of_lt hi]

/-- A repetition shows the unit. -/
theorem repeated_unit (k : Nat) (hi : i < unit) :
    w.repeated unit gap (k * (unit + gap) + i) = w i := by
  unfold repeated
  rw [add_mod_period k (by omega), if_pos hi]

/-- All lines are off over the gaps. -/
theorem repeated_gap (k : Nat) (hi : unit ≤ i) (hgap : i < unit + gap) :
    w.repeated unit gap (k * (unit + gap) + i) = .off := by
  unfold repeated
  rw [add_mod_period k hgap, if_neg (not_lt.mpr hi)]

/-- If the unit and the gap are multiples of a quantum, then repetition keeps a waveform constant
over each tick. -/
theorem repeated_floor {q : Quantum} (hpos : 0 < unit) (hunit : q.ns ∣ unit) (hgap : q.ns ∣ gap)
    (hw : ∀ i, w (q.floor i) = w i) (i : Nat) :
    w.repeated unit gap (q.floor i) = w.repeated unit gap i := by
  have hperiod : q.ns ∣ i / (unit + gap) * (unit + gap) :=
    Dvd.dvd.mul_left (Nat.dvd_add hunit hgap) _
  have hu : i % (unit + gap) < unit + gap := Nat.mod_lt _ (by omega)
  have hfloor : q.floor (i % (unit + gap)) < unit + gap := (q.floor_le _).trans_lt hu
  rw [← Nat.div_add_mod' i (unit + gap), q.floor_add_of_dvd hperiod]
  unfold repeated
  rw [add_mod_period _ hu, add_mod_period _ hfloor]
  simp only [q.floor_lt_of_dvd_iff hunit, hw]

end Waveform

/-- There is one gap less than there are units, and none at the end. -/
theorem repeatedLength_succ (n unit gap : Nat) :
    repeatedLength (n + 1) unit gap = n * (unit + gap) + unit := by
  unfold repeatedLength
  rw [Nat.add_sub_cancel]
  ring

namespace TimelineBuilder

open Timeline

variable {b : TimelineBuilder} {spans : List Span} {k p gap : Nat} {w : Waveform}

/-- A copy of a unit renders what the waveform shows from the beginning of the copy on. -/
theorem appendUnit_renders (htile : TilesFrom p spans) (hshow : Shows (fun i => w (k + i)) spans)
    (hb : b.timeline.Renders (k + p) w) (hlt : k + endFrom p spans < Nanoseconds.limit) :
    ∃ b', b.appendUnit spans = .ok b' ∧ b'.timeline.Renders (k + endFrom p spans) w := by
  induction spans generalizing p b with
  | nil => exact ⟨b, rfl, hb⟩
  | cons s rest ih =>
    obtain ⟨rfl, hpos, -, hrest⟩ := htile
    rw [endFrom_cons] at hlt ⊢
    have hend := hrest.le_endFrom
    have hstop : k + s.start + s.duration = k + s.stop := by
      unfold Span.duration
      lia
    have hstate : ∀ i, k + s.start ≤ i → i < k + s.start + s.duration → w i = s.state := by
      intro i h1 h2
      rw [hstop] at h2
      have hi := hshow.head (i - k) ⟨by lia, by lia⟩
      rwa [show k + (i - k) = i by lia] at hi
    obtain ⟨b1, hpush, hb1⟩ := push_renders hb (by lia) hstate
    rw [hstop] at hb1
    obtain ⟨b', hunit, hb'⟩ := ih hrest hshow.tail hb1 hlt
    refine ⟨b', ?_, hb'⟩
    unfold appendUnit
    rw [List.foldlM_cons, hpush]
    exact hunit

/-- A unit that is appended to nothing gives the timeline of the unit. -/
theorem appendUnit_spans {t : Timeline} (ht : t.Canonical) (hlt : t.length < Nanoseconds.limit) :
    ∃ b, empty.appendUnit t.spans = .ok b ∧ b.timeline = t := by
  obtain ⟨w, hw⟩ := ht.exists_renders
  have hend : endFrom 0 t.spans = t.length := rfl
  have hcopy : Shows (fun i => w (0 + i)) t.spans := by
    simpa only [Nat.zero_add] using hw.shows
  obtain ⟨b, hb, hrenders⟩ := appendUnit_renders ht hcopy (renders_empty w)
    (by rw [Nat.zero_add, hend]; exact hlt)
  rw [Nat.zero_add, hend] at hrenders
  exact ⟨b, hb, hrenders.unique hw⟩

/-- Each round appends one gap and one copy of the unit, so it moves on by one period. -/
theorem appendRepetitions_renders {unit : List Span} {n : Nat} (htile : TilesFrom 0 unit)
    (hend : endFrom 0 unit = n) (hshow : Shows w unit) (m : Nat)
    (hb : b.timeline.Renders (k * (n + gap) + n) (w.repeated n gap))
    (hlt : (k + m) * (n + gap) + n < Nanoseconds.limit) :
    ∃ b', appendRepetitions unit gap m b = .ok b' ∧
      b'.timeline.Renders ((k + m) * (n + gap) + n) (w.repeated n gap) := by
  induction m generalizing k b with
  | zero => exact ⟨b, rfl, hb⟩
  | succ m ih =>
    have hround : k + (m + 1) = (k + 1) + m := by omega
    rw [hround] at hlt ⊢
    have hnext : (k + 1) * (n + gap) + n < Nanoseconds.limit :=
      (Nat.add_le_add_right (Nat.mul_le_mul_right _ (Nat.le_add_right _ _)) _).trans_lt hlt
    have hperiod : k * (n + gap) + n + gap = (k + 1) * (n + gap) := by ring
    have hoff : ∀ i, k * (n + gap) + n ≤ i → i < k * (n + gap) + n + gap →
        w.repeated n gap i = .off := by
      intro i h1 h2
      obtain ⟨j, rfl⟩ := Nat.exists_eq_add_of_le ((Nat.le_add_right _ _).trans h1)
      exact Waveform.repeated_gap k (by omega) (by omega)
    obtain ⟨b1, hpush, hb1⟩ := push_renders hb (by omega) hoff
    rw [hperiod] at hb1
    -- The copy sees the waveform from a multiple of the period on.
    have hcopy : Shows (fun i => w.repeated n gap ((k + 1) * (n + gap) + i)) unit := by
      intro s hs i hi
      have hlast := (htile.bounds hs).2.2
      rw [hend] at hlast
      show w.repeated n gap ((k + 1) * (n + gap) + i) = s.state
      rw [Waveform.repeated_unit (k + 1) (hi.2.trans_le hlast)]
      exact hshow s hs i hi
    obtain ⟨b2, hunit, hb2⟩ := appendUnit_renders htile hcopy hb1 (by rw [hend]; exact hnext)
    rw [hend] at hb2
    obtain ⟨b', hrest, hb'⟩ := ih hb2 hlt
    refine ⟨b', ?_, hb'⟩
    show (b.push gap .off >>= fun b => b.appendUnit unit >>= appendRepetitions unit gap m) = _
    rw [hpush]
    show (b1.appendUnit unit >>= appendRepetitions unit gap m) = _
    rw [hunit]
    exact hrest

end TimelineBuilder

namespace Timeline

variable {t : Timeline} {q : Quantum} {n repetitions interval : Nat} {w : Waveform}

/-- No push fails if the whole fits in the counter: what has been appended ends before the whole
does. -/
theorem pushes_render {gap : Nat} (ht : t.Renders n w) (hrep : 1 ≤ repetitions)
    (hlt : repeatedLength repetitions n gap < Nanoseconds.limit) :
    ∃ first all, TimelineBuilder.empty.appendUnit t.spans = .ok first ∧
      TimelineBuilder.appendRepetitions t.spans gap (repetitions - 1) first = .ok all ∧
      all.timeline.Renders (repeatedLength repetitions n gap) (w.repeated n gap) := by
  obtain ⟨m, rfl⟩ := Nat.exists_eq_add_of_le' hrep
  have hend : endFrom 0 t.spans = n := ht.length
  rw [repeatedLength_succ] at hlt ⊢
  have hfits : t.length < Nanoseconds.limit :=
    ht.length.trans_lt ((Nat.le_add_left n _).trans_lt hlt)
  obtain ⟨first, hunit, rfl⟩ := TimelineBuilder.appendUnit_spans ht.canonical hfits
  have hstart : first.timeline.Renders (0 * (n + gap) + n) (w.repeated n gap) := by
    rw [Nat.zero_mul, Nat.zero_add]
    refine ht.congr fun i hi => ?_
    have hfirst : w.repeated n gap (0 * (n + gap) + i) = w i := Waveform.repeated_unit 0 hi
    rwa [Nat.zero_mul, Nat.zero_add] at hfirst
  obtain ⟨all, hrest, hall⟩ := TimelineBuilder.appendRepetitions_renders ht.canonical hend
    ht.shows m hstart (by rw [Nat.zero_add]; exact hlt)
  rw [Nat.zero_add] at hall
  exact ⟨first, all, hunit, hrest, hall⟩

/-- Repetition renders the periodic continuation of a waveform, if the gap and the whole fit in the
counter. -/
theorem repeated_renders (ht : t.Renders n w) (hn : 0 < n) (hrep : 1 ≤ repetitions)
    (hgap : q.ceil interval < Nanoseconds.limit)
    (hlt : repeatedLength repetitions n (q.ceil interval) < Nanoseconds.limit) :
    ∃ u, t.repeated q repetitions interval = .ok (u, q.ceil interval) ∧
      u.Renders (repeatedLength repetitions n (q.ceil interval))
        (w.repeated n (q.ceil interval)) := by
  obtain ⟨first, all, hunit, hrest, hall⟩ := pushes_render ht hrep hlt
  refine ⟨all.timeline, ?_, hall⟩
  unfold repeated
  rw [if_neg (by omega), ht.length, if_neg hn.ne', q.alignUp_eq,
    Nanoseconds.check?_of_lt hgap]
  dsimp only
  rw [repeatedLength?_eq, Nanoseconds.check?_of_lt hlt, hunit]
  show ((TimelineBuilder.appendRepetitions t.spans (q.ceil interval) (repetitions - 1)
    first).mapError CompileError.ofModel >>= fun all => .ok (all.timeline, q.ceil interval)) = _
  rw [hrest]
  rfl

/-- Repetition fails if the gap or the whole does not fit in the counter. -/
theorem repeated_of_le (hn : 0 < t.length) (hrep : 1 ≤ repetitions)
    (hle : Nanoseconds.limit ≤ q.ceil interval ∨
      Nanoseconds.limit ≤ repeatedLength repetitions t.length (q.ceil interval)) :
    ∃ quantity, t.repeated q repetitions interval = .error (.overflow quantity) := by
  unfold repeated
  rw [if_neg (by omega), if_neg hn.ne', q.alignUp_eq]
  rcases lt_or_ge (q.ceil interval) Nanoseconds.limit with hgap | hgap
  · have hlen := hle.resolve_left (not_le.mpr hgap)
    rw [Nanoseconds.check?_of_lt hgap]
    dsimp only
    rw [repeatedLength?_eq, Nanoseconds.check?_eq_none_iff.mpr hlen]
    exact ⟨_, rfl⟩
  · rw [Nanoseconds.check?_eq_none_iff.mpr hgap]
    exact ⟨_, rfl⟩

/-- Only a unit that has a length is repeated, at least once, and if all lengths fit. -/
theorem repeated_inv {u : Timeline} {gap : Nat} (ht : t.Renders n w)
    (h : t.repeated q repetitions interval = .ok (u, gap)) :
    0 < n ∧ 1 ≤ repetitions ∧ gap = q.ceil interval ∧
      u.Renders (repeatedLength repetitions n gap) (w.repeated n gap) := by
  have hrep : 1 ≤ repetitions := by
    by_contra hzero
    have hnone : repetitions = 0 := by omega
    simp [repeated, hnone, throw, throwThe, MonadExceptOf.throw, bind, Except.bind] at h
  have hpos : 0 < t.length := by
    by_contra hzero
    have hempty : t.length = 0 := Nat.eq_zero_of_not_pos hzero
    have hsome : repetitions ≠ 0 := by omega
    simp [repeated, hsome, hempty, throw, throwThe, MonadExceptOf.throw, bind, Except.bind] at h
  have hfits : ¬ (Nanoseconds.limit ≤ q.ceil interval ∨
      Nanoseconds.limit ≤ repeatedLength repetitions t.length (q.ceil interval)) := by
    intro hle
    obtain ⟨quantity, herror⟩ := repeated_of_le hpos hrep hle
    rw [herror] at h
    exact absurd h (by simp)
  rw [ht.length] at hpos hfits
  rw [not_or, not_le, not_le] at hfits
  obtain ⟨v, hok, hv⟩ := repeated_renders ht hpos hrep hfits.1 hfits.2
  obtain ⟨rfl, rfl⟩ := Prod.mk.inj (Except.ok.inj (h.symm.trans hok))
  exact ⟨hpos, hrep, rfl, hv⟩

end Timeline

end PulseTrain
