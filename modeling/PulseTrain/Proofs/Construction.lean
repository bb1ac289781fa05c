import PulseTrain.Proofs.Builder
import PulseTrain.Proofs.Reading

/-!
# Runs of calls on a builder

A builder is called again and again, with instants that may lie in the past and durations that may
be too long. Whatever is called, the timeline stays canonical, and a call only ever adds at the end:
an instant keeps the state that it got from the call that first went past it.
-/

namespace PulseTrain.TimelineBuilder

open Timeline

/-- What a builder can be asked for. -/
inductive Call where
  /-- To hold a state up to an instant. -/
  | extendTo (stop : Nanoseconds) (state : ChannelState)
  /-- To hold a state for a time. -/
  | push (duration : Nanoseconds) (state : ChannelState)

/-- What a call returns, and the builder that is there afterwards. A push that fails gives no new
builder, so the old one remains. -/
def call (b : TimelineBuilder) : Call → Except ModelError Unit × TimelineBuilder
  | .extendTo stop state => (.ok (), b.extendTo stop state)
  | .push duration state =>
    match b.push duration state with
    | .ok b' => (.ok (), b')
    | .error e => (.error e, b)

/-- The builder after a run of calls. A call that fails does not end the run. -/
def calls (b : TimelineBuilder) (cs : List Call) : TimelineBuilder :=
  cs.foldl (fun b c => (b.call c).2) b

/-- One builder goes on from another: the timeline is unchanged before the old cursor, and holds a
state from there up to the new cursor, `n`. -/
structure Holds (b : TimelineBuilder) (n : Nat) (σ : ChannelState) (b' : TimelineBuilder) :
    Prop where
  /-- The timeline is canonical. -/
  canonical : b'.timeline.Canonical
  /-- It ends at the new cursor. -/
  cursor : b'.cursor = n
  /-- What was there remains. -/
  before : ∀ i < b.cursor, b'.timeline.stateAt i = b.timeline.stateAt i
  /-- What is new is in the state. -/
  after : ∀ i, b.cursor ≤ i → i < n → b'.timeline.stateAt i = some σ

variable {b b' : TimelineBuilder} {m n d : Nat} {σ : ChannelState} {c : Call} {cs : List Call}

/-! ## Single calls -/

/-- Extending holds the state up to the instant, or does nothing if that lies in the past. -/
theorem holds_extendTo (h : b.timeline.Canonical) (m : Nat) (σ : ChannelState) :
    Holds b (max b.cursor m) σ (b.extendTo m σ) := by
  -- The waveform is fixed beforehand: the timeline so far, and the state from the cursor on.
  let w : Waveform := fun i => if i < b.cursor then b.timeline.waveform i else σ
  have hcursor := b.cursor_eq_length
  have hold : b.timeline.Renders b.cursor b.timeline.waveform := hcursor ▸ h.renders
  have hnow : b.timeline.Renders b.cursor w := hold.congr fun i hi => if_pos hi
  have hnext := extendTo_renders hnow fun i hi (_ : i < m) => if_neg (not_lt.mpr hi)
  refine ⟨hnext.canonical, cursor_of_renders hnext, fun i hi => ?_, fun i hle hi => ?_⟩
  · rw [hnext.stateAt_eq, hnow.stateAt_eq, if_pos hi, if_pos (hi.trans_le (le_max_left _ _))]
  · rw [hnext.stateAt_eq, if_pos hi]
    exact congrArg some (if_neg (not_lt.mpr hle))

theorem call_push_of_lt (h : b.cursor + d < Nanoseconds.limit) :
    b.call (.push d σ) = (.ok (), b.extendTo (b.cursor + d) σ) := by
  simp only [call, push_of_lt h]

theorem call_push_of_le (h : Nanoseconds.limit ≤ b.cursor + d) :
    b.call (.push d σ) = (.error (.overflow "timeline length"), b) := by
  simp only [call, push_of_le h]

/-- Each call extends the builder, be it by nothing. -/
theorem exists_call_eq_extendTo (b : TimelineBuilder) (c : Call) :
    ∃ m σ, (b.call c).2 = b.extendTo m σ := by
  cases c with
  | extendTo stop state => exact ⟨stop, state, rfl⟩
  | push duration state =>
    rcases lt_or_ge (b.cursor + duration) Nanoseconds.limit with hlt | hle
    · exact ⟨_, state, congrArg Prod.snd (call_push_of_lt hlt)⟩
    · have hsame : b.extendTo b.cursor state = b := if_pos le_rfl
      exact ⟨b.cursor, state, (congrArg Prod.snd (call_push_of_le hle)).trans hsame.symm⟩

/-! ## Runs -/

theorem calls_cons (b : TimelineBuilder) (c : Call) (cs : List Call) :
    b.calls (c :: cs) = (b.call c).2.calls cs := rfl

theorem calls_append (b : TimelineBuilder) (cs later : List Call) :
    b.calls (cs ++ later) = (b.calls cs).calls later :=
  List.foldl_append

/-- A run keeps a timeline canonical, and it keeps what was there before the run. -/
theorem calls_keep (h : b.timeline.Canonical) (cs : List Call) :
    (b.calls cs).timeline.Canonical ∧ b.cursor ≤ (b.calls cs).cursor ∧
      ∀ i < b.cursor, (b.calls cs).timeline.stateAt i = b.timeline.stateAt i := by
  induction cs generalizing b with
  | nil => exact ⟨h, le_rfl, fun i _ => rfl⟩
  | cons c cs ih =>
    obtain ⟨m, σ, hc⟩ := b.exists_call_eq_extendTo c
    have hstep := holds_extendTo h m σ
    rw [calls_cons, hc]
    obtain ⟨hcan, hcursor, hkept⟩ := ih hstep.canonical
    have hle : b.cursor ≤ (b.extendTo m σ).cursor := hstep.cursor ▸ le_max_left _ _
    refine ⟨hcan, hle.trans hcursor, fun i hi => ?_⟩
    rw [hkept i (hi.trans_le hle), hstep.before i hi]

/-- What a builder does after any run of calls. The timeline is canonical. Extending it holds the
state up to the instant that is given, if that is past the cursor, and leaves alone what is there.
So does a push, up to the cursor and the duration, unless their sum exceeds the range of the
counter, in which case it fails and changes nothing. Later calls change nothing before the cursor
either. -/
theorem calls_outcome (cs : List Call) :
    let b := empty.calls cs
    b.timeline.Canonical ∧
    (∀ stop σ, ∃ b', b.call (.extendTo stop σ) = (.ok (), b') ∧
      Holds b (max b.cursor stop) σ b') ∧
    (∀ d σ, (b.call (.push d σ) = (.error (.overflow "timeline length"), b) ↔
        Nanoseconds.limit ≤ b.cursor + d) ∧
      (b.cursor + d < Nanoseconds.limit →
        ∃ b', b.call (.push d σ) = (.ok (), b') ∧ Holds b (b.cursor + d) σ b')) ∧
    ∀ later, b.cursor ≤ (empty.calls (cs ++ later)).cursor ∧
      ∀ i < b.cursor, (empty.calls (cs ++ later)).timeline.stateAt i = b.timeline.stateAt i := by
  intro b
  have hcan : b.timeline.Canonical := (calls_keep (renders_empty fun _ => .off).canonical cs).1
  refine ⟨hcan, fun stop σ => ⟨_, rfl, holds_extendTo hcan stop σ⟩, fun d σ => ⟨?_, ?_⟩,
    fun later => ?_⟩
  · constructor
    · intro hfails
      by_contra hlt
      rw [call_push_of_lt (not_le.mp hlt)] at hfails
      exact absurd hfails (by simp)
    · exact call_push_of_le
  · intro hlt
    have hstep := holds_extendTo hcan (b.cursor + d) σ
    rw [max_eq_right (Nat.le_add_right _ _)] at hstep
    exact ⟨_, call_push_of_lt hlt, hstep⟩
  · rw [calls_append]
    exact (calls_keep hcan later).2

/-- One instant lies in the past, and one duration is too long. -/
theorem calls_outcome_interleaved :
    let b := empty.calls [.push 8 (.ofNat 1), .extendTo 4 (.ofNat 2),
      .push Nanoseconds.limit .off, .extendTo 16 (.ofNat 1)]
    b.timeline.Canonical ∧
      b.call (.push (Nanoseconds.limit - 16) .off) =
        (.error (.overflow "timeline length"), b) ∧
      ∃ b', b.call (.push 8 .off) = (.ok (), b') ∧ b'.timeline.stateAt 20 = some .off := by
  intro b
  obtain ⟨hcan, -, hpush, -⟩ := calls_outcome [.push 8 (.ofNat 1), .extendTo 4 (.ofNat 2),
    .push Nanoseconds.limit .off, .extendTo 16 (.ofNat 1)]
  obtain ⟨hfails, -⟩ := hpush (Nanoseconds.limit - 16) .off
  obtain ⟨-, hholds⟩ := hpush 8 .off
  obtain ⟨b', hb', hstep⟩ := hholds (by decide)
  exact ⟨hcan, hfails.mpr (by decide), b', hb', hstep.after 20 (by decide) (by decide)⟩

end PulseTrain.TimelineBuilder
