import PulseTrain.Proofs.Declared
import PulseTrain.Proofs.Segments
import PulseTrain.Proofs.Words
import PulseTrain.Report.Table

/-!
# Segment tables that can be read back

Without colours, the words of a line of the table are the number of the segment, its beginning, its
duration and one word for each channel, however wide they are. The names of the channels stand in
the title only, and so they cannot be taken for cells. `read` finds the sequence in the text.
-/

namespace PulseTrain

namespace Table

open CompiledSequence Text Column

variable {channels : ChannelSet} {g : Segment} {s : CompiledSequence} {number start : Nat}

/-! ## The text -/

/-- The words for the levels of the channels. -/
def levels (channels : ChannelSet) (state : ChannelState) : List String :=
  channels.ids.map fun c => if state.isOn c then "ON" else "-"

theorem isWord_of_mem_levels {state : ChannelState} {w : String} (hw : w ∈ levels channels state) :
    IsWord w := by
  obtain ⟨c, -, rfl⟩ := List.mem_map.mp hw
  cases state.isOn c with
  | false =>
    have hsolid : isBlank '-' = false := by decide
    exact ⟨by simp, by simpa using hsolid⟩
  | true =>
    have hsolid : isBlank 'O' = false ∧ isBlank 'N' = false := by decide
    exact ⟨by simp, by simpa using hsolid⟩

/-- Without colours the cells of a line are padded words. -/
theorem row_eq (channels : ChannelSet) (number : Nat) (start : Nanoseconds) (g : Segment) :
    row channels false number start g =
      lead (toString number) (toString start) (toString g.duration) ++
        String.join ((levels channels g.state).map fun w => "  " ++ centered 10 w) := by
  unfold levels
  rw [List.map_map]
  rfl

theorem words_lead {a b c : String} (ha : IsWord a) (hb : IsWord b) (hc : IsWord c) :
    words (lead a b c) = [a, b, c] := by
  unfold lead
  rw [← blanks_two, words_append_gap, words_append_gap, ha.words_right, hb.words_right,
    hc.words_right]
  rfl

theorem words_row (channels : ChannelSet) (number : Nat) (start : Nanoseconds) (g : Segment) :
    words (row channels false number start g) =
      toString number :: toString start :: toString g.duration :: levels channels g.state := by
  have hlead := words_lead (Decimal.isWord_toString number) (Decimal.isWord_toString start)
    (Decimal.isWord_toString g.duration)
  rw [row_eq, words_append_columns fun w => isWord_of_mem_levels, hlead]
  rfl

theorem unbroken_lead {a b c : String} (ha : Unbroken a) (hb : Unbroken b) (hc : Unbroken c) :
    Unbroken (lead a b c) := by
  unfold lead
  simp only [unbroken_append, unbroken_right]
  exact ⟨⟨⟨⟨ha, unbroken_gap⟩, hb⟩, unbroken_gap⟩, hc⟩

theorem unbroken_header (h : ∀ name ∈ channels.names, Unbroken name) :
    Unbroken (header channels) := by
  unfold header
  rw [unbroken_append]
  refine ⟨unbroken_lead ?_ ?_ ?_, unbroken_columns h 10⟩
  · simp [Unbroken]
  · simp [Unbroken]
  · simp [Unbroken]

theorem unbroken_row : Unbroken (row channels false number start g) := by
  have hnumber := (Decimal.isWord_toString number).unbroken
  have hstart := (Decimal.isWord_toString start).unbroken
  have hduration := (Decimal.isWord_toString g.duration).unbroken
  rw [row_eq, unbroken_append]
  refine ⟨unbroken_lead hnumber hstart hduration, unbroken_columns ?_ 10⟩
  exact fun w hw => (isWord_of_mem_levels hw).unbroken

/-- The table has the lines that it is made from. -/
theorem lines_render (h : ∀ name ∈ channels.names, Unbroken name) :
    Text.lines (render s channels false) = lines s channels false := by
  unfold render
  apply lines_join
  unfold lines
  rw [List.forall_mem_cons]
  refine ⟨unbroken_header h, fun l hl => ?_⟩
  obtain ⟨i, hi, rfl⟩ := List.mem_mapIdx.mp hl
  exact unbroken_row

/-! ## Reading -/

/-- The state that is on where the cells say so. -/
def readState (cells : List String) : ChannelState :=
  .ofChannels (((List.range cells.length).filter fun i => cells[i]? = some "ON").map ChannelId.mk)

/-- The segment of a line; refused is a line that has no duration in its third column. -/
def readRow (line : String) : Except String Segment :=
  match Text.words line with
  | _ :: _ :: duration :: cells =>
    match Decimal.digits? duration.toList with
    | some n => .ok ⟨readState cells, n⟩
    | none => .error line
  | _ => .error line

/-- The sequence of a table. The title is skipped. -/
def read (text : String) : Except String CompiledSequence :=
  (fun segments => ⟨segments, duration segments⟩) <$> (Text.lines text).tail.mapM readRow

theorem isOn_readState {cells : List String} (hcells : cells.length ≤ ChannelState.capacity)
    (c : ChannelId) : (readState cells).isOn c = true ↔ cells[c.index]? = some "ON" := by
  unfold readState
  rw [ChannelState.isOn_ofChannels]
  · simp only [List.mem_map, List.mem_filter, List.mem_range, decide_eq_true_eq]
    constructor
    · rintro ⟨i, ⟨-, hon⟩, rfl⟩
      exact hon
    · intro hon
      exact ⟨c.index, ⟨(List.getElem?_eq_some_iff.mp hon).1, hon⟩, rfl⟩
  · intro d hd
    obtain ⟨i, hi, rfl⟩ := List.mem_map.mp hd
    exact (List.mem_range.mp (List.mem_filter.mp hi).1).trans_le hcells

/-- A state is found in its cells if it is off beyond the declared channels. -/
theorem readState_levels {state : ChannelState}
    (hstate : ∀ c, state.isOn c = true → channels.contains c = true) :
    readState (levels channels state) = state := by
  have hlength : (levels channels state).length ≤ ChannelState.capacity := by
    unfold levels
    rw [List.length_map, ChannelStore.length_ids]
    exact channels.length_le
  apply ChannelState.ext_isOn
  intro c
  rw [Bool.eq_iff_iff, isOn_readState hlength, levels, List.getElem?_map, Option.map_eq_some_iff]
  constructor
  · rintro ⟨d, hd, hon⟩
    obtain ⟨rfl, -⟩ := ChannelStore.getElem?_ids_eq_some_iff.mp hd
    by_contra hoff
    rw [if_neg hoff] at hon
    exact absurd hon (by decide)
  · intro hon
    have hdecl := ChannelStore.contains_iff.mp (hstate c hon)
    exact ⟨c, ChannelStore.getElem?_ids_eq_some_iff.mpr ⟨rfl, hdecl⟩, if_pos hon⟩

theorem readRow_eq_ok {line a b duration : String} {cells : List String} {n : Nat}
    (hwords : Text.words line = a :: b :: duration :: cells)
    (hduration : Decimal.digits? duration.toList = some n) :
    readRow line = .ok ⟨readState cells, n⟩ := by
  unfold readRow
  rw [hwords]
  dsimp only
  rw [hduration]

theorem readRow_row (hg : ∀ c, g.state.isOn c = true → channels.contains c = true) :
    readRow (row channels false number start g) = .ok g := by
  have hwords := words_row channels number start g
  have hread := readRow_eq_ok hwords (Decimal.digits?_toString g.duration)
  rw [readState_levels hg] at hread
  exact hread

theorem read_render (h : ∀ name ∈ channels.names, Unbroken name)
    (hs : ∀ g ∈ s.segments, ∀ c, g.state.isOn c = true → channels.contains c = true) :
    read (render s channels false) = .ok ⟨s.segments, duration s.segments⟩ := by
  unfold read
  rw [map_eq_ok]
  refine ⟨s.segments, ?_, rfl⟩
  rw [lines_render h, mapM_eq_ok]
  show (s.offsets.mapIdx _).map readRow = _
  apply List.ext_getElem?
  intro i
  rw [List.getElem?_map, List.getElem?_mapIdx, offsets, getElem?_offsetsFrom, List.getElem?_map]
  cases hi : s.segments[i]? with
  | none => rfl
  | some g =>
    have hmem : g ∈ s.segments := List.mem_of_getElem? hi
    exact congrArg some (readRow_row (hs g hmem))

/-- Let no name of a channel have a line break, and let the sequence pass the check of its fields.
The plain table then has a title and one line for each segment. The words of the line are the number
of the segment, the sum of the durations before it, its duration, and for each channel in turn
whether it is on. If all lines that are ever on are declared, the sequence can be read from the
table. -/
theorem render_faithful (s : CompiledSequence) (channels : ChannelSet)
    (hs : ofSegments s.segments s.total = .ok s)
    (hnames : ∀ name ∈ channels.names, '\n' ∉ name.toList) :
    (∃ rows, Text.lines (render s channels false) = header channels :: rows ∧
      rows.length = s.segments.length ∧
      ∀ i line g, rows[i]? = some line → s.segments[i]? = some g →
        Text.words line =
          [toString i, toString (duration (s.segments.take i)), toString g.duration] ++
            channels.ids.map fun c => if g.state.isOn c then "ON" else "-") ∧
    ((∀ g ∈ s.segments, ∀ c, g.state.isOn c = true → channels.contains c = true) →
      read (render s channels false) = .ok s) := by
  obtain ⟨-, hvalid⟩ := ofSegments_eq_ok_iff.mp hs
  refine ⟨⟨_, lines_render hnames, ?_, ?_⟩, fun hon => ?_⟩
  · rw [List.length_mapIdx]
    exact length_offsetsFrom s.segments 0
  · intro i line g hline hg
    rw [List.getElem?_mapIdx, offsets, getElem?_offsetsFrom, hg, Nat.zero_add] at hline
    obtain rfl := Option.some.inj hline
    exact words_row channels i _ g
  · rw [read_render hnames hon, hvalid.sum]

/-- A name has a blank in it, and a number is wider than its column. -/
theorem render_faithful_wide : ∃ channels : ChannelSet, channels.names = ["laser gate", "mw"] ∧
    let s : CompiledSequence :=
      ⟨[⟨.ofChannels [⟨0⟩], 12345678901234⟩, ⟨.ofChannels [⟨1⟩], 6⟩], 12345678901240⟩
    (∃ first second, Text.lines (render s channels false) = [header channels, first, second] ∧
      Text.words second = ["1", "12345678901234", "6", "-", "ON"]) ∧
    read (render s channels false) = .ok s := by
  let channels : ChannelSet := ⟨((ChannelStore.empty.attempt "laser gate").2.attempt "mw").2,
    (ChannelStore.coherent_empty.attempt _).attempt _⟩
  have hchannels : channels.names = ["laser gate", "mw"] := by decide
  refine ⟨channels, hchannels, ?_⟩
  intro s
  have hs : ofSegments s.segments s.total = .ok s := rfl
  have hnames : ∀ name ∈ channels.names, '\n' ∉ name.toList := by
    rw [hchannels]
    simp
  have hon : ∀ g ∈ s.segments, ∀ c, g.state.isOn c = true → channels.contains c = true := by
    simp only [s, List.forall_mem_cons]
    refine ⟨?_, ?_, by simp⟩
    · exact fun c => ChannelSet.contains_of_isOn_ofChannels (by decide)
    · exact fun c => ChannelSet.contains_of_isOn_ofChannels (by decide)
  obtain ⟨⟨rows, hlines, hlength, hwords⟩, hread⟩ := render_faithful s channels hs hnames
  obtain ⟨first, second, rfl⟩ := List.length_eq_two.mp hlength
  refine ⟨⟨first, second, hlines, ?_⟩, hread hon⟩
  rw [hwords 1 second ⟨.ofChannels [⟨1⟩], 6⟩ rfl rfl]
  decide +kernel

end Table

end PulseTrain
