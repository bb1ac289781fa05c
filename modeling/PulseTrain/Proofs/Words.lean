import PulseTrain.Report.Table
import PulseTrain.Text.Value

/-!
# Words and lines of texts

What can be read back from a text that is laid out in columns and lines. The blanks that fill a
column belong to no word, whether or not a word fits in its column; a gap of blanks parts the words
on its two sides; and lines that are each ended by a break come back as they are.
-/

namespace PulseTrain

namespace Text

open Column

/-- The words of a text: what stands between its blanks. -/
def words (s : String) : List String :=
  ((s.toList.splitOnP isBlank).filter fun w => !w.isEmpty).map String.ofList

/-- The lines of a text. Behind a break that ends the text there is no further line. -/
def lines (s : String) : List String :=
  let pieces := s.toList.splitOn '\n'
  (if pieces.getLast? = some [] then pieces.dropLast else pieces).map String.ofList

/-- The text is one word. -/
structure IsWord (s : String) : Prop where
  /-- It has a character. -/
  nonempty : s.toList ≠ []
  /-- None of its characters is a blank. -/
  solid : ∀ c ∈ s.toList, isBlank c = false

/-- The text lies on one line. -/
def Unbroken (s : String) : Prop := '\n' ∉ s.toList

variable {s t w : String} {width : Nat} {ls : List String}

/-! ## Words -/

theorem blanks_zero : blanks 0 = "" := by
  simp [blanks, String.pushn_eq_repeat_push, Nat.repeat]

theorem blanks_succ (n : Nat) : blanks (n + 1) = blanks n ++ " " := by
  rw [← String.toList_inj]
  simp [blanks, String.pushn_eq_repeat_push, Nat.repeat]

theorem blanks_two : blanks 2 = "  " := by
  rw [blanks_succ, blanks_succ, blanks_zero]
  decide

theorem words_empty : words "" = [] := by
  simp [words]

/-- A blank parts the words before it from those behind it. -/
theorem words_append_space (s t : String) : words (s ++ " " ++ t) = words s ++ words t := by
  have hspace : " ".toList = [' '] := by simp
  unfold words
  rw [String.toList_append, String.toList_append, hspace, List.append_assoc, List.singleton_append,
    List.splitOnP_append_cons _ _ (by decide), List.filter_append, List.map_append]

/-- Blanks behind a text add no word. -/
theorem words_append_blanks (s : String) (n : Nat) : words (s ++ blanks n) = words s := by
  induction n with
  | zero => rw [blanks_zero, String.append_empty]
  | succ n ih =>
    have hspace := words_append_space (s ++ blanks n) ""
    rw [words_empty, List.append_nil, String.append_empty] at hspace
    rw [blanks_succ, ← String.append_assoc, hspace, ih]

/-- A gap of blanks parts the words before it from those behind it. -/
theorem words_append_gap (s t : String) (n : Nat) :
    words (s ++ blanks (n + 1) ++ t) = words s ++ words t := by
  rw [blanks_succ, ← String.append_assoc, words_append_space, words_append_blanks]

/-- Blanks in front of a text add no word. -/
theorem words_blanks_append (n : Nat) (t : String) : words (blanks n ++ t) = words t := by
  cases n with
  | zero => rw [blanks_zero, String.empty_append]
  | succ n =>
    have hgap := words_append_gap "" t n
    rw [words_empty, List.nil_append, String.empty_append] at hgap
    exact hgap

theorem IsWord.words_eq (h : IsWord w) : words w = [w] := by
  unfold words
  rw [List.splitOnP_eq_singleton h.solid]
  simp [h.nonempty]

/-- A word stays the only word of its column, also when it is wider than the column. -/
theorem IsWord.words_right (h : IsWord w) (width : Nat) : words (right width w) = [w] := by
  unfold right
  rw [words_blanks_append, h.words_eq]

theorem IsWord.words_centered (h : IsWord w) (width : Nat) : words (centered width w) = [w] := by
  unfold centered
  rw [words_append_blanks, words_blanks_append, h.words_eq]

/-- The words of columns that are parted by two blanks. -/
theorem words_append_columns {ws : List String} (hws : ∀ w ∈ ws, IsWord w) (s : String)
    (width : Nat) :
    words (s ++ String.join (ws.map fun w => "  " ++ centered width w)) = words s ++ ws := by
  induction ws generalizing s with
  | nil => rw [List.map_nil, String.join_nil, String.append_empty, List.append_nil]
  | cons w ws ih =>
    obtain ⟨hw, hrest⟩ := List.forall_mem_cons.mp hws
    rw [List.map_cons, String.join_cons, ← String.append_assoc, ih hrest, ← String.append_assoc,
      ← blanks_two, words_append_gap, hw.words_centered, List.append_assoc, List.singleton_append]

/-! ## Lines -/

theorem unbroken_append : Unbroken (s ++ t) ↔ Unbroken s ∧ Unbroken t := by
  simp [Unbroken, not_or]

theorem unbroken_join : Unbroken (String.join ls) ↔ ∀ l ∈ ls, Unbroken l := by
  simp [Unbroken, String.toList_join]

theorem unbroken_blanks (n : Nat) : Unbroken (blanks n) := by
  induction n with
  | zero => simp [Unbroken, blanks_zero]
  | succ n ih => simpa [Unbroken, blanks_succ] using ih

theorem unbroken_right : Unbroken (right width s) ↔ Unbroken s := by
  unfold right
  rw [unbroken_append]
  exact and_iff_right (unbroken_blanks _)

theorem unbroken_centered : Unbroken (centered width s) ↔ Unbroken s := by
  unfold centered
  rw [unbroken_append, unbroken_append, and_iff_left (unbroken_blanks _)]
  exact and_iff_right (unbroken_blanks _)

theorem unbroken_gap : Unbroken "  " := blanks_two ▸ unbroken_blanks 2

theorem unbroken_columns {ws : List String} (h : ∀ w ∈ ws, Unbroken w) (width : Nat) :
    Unbroken (String.join (ws.map fun w => "  " ++ centered width w)) := by
  rw [unbroken_join]
  intro l hl
  obtain ⟨w, hw, rfl⟩ := List.mem_map.mp hl
  rw [unbroken_append, unbroken_centered]
  exact ⟨unbroken_gap, h w hw⟩

theorem IsWord.unbroken (h : IsWord w) : Unbroken w := by
  intro hbreak
  have hsolid := h.solid '\n' hbreak
  exact absurd hsolid (by decide)

theorem splitOn_join (h : ∀ l ∈ ls, Unbroken l) :
    (String.join (ls.map fun l => l ++ "\n")).toList.splitOn '\n' =
      ls.map String.toList ++ [[]] := by
  induction ls with
  | nil => simp
  | cons l ls ih =>
    obtain ⟨hl, hrest⟩ := List.forall_mem_cons.mp h
    have hbreak : "\n".toList = ['\n'] := by simp
    rw [List.map_cons, String.join_cons, String.toList_append, String.toList_append, hbreak,
      List.append_assoc, List.singleton_append, List.splitOn_append_cons_self_of_not_mem hl,
      ih hrest, List.map_cons, List.cons_append]

/-- Lines that are each ended by a break are the lines of their text. -/
theorem lines_join (h : ∀ l ∈ ls, Unbroken l) :
    lines (String.join (ls.map fun l => l ++ "\n")) = ls := by
  unfold lines
  rw [splitOn_join h]
  simp [Function.comp_def]

end Text

namespace Decimal

/-- The digits of a number are read as the number. -/
theorem digits?_toString (n : Nat) : digits? (toString n).toList = some n := by
  have hdigits : (Nat.toDigits 10 n).all Char.isDigit = true :=
    List.all_eq_true.mpr fun c hc => Nat.isDigit_of_mem_toDigits (by omega) (Nat.le_refl 10) hc
  have hsome : (Nat.toDigits 10 n).isEmpty = false :=
    List.isEmpty_eq_false_iff.mpr Nat.toDigits_ne_nil
  rw [Nat.toString_eq_ofList_toDigits, String.toList_ofList]
  unfold digits?
  rw [hdigits, hsome, ← Nat.ofDigitChars_eq_foldl, Nat.ofDigitChars_ten_toDigits]
  rfl

theorem isBlank_of_isDigit {c : Char} (h : c.isDigit = true) : Text.isBlank c = false := by
  have hrange : 48 ≤ c.toNat ∧ c.toNat ≤ 57 := by
    unfold Char.isDigit at h
    rw [Bool.and_eq_true, decide_eq_true_eq, decide_eq_true_eq] at h
    exact h
  have hapart : ∀ r ∈ Text.blankRanges, r.2 < 48 ∨ 57 < r.1 := by decide
  unfold Text.isBlank
  rw [List.any_eq_false]
  intro r hr hin
  rw [Bool.and_eq_true, decide_eq_true_eq, decide_eq_true_eq] at hin
  have hr := hapart r hr
  omega

/-- A decimal number is one word. -/
theorem isWord_toString (n : Nat) : Text.IsWord (toString n) := by
  rw [Nat.toString_eq_ofList_toDigits]
  refine ⟨?_, ?_⟩
  · rw [String.toList_ofList]
    exact Nat.toDigits_ne_nil
  · rw [String.toList_ofList]
    intro c hc
    exact isBlank_of_isDigit (Nat.isDigit_of_mem_toDigits (by omega) (Nat.le_refl 10) hc)

end Decimal

end PulseTrain
