import PulseTrain.Document.Model
import PulseTrain.Proofs.Playback

/-!
# Written sequences are read back

A document of a valid sequence is read as that sequence. Every compiled sequence is valid, and its
segments are held for multiples of the quantum.
-/

namespace PulseTrain

namespace Node

variable {α : Type} {bound n : Nat}

theorem toNat_nat (h : n < bound) : (nat n).toNat bound = .ok n := by
  have hrange : (0 : Int) ≤ (n : Int) ∧ (n : Int) < bound := by omega
  show (if _ then _ else _) = _
  rw [if_pos hrange]
  rfl

/-- A list is read item by item. -/
theorem toListOf_list {f : Node → Decode α} {g : α → Node} {items : List α}
    (h : ∀ a ∈ items, f (g a) = .ok a) : (list (items.map g)).toListOf f = .ok items := by
  show (items.map g).mapM f = .ok items
  induction items with
  | nil => rfl
  | cons a rest ih =>
    rw [List.map_cons, List.mapM_cons, h a List.mem_cons_self,
      ih fun b hb => h b (List.mem_cons_of_mem _ hb)]
    rfl

end Node

namespace Fields

variable {α : Type} {known : List String} {entries : List (String × Node)} {name : String}
  {n : Node}

/-- A record with known fields, each given once, is read as it is. -/
theorem ofNode_record (hknown : ∀ f ∈ entries, known.contains f.1 = true)
    (hnodup : (entries.map Prod.fst).Nodup) (lenient : Bool) :
    ofNode known lenient (.record entries) = .ok ⟨entries⟩ := by
  have hpart : entries.partition (fun f => known.contains f.1) = (entries, []) := by
    rw [List.partition_eq_filter_filter, List.filter_eq_self.mpr hknown]
    congr 1
    rw [List.filter_eq_nil_iff]
    intro f hf hnot
    rw [Function.comp_apply, hknown f hf] at hnot
    exact Bool.false_ne_true hnot
  unfold ofNode Node.toFields
  simp only [bind, Except.bind, hpart]
  simp [hnodup, pure, Except.pure]

theorem required_of_lookup {f : Node → Decode α} (h : entries.lookup name = some n) :
    (Fields.mk entries).required name f = f n := by
  unfold required
  rw [h]
  rfl

end Fields

namespace ChannelState

theorem ofNode_toNode (s : ChannelState) : ofNode s.toNode = .ok s := by
  have hlt : s.toNat < Word.limit64 := s.bits.isLt
  unfold ofNode toNode
  rw [Node.toNat_nat hlt]
  show Except.ok (ofNat s.bits.toNat) = _
  rw [ofNat, BitVec.ofNat_toNat, BitVec.setWidth_eq]

end ChannelState

namespace Segment

theorem ofNode_toNode {g : Segment} (h : g.duration < Nanoseconds.limit) :
    ofNode g.toNode = .ok g := by
  obtain ⟨fields, hfields, hstate, hduration⟩ : ∃ fields : Fields,
      Fields.ofNode ["state", "duration_ns"] true g.toNode = .ok fields ∧
      fields.required "state" ChannelState.ofNode = .ok g.state ∧
      fields.required "duration_ns" Node.toNanoseconds = .ok g.duration := by
    refine ⟨_, Fields.ofNode_record (by simp) (by simp) true, ?_, ?_⟩
    · rw [Fields.required_of_lookup (n := g.state.toNode) (by simp)]
      exact g.state.ofNode_toNode
    · rw [Fields.required_of_lookup (n := .nat g.duration) (by simp [List.lookup_cons])]
      exact Node.toNat_nat h
  unfold ofNode
  rw [hfields]
  simp only [bind, Except.bind, hstate, hduration]
  rfl

end Segment

namespace CompiledSequence

variable {s : CompiledSequence}

theorem duration_le_of_mem {segments : List Segment} {g : Segment} (h : g ∈ segments) :
    g.duration ≤ duration segments := by
  induction segments with
  | nil => simp at h
  | cons a rest ih =>
    rw [duration_cons]
    rcases List.mem_cons.mp h with rfl | h
    · exact Nat.le_add_right _ _
    · exact (ih h).trans (Nat.le_add_left _ _)

theorem sum_eq_duration (segments : List Segment) :
    (segments.map Segment.duration).sum = duration segments := by
  induction segments with
  | nil => rfl
  | cons g rest ih => rw [List.map_cons, List.sum_cons, ih, duration_cons]

/-- What is written of a valid sequence is read back. -/
theorem Valid.ofNode_toNode (h : s.Valid) : ofNode s.toNode = .ok s := by
  obtain ⟨fields, hfields, hsegments, htotal⟩ : ∃ fields : Fields,
      Fields.ofNode ["segments", "total_duration_ns"] true s.toNode = .ok fields ∧
      fields.required "segments" (Node.toListOf Segment.ofNode) = .ok s.segments ∧
      fields.required "total_duration_ns" Node.toNanoseconds = .ok s.total := by
    refine ⟨_, Fields.ofNode_record (by simp) (by simp) true, ?_, ?_⟩
    · rw [Fields.required_of_lookup (n := .list (s.segments.map Segment.toNode)) (by simp)]
      exact Node.toListOf_list fun g hg =>
        Segment.ofNode_toNode ((duration_le_of_mem hg).trans_lt (h.sum ▸ h.fits))
    · rw [Fields.required_of_lookup (n := .nat s.total) (by simp [List.lookup_cons])]
      exact Node.toNat_nat h.fits
  unfold ofNode
  rw [hfields]
  simp only [bind, Except.bind, hsegments, htotal, h.ofSegments_eq]
  rfl

end CompiledSequence

namespace Compiler

variable {c : Compiler} {spec : TimingSpec} {s : CompiledSequence}

/-- The segments of a compiled sequence are held for multiples of the quantum, and there is one. -/
theorem compile_aligned (h : c.compile spec = .ok s) :
    s.segments ≠ [] ∧ ∀ g ∈ s.segments, c.quantum.ns ∣ g.duration := by
  obtain ⟨-, hne, -⟩ := compile_inv h
  obtain ⟨t, ht, rfl⟩ := compile_renders h
  have hgrid := ht.onGrid (spec.dvd_playedLength c.quantum) fun i _ =>
    TimingSpec.playedWaveform_floor hne i
  refine ⟨?_, ?_⟩
  · intro hnil
    have hlen := ht.length
    rw [Timeline.length_eq_endFrom, List.map_eq_nil_iff.mp hnil, Timeline.endFrom_nil] at hlen
    exact (TimingSpec.playedLength_pos hne).ne hlen
  · intro g hg
    obtain ⟨span, hspan, rfl⟩ := List.mem_map.mp hg
    exact hgrid.dvd_duration hspan

/-- Every compiled sequence has segments, each held for a positive multiple of the quantum;
neighbours differ in state; and the durations add up to the total without an overflow. So the
sequence passes the checked constructor as it is, and a document of it is read back. -/
theorem compile_exports (h : c.compile spec = .ok s) :
    s.segments ≠ [] ∧ (∀ g ∈ s.segments, 0 < g.duration ∧ c.quantum.ns ∣ g.duration) ∧
      (s.segments.IsChain fun a b => a.state ≠ b.state) ∧
      (s.segments.map Segment.duration).sum = s.total ∧ s.total < Nanoseconds.limit ∧
      CompiledSequence.ofSegments s.segments s.total = .ok s ∧
      CompiledSequence.ofNode s.toNode = .ok s := by
  have hvalid := compile_valid h
  obtain ⟨hne, hdvd⟩ := compile_aligned h
  exact ⟨hne, fun g hg => ⟨hvalid.regular.positive g hg, hdvd g hg⟩, hvalid.regular.alternates,
    (CompiledSequence.sum_eq_duration _).trans hvalid.sum, hvalid.fits, hvalid.ofSegments_eq,
    hvalid.ofNode_toNode⟩

theorem compile_exports_blink : ∃ s, blinker.compile blink = .ok s ∧ s.segments ≠ [] ∧
    CompiledSequence.ofSegments s.segments s.total = .ok s := by
  have h := compile_eq_ok_iff.mpr ⟨_, compileWithReport_blink, rfl⟩
  obtain ⟨hne, -, -, -, -, hsegments, -⟩ := compile_exports h
  exact ⟨_, h, hne, hsegments⟩

end Compiler

end PulseTrain
