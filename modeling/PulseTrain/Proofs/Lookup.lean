import PulseTrain.Proofs.Construction
import PulseTrain.Proofs.Invariants
import PulseTrain.Proofs.Merged
import PulseTrain.Proofs.Partitioned

/-!
# Looking up instants

Every way to make a timeline gives a canonical one, and on a canonical timeline the bisection finds
the one span that contains an instant, and the breakpoints are the ends of the spans in order.
-/

namespace PulseTrain.Timeline

variable {c i : Nat} {s : Span} {spans : List Span} {t : Timeline} {spec : TimingSpec}
  {channels : ChannelSet}

/-! ## Where timelines come from -/

/-- The timelines that there are ways to make. -/
inductive Made : Timeline → Prop where
  /-- Any calls on a builder. -/
  | built (cs : List TimelineBuilder.Call) : Made (TimelineBuilder.empty.calls cs).timeline
  /-- One unit of a spec. -/
  | lowered {t : Timeline} (spec : TimingSpec) (channels : ChannelSet)
      (h : Timeline.ofSpec spec channels = .ok t) : Made t
  /-- Spans that partition an interval. -/
  | joined {t : Timeline} (spans : List Span) (h : Timeline.ofSpans spans = .ok t) : Made t
  /-- Any run of passes, wherever it ends. -/
  | processed {K : NoteKinds} {w : Workpiece K} {ps : List (Pass K)}
      (hps : ∀ p ∈ ps, p ∈ Pass.standard) (h : Made w.timeline) : Made (w.process ps).2.timeline

theorem canonical_of_ofSpec (h : ofSpec spec channels = .ok t) : t.Canonical := by
  rcases ofSpec_cases spec channels with ⟨c, hfails⟩ | hfails | ⟨u, hu, hrenders⟩
  · exact absurd (hfails.symm.trans h) (by simp)
  · exact absurd (hfails.symm.trans h) (by simp)
  · obtain rfl := Except.ok.inj (hu.symm.trans h)
    exact hrenders.canonical

theorem canonical_of_ofSpans (h : ofSpans spans = .ok t) : t.Canonical := by
  have hpartition := exists_ofSpans_iff.mp ⟨t, h⟩
  obtain ⟨w, hw⟩ := hpartition.exists_shows
  exact (ofSpans_renders h hw).canonical

theorem Made.canonical (h : Made t) : t.Canonical := by
  induction h with
  | built cs =>
    have hempty := (TimelineBuilder.renders_empty fun _ => .off).canonical
    exact (TimelineBuilder.calls_keep hempty cs).1
  | lowered spec channels h => exact canonical_of_ofSpec h
  | joined spans h => exact canonical_of_ofSpans h
  | processed hps _ ih =>
    have hsound := Workpiece.process_keeps (fun p hp => Workpiece.keeps_sound (hps p hp)) ⟨ih, rfl⟩
    exact hsound.canonical

/-! ## One span for each instant -/

/-- Of the spans of a tiling no other one contains what this one contains. -/
theorem TilesFrom.filter_contains (h : TilesFrom c spans) (hs : s ∈ spans) (hi : s.Contains i) :
    spans.filter (fun r => r.Contains i) = [s] := by
  induction spans generalizing c with
  | nil => simp at hs
  | cons r rest ih =>
    obtain ⟨-, -, -, hrest⟩ := h
    by_cases hr : r.Contains i
    · have hnone : ∀ m ∈ rest, ¬ m.Contains i := by
        intro m hm hcontains
        have hstart := (hrest.bounds hm).1.trans hcontains.1
        exact absurd hr.2 (not_lt.mpr hstart)
      have hsr : s = r := by
        rcases List.mem_cons.mp hs with hsr | hs
        · exact hsr
        · exact absurd hi (hnone s hs)
      rw [List.filter_cons_of_pos (by simpa using hr), hsr, List.filter_eq_nil_iff.mpr]
      simpa using hnone
    · rw [List.filter_cons_of_neg (by simpa using hr)]
      rcases List.mem_cons.mp hs with rfl | hs
      · exact absurd hi hr
      · exact ih hrest hs

/-! ## The list of breakpoints -/

/-- The ends of a tiling increase from where it begins. -/
theorem TilesFrom.pairwise_stops (h : TilesFrom c spans) :
    (c :: spans.map Span.stop).Pairwise (· < ·) := by
  induction spans generalizing c with
  | nil => simp
  | cons s rest ih =>
    obtain ⟨rfl, hlt, -, hrest⟩ := h
    have hstops := ih hrest
    rw [List.map_cons, List.pairwise_cons]
    refine ⟨fun b hb => ?_, hstops⟩
    rcases List.mem_cons.mp hb with rfl | hb
    · exact hlt
    · exact hlt.trans ((List.pairwise_cons.mp hstops).1 b hb)

theorem getLast?_stops (c : Nat) (spans : List Span) :
    (c :: spans.map Span.stop).getLast? = some (endFrom c spans) := by
  induction spans generalizing c with
  | nil => rfl
  | cons s rest ih =>
    rw [List.map_cons, List.getLast?_cons_cons, ih, endFrom_cons]

theorem breakpoints_of_ne_nil (h : t.spans ≠ []) :
    t.breakpoints = 0 :: t.spans.map Span.stop := by
  unfold breakpoints isEmpty
  rw [if_neg (by simpa using h)]

/-- Every timeline that there is a way to make is canonical. On a canonical timeline the bisection
gives, for each instant before the end, the state of the one span that contains the instant, and it
gives nothing from the end on. The breakpoints increase from zero to the end, one more than there
are spans; without spans there are none. -/
theorem canonical_lookup :
    (∀ t, Made t → t.Canonical) ∧
    ∀ t : Timeline, t.Canonical →
      (∀ i < t.length, ∃ s, t.spans.filter (fun r => r.Contains i) = [s] ∧
        t.stateAt i = some s.state) ∧
      (∀ i, t.length ≤ i → t.stateAt i = none) ∧
      t.breakpoints.Pairwise (· < ·) ∧
      (t.spans = [] → t.breakpoints = []) ∧
      (t.spans ≠ [] → t.breakpoints.head? = some 0 ∧ t.breakpoints.getLast? = some t.length ∧
        t.breakpoints.length = t.spans.length + 1) := by
  refine ⟨fun t h => h.canonical, fun t h => ⟨fun i hi => ?_, fun i hi => h.stateAt_of_le hi, ?_,
    fun hempty => ?_, fun hne => ?_⟩⟩
  · obtain ⟨s, hs, hcontains⟩ := TilesFrom.exists_contains h (Nat.zero_le i) hi
    exact ⟨s, TilesFrom.filter_contains h hs hcontains, h.stateAt_of_contains hs hcontains⟩
  · by_cases hne : t.spans = []
    · simp [breakpoints, isEmpty, hne]
    · rw [breakpoints_of_ne_nil hne]
      exact TilesFrom.pairwise_stops h
  · simp [breakpoints, isEmpty, hempty]
  · rw [breakpoints_of_ne_nil hne]
    exact ⟨rfl, getLast?_stops 0 t.spans, by simp⟩

/-- Two pushes make two spans; the second begins at the instant at which the first stops. -/
theorem canonical_lookup_handover : ∃ t : Timeline, t.Canonical ∧
    t.stateAt 8 = some (.ofNat 2) ∧ t.stateAt 24 = none ∧ t.breakpoints.getLast? = some 24 := by
  let t := (TimelineBuilder.empty.calls [.push 8 (.ofNat 1), .push 16 (.ofNat 2)]).timeline
  have hcan : t.Canonical := canonical_lookup.1 t (.built _)
  obtain ⟨hstate, hnone, -, -, hbreak⟩ := canonical_lookup.2 t hcan
  obtain ⟨s, hs, hat⟩ := hstate 8 (by decide)
  obtain ⟨-, hlast, -⟩ := hbreak (by decide)
  have hsecond : t.spans.filter (fun r => r.Contains 8) = [⟨8, 24, .ofNat 2⟩] := by decide
  obtain rfl : ⟨8, 24, .ofNat 2⟩ = s := List.singleton_inj.mp (hsecond.symm.trans hs)
  exact ⟨t, hcan, hat, hnone 24 (by decide), hlast⟩

end PulseTrain.Timeline
