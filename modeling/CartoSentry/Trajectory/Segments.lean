import CartoSentry.Foundation.Runs
import CartoSentry.Trajectory.Windows

set_option autoImplicit false

/-!
# Trajectory: segments and windows over any parameters

The segments are the maximal ranges of samples without an over-long gap, and a window stays
inside of its segment, around the samples that bracket the query.
-/

namespace CartoSentry.Trajectory

open Foundation (Consecutive)

/-! ## Segments -/

section Segments

variable (gap : Int) (times : List Int)

/-- The samples in front of which there is an over-long gap, and the first one. -/
def startsWith : List Nat :=
  0 :: (List.range' 1 (times.length - 1)).filter fun index =>
    decide (gap < timeAt times index - timeAt times (index - 1))

/-- `_make_segments` with the gap as a parameter. -/
def segmentsWith : List Segment :=
  let starts := startsWith gap times
  starts.zipIdx.map fun entry =>
    ⟨entry.1,
      if entry.2 + 1 < starts.length then starts.getD (entry.2 + 1) 0 - 1 else times.length - 1⟩

theorem makeSegments_eq (parameters : TrajectoryGateParameters) :
    makeSegments parameters times = segmentsWith parameters.maximumSupportGapNs times :=
  rfl

/-- A range of samples without an over-long gap, that neither neighbour extends. -/
structure IsSupportRange (segment : Segment) : Prop where
  ordered : segment.start ≤ segment.finish
  inside : segment.finish < times.length
  close : ∀ index, segment.start < index → index ≤ segment.finish →
    timeAt times index - timeAt times (index - 1) ≤ gap
  opens : 0 < segment.start →
    gap < timeAt times segment.start - timeAt times (segment.start - 1)
  closes : segment.finish + 1 < times.length →
    gap < timeAt times (segment.finish + 1) - timeAt times segment.finish

/-- The segments between starts, the last one up to the last sample. -/
def segmentsBetween (count : Nat) : List Nat → List Segment
  | [] => []
  | [start] => [⟨start, count - 1⟩]
  | start :: next :: rest => ⟨start, next - 1⟩ :: segmentsBetween count (next :: rest)

variable {gap times}

theorem getElem?_segmentsBetween (count : Nat) (starts : List Nat) (place : Nat) :
    (segmentsBetween count starts)[place]? = starts[place]?.map fun start =>
      ⟨start,
        if place + 1 < starts.length then starts.getD (place + 1) 0 - 1 else count - 1⟩ := by
  induction starts generalizing place with
  | nil => rfl
  | cons start starts ih =>
    cases starts with
    | nil =>
      cases place with
      | zero => rfl
      | succ place => rfl
    | cons next rest =>
      rw [segmentsBetween]
      cases place with
      | zero =>
        rw [if_pos (by simp)]
        rfl
      | succ place =>
        rw [List.getElem?_cons_succ, ih place, List.getElem?_cons_succ]
        simp only [List.length_cons, Nat.add_lt_add_iff_right, List.getD_cons_succ]

theorem segmentsBetween_eq_zipIdx (count : Nat) (starts : List Nat) :
    segmentsBetween count starts = starts.zipIdx.map fun entry =>
      ⟨entry.1,
        if entry.2 + 1 < starts.length then starts.getD (entry.2 + 1) 0 - 1 else count - 1⟩ := by
  apply List.ext_getElem?
  intro place
  rw [getElem?_segmentsBetween, List.getElem?_map, List.getElem?_zipIdx, Option.map_map,
    Nat.zero_add]
  rfl

theorem segmentsWith_eq : segmentsWith gap times = segmentsBetween times.length (startsWith gap times) :=
  (segmentsBetween_eq_zipIdx times.length (startsWith gap times)).symm

theorem mem_startsWith_iff {index : Nat} : index ∈ startsWith gap times ↔
    index = 0 ∨ 1 ≤ index ∧ index < times.length ∧
      gap < timeAt times index - timeAt times (index - 1) := by
  rw [startsWith, List.mem_cons, List.mem_filter, List.mem_range'_1, decide_eq_true_eq]
  constructor
  · rintro (h | ⟨hrange, hgap⟩)
    · exact .inl h
    · exact .inr ⟨hrange.1, by omega, hgap⟩
  · rintro (h | ⟨hfirst, hlast, hgap⟩)
    · exact .inl h
    · exact .inr ⟨by omega, hgap⟩

theorem startsWith_pairwise (gap : Int) (times : List Int) :
    (startsWith gap times).Pairwise (· < ·) := by
  refine List.pairwise_cons.mpr ⟨fun index hindex => ?_, ?_⟩
  · have hrange := List.mem_range'_1.mp (List.mem_filter.mp hindex).1
    omega
  · exact (List.pairwise_lt_range' 1).filter _

/-- The segments follow one another. -/
theorem consecutive_segmentsBetween {count start : Nat} {rest : List Nat}
    (hordered : (start :: rest).Pairwise (· < ·)) (hbound : ∀ index ∈ start :: rest, index < count) :
    Consecutive start count ((segmentsBetween count (start :: rest)).map fun segment =>
      (segment.start, segment.finish + 1)) := by
  induction rest generalizing start with
  | nil =>
    have hlast := hbound start List.mem_cons_self
    have hstep : count - 1 + 1 = count := by omega
    refine ⟨rfl, by dsimp only; omega, ?_⟩
    dsimp only
    rw [hstep]
    rfl
  | cons next rest ih =>
    have hnext := List.rel_of_pairwise_cons hordered List.mem_cons_self
    have hrest := ih (List.Pairwise.of_cons hordered) fun index hmem =>
      hbound index (List.mem_cons_of_mem _ hmem)
    have hstep : next - 1 + 1 = next := by omega
    refine ⟨rfl, by dsimp only; omega, ?_⟩
    dsimp only
    rw [hstep]
    exact hrest

/-- A segment opens at a start, and the next start follows it. -/
theorem of_mem_segmentsBetween {count : Nat} {starts : List Nat} {segment : Segment}
    (hordered : starts.Pairwise (· < ·)) (h : segment ∈ segmentsBetween count starts) :
    segment.start ∈ starts ∧ (∀ index ∈ starts, index ≤ segment.start ∨ segment.finish < index) ∧
      (segment.finish + 1 ∈ starts ∨ segment.finish = count - 1) := by
  induction starts with
  | nil => cases h
  | cons start starts ih =>
    cases starts with
    | nil =>
      obtain rfl := List.mem_singleton.mp h
      exact ⟨List.mem_cons_self, fun index hmem => .inl (List.mem_singleton.mp hmem).le, .inr rfl⟩
    | cons next rest =>
      have hnext := List.rel_of_pairwise_cons hordered List.mem_cons_self
      have hafter := List.Pairwise.of_cons hordered
      obtain rfl | hmem := List.mem_cons.mp h
      · have hstep : next - 1 + 1 = next := by omega
        refine ⟨List.mem_cons_self, fun index hmem => ?_, .inl ?_⟩
        · obtain rfl | hmem := List.mem_cons.mp hmem
          · exact .inl le_rfl
          · obtain rfl | hmem := List.mem_cons.mp hmem
            · exact .inr (by dsimp only; omega)
            · have hlater := List.rel_of_pairwise_cons hafter hmem
              exact .inr (by dsimp only; omega)
        · dsimp only
          rw [hstep]
          exact List.mem_cons_of_mem _ List.mem_cons_self
      · obtain ⟨hstart, hapart, hfinish⟩ := ih hafter hmem
        refine ⟨List.mem_cons_of_mem _ hstart, fun index hindex => ?_,
          hfinish.imp_left (List.mem_cons_of_mem _)⟩
        obtain rfl | hindex := List.mem_cons.mp hindex
        · exact .inl (List.rel_of_pairwise_cons hordered hstart).le
        · exact hapart index hindex

/-- The segments that the loop makes are ranges without an over-long gap. -/
theorem isSupportRange_of_mem (h : times ≠ []) {segment : Segment}
    (hsegment : segment ∈ segmentsWith gap times) : IsSupportRange gap times segment := by
  have hlength := List.length_pos_iff.mpr h
  have hbound : ∀ index ∈ startsWith gap times, index < times.length := by
    intro index hmem
    rcases mem_startsWith_iff.mp hmem with rfl | ⟨-, hlast, -⟩
    · exact hlength
    · exact hlast
  rw [segmentsWith_eq] at hsegment
  have hranges := (consecutive_segmentsBetween (startsWith_pairwise gap times) hbound).bounds
    (List.mem_map_of_mem hsegment)
  obtain ⟨hstart, hapart, hfinish⟩ := of_mem_segmentsBetween (startsWith_pairwise gap times) hsegment
  dsimp only at hranges
  refine ⟨by omega, by omega, fun index hfirst hlast => ?_, fun hpositive => ?_, fun hmore => ?_⟩
  · refine not_lt.mp fun hgap => ?_
    have hmem : index ∈ startsWith gap times :=
      mem_startsWith_iff.mpr (.inr ⟨by omega, by omega, hgap⟩)
    have hplace := hapart index hmem
    omega
  · rcases mem_startsWith_iff.mp hstart with hzero | ⟨-, -, hgap⟩
    · omega
    · exact hgap
  · obtain hnext | hlast := hfinish
    · rcases mem_startsWith_iff.mp hnext with hzero | ⟨-, -, hgap⟩
      · omega
      · exact hgap
    · omega

/-- Two ranges with a sample in common are the same. -/
theorem IsSupportRange.unique {segment other : Segment} {index : Nat}
    (h : IsSupportRange gap times segment) (h' : IsSupportRange gap times other)
    (hindex : segment.start ≤ index ∧ index ≤ segment.finish)
    (hindex' : other.start ≤ index ∧ index ≤ other.finish) : segment = other := by
  have hstart : segment.start = other.start := by
    rcases Nat.lt_trichotomy segment.start other.start with hlt | heq | hgt
    · have hclose := h.close other.start hlt (by omega)
      have hopens := h'.opens (by omega)
      omega
    · exact heq
    · have hclose := h'.close segment.start hgt (by omega)
      have hopens := h.opens (by omega)
      omega
  have hfinish : segment.finish = other.finish := by
    rcases Nat.lt_trichotomy segment.finish other.finish with hlt | heq | hgt
    · have hclose := h'.close (segment.finish + 1) (by omega) hlt
      have hinside := h'.inside
      have hcloses := h.closes (by omega)
      rw [Nat.add_sub_cancel] at hclose
      omega
    · exact heq
    · have hclose := h.close (other.finish + 1) (by omega) hgt
      have hinside := h.inside
      have hcloses := h'.closes (by omega)
      rw [Nat.add_sub_cancel] at hclose
      omega
  cases segment
  cases other
  dsimp only at hstart hfinish
  rw [hstart, hfinish]

/-- Every sample is in one of the segments. -/
theorem countP_segmentsWith (h : times ≠ []) {index : Nat} (hindex : index < times.length) :
    (segmentsWith gap times).countP (fun segment =>
      decide (segment.start ≤ index ∧ index ≤ segment.finish)) = 1 := by
  have hlength := List.length_pos_iff.mpr h
  have hbound : ∀ place ∈ startsWith gap times, place < times.length := by
    intro place hmem
    rcases mem_startsWith_iff.mp hmem with rfl | ⟨-, hlast, -⟩
    · exact hlength
    · exact hlast
  have hranges := consecutive_segmentsBetween (startsWith_pairwise gap times) hbound
  have hcount := hranges.countP_eq_one (Nat.zero_le index) hindex
  rw [List.countP_map] at hcount
  rw [segmentsWith_eq, ← hcount]
  refine List.countP_congr fun segment _ => ?_
  simp only [Function.comp_apply, decide_eq_true_eq]
  omega

/-- The segments are the ranges without an over-long gap. -/
theorem mem_segmentsWith_iff (h : times ≠ []) (segment : Segment) :
    segment ∈ segmentsWith gap times ↔ IsSupportRange gap times segment := by
  constructor
  · exact isSupportRange_of_mem h
  · intro hrange
    have hcount : (segmentsWith gap times).countP _ = 1 :=
      countP_segmentsWith h (hrange.ordered.trans_lt hrange.inside)
    have hpositive : 0 < (segmentsWith gap times).countP (fun other =>
        decide (other.start ≤ segment.start ∧ segment.start ≤ other.finish)) := by
      rw [hcount]
      exact Nat.one_pos
    obtain ⟨other, hmem, hinside⟩ := List.countP_pos_iff.mp hpositive
    have hsame := hrange.unique (isSupportRange_of_mem h hmem) ⟨le_rfl, hrange.ordered⟩
      (of_decide_eq_true hinside)
    rw [hsame]
    exact hmem

end Segments

/-! ## Windows -/

section Windows

variable {times : List Int}

/-- `_window` with the half window as a parameter. -/
def windowWith (halfWindow : Nat) (times : List Int) (segment : Segment) (queryTimeNs : Int) :
    Nat × Nat :=
  let width := 2 * halfWindow + 1
  let insertion := bisectLeft times queryTimeNs segment.start (segment.finish + 1)
  let start := max segment.start (insertion - halfWindow)
  let finish := min (segment.finish + 1) (start + width)
  (max segment.start (finish - width), finish)

theorem window_eq (parameters : TrajectoryGateParameters) (times : List Int) (segment : Segment)
    (queryTimeNs : Int) : window parameters times segment queryTimeNs =
      windowWith parameters.derivativeHalfWindowSamples times segment queryTimeNs :=
  rfl

/-- The samples around a query: the one equal to it, or the two next to it. -/
structure Brackets (times : List Int) (segment : Segment) (queryTimeNs : Int) (left right : Nat) :
    Prop where
  inside : segment.start ≤ left ∧ left ≤ right ∧ right ≤ segment.finish
  around : left = right ∧ timeAt times left = queryTimeNs ∨
    left + 1 = right ∧ timeAt times left < queryTimeNs ∧ queryTimeNs < timeAt times right

/-- A window is as long as the half windows and its segment allow for, inside of the segment and
around the query. -/
structure IsWindow (halfWindow : Nat) (times : List Int) (segment : Segment) (queryTimeNs : Int)
    (bounds : Nat × Nat) : Prop where
  inside : segment.start ≤ bounds.1 ∧ bounds.2 ≤ segment.finish + 1
  length : bounds.1 + min (2 * halfWindow + 1) segment.sampleCount = bounds.2
  around : ∀ left right, Brackets times segment queryTimeNs left right →
    bounds.1 ≤ left ∧ right < bounds.2

theorem exists_brackets {segment : Segment} {queryTimeNs : Int}
    (hordered : segment.start ≤ segment.finish)
    (hquery : timeAt times segment.start ≤ queryTimeNs ∧
      queryTimeNs ≤ timeAt times segment.finish) :
    ∃ left right, Brackets times segment queryTimeNs left right := by
  have hexists : ∃ index, segment.start ≤ index ∧ queryTimeNs ≤ timeAt times index :=
    ⟨segment.finish, hordered, hquery.2⟩
  obtain ⟨hstart, hreached⟩ := Nat.find_spec hexists
  have hfinish : Nat.find hexists ≤ segment.finish := Nat.find_min' hexists ⟨hordered, hquery.2⟩
  have hleast := fun index hlt => Nat.find_min hexists (m := index) hlt
  generalize Nat.find hexists = right at *
  by_cases hequal : timeAt times right = queryTimeNs
  · exact ⟨right, right, ⟨hstart, le_rfl, hfinish⟩, .inl ⟨rfl, hequal⟩⟩
  · have hlater : segment.start ≠ right := fun hsame => hequal (by rw [hsame] at hquery; omega)
    have hbefore : timeAt times (right - 1) < queryTimeNs :=
      not_le.mp fun hle => hleast (right - 1) (by omega) ⟨by omega, hle⟩
    exact ⟨right - 1, right, ⟨by omega, by omega, hfinish⟩, .inr ⟨by omega, hbefore, by omega⟩⟩

theorem isWindow_windowWith (h : times.Pairwise (· < ·)) {halfWindow : Nat} (hhalf : 1 ≤ halfWindow)
    {segment : Segment} (hordered : segment.start ≤ segment.finish)
    (hinside : segment.finish < times.length) (queryTimeNs : Int) :
    IsWindow halfWindow times segment queryTimeNs
      (windowWith halfWindow times segment queryTimeNs) := by
  unfold windowWith
  refine ⟨?_, ?_, fun left right hbrackets => ?_⟩
  · dsimp only
    omega
  · unfold Segment.sampleCount
    dsimp only
    omega
  · obtain ⟨hrange, haround⟩ := hbrackets
    have hinsertion : bisectLeft times queryTimeNs segment.start (segment.finish + 1) = right := by
      rcases haround with ⟨rfl, hequal⟩ | ⟨hnext, hbefore, hafter⟩
      · refine bisectLeft_eq_of hrange.1 (by omega) (by omega) (fun place _ hlt => ?_) hequal.ge
        rw [← hequal]
        exact timeAt_strict h hlt (by omega)
      · refine bisectLeft_eq_of (by omega) (by omega) (by omega) (fun place _ hlt => ?_) hafter.le
        exact (timeAt_mono h (by omega) (by omega)).trans_lt hbefore
    rw [hinsertion]
    dsimp only
    omega

end Windows

/-- The segments are the maximal ranges without an over-long gap and hold every sample once.  A
window for a query inside of a segment is in the segment, as long as it can be, and around the
query, so that there is no over-long gap in it. -/
theorem windows_within_segments (gap : Int) (halfWindow : Nat) (first : Int) (rest : List Int)
    (hordered : (first :: rest).Pairwise (· < ·)) (hhalf : 1 ≤ halfWindow) :
    (∀ segment, segment ∈ segmentsWith gap (first :: rest) ↔
        IsSupportRange gap (first :: rest) segment) ∧
      (∀ index < (first :: rest).length, (segmentsWith gap (first :: rest)).countP (fun segment =>
        decide (segment.start ≤ index ∧ index ≤ segment.finish)) = 1) ∧
      ∀ segment ∈ segmentsWith gap (first :: rest), ∀ queryTimeNs : Int,
        timeAt (first :: rest) segment.start ≤ queryTimeNs →
        queryTimeNs ≤ timeAt (first :: rest) segment.finish →
          IsWindow halfWindow (first :: rest) segment queryTimeNs
              (windowWith halfWindow (first :: rest) segment queryTimeNs) ∧
            (∃ left right, Brackets (first :: rest) segment queryTimeNs left right) ∧
            ∀ index, (windowWith halfWindow (first :: rest) segment queryTimeNs).1 < index →
              index < (windowWith halfWindow (first :: rest) segment queryTimeNs).2 →
                timeAt (first :: rest) index - timeAt (first :: rest) (index - 1) ≤ gap := by
  have hnonempty : first :: rest ≠ [] := List.cons_ne_nil _ _
  refine ⟨fun segment => mem_segmentsWith_iff hnonempty segment,
    fun index hindex => countP_segmentsWith hnonempty hindex,
    fun segment hsegment queryTimeNs hfrom hto => ?_⟩
  have hrange := isSupportRange_of_mem hnonempty hsegment
  have hwindow := isWindow_windowWith hordered hhalf hrange.ordered hrange.inside queryTimeNs
  refine ⟨hwindow, exists_brackets hrange.ordered ⟨hfrom, hto⟩,
    fun index hafter hbefore => ?_⟩
  have hinside := hwindow.inside
  exact hrange.close index (by omega) (by omega)

theorem windows_within_segments_two_stretches :
    (segmentsWith 10 [0, 10, 20, 100, 110]).length = 2 ∧
      IsWindow 1 [0, 10, 20, 100, 110] ⟨0, 2⟩ 15
        (windowWith 1 [0, 10, 20, 100, 110] ⟨0, 2⟩ 15) :=
  ⟨by decide, ((windows_within_segments 10 1 0 [10, 20, 100, 110] (by decide) le_rfl).2.2
    ⟨0, 2⟩ (by decide) 15 (by decide) (by decide)).1⟩

end CartoSentry.Trajectory
