import CartoSentry.Topology.Mining
import CartoSentry.Topology.ValidInputs
import Mathlib.Data.List.FinRange

set_option autoImplicit false

/-!
# Topology hypotheses: what is selected

The selection of valid intervals never fails, counts each of them once, and what it
keeps does not depend on the order of the intervals.
-/

namespace CartoSentry.Topology

open Foundation (Double bind_eq_ok_iff bind_unit_eq_ok_iff)
open Matching (InvalidArgument throwIf throwIf_eq_ok_iff)

/-! ## Resampled points -/

section Resampled

variable {library : StandardLibrary}

theorem length_samples {totalLength : Double} {pointCount : Nat} {current : Segment}
    {rest : List Segment} {indices : List Nat} :
    (samples totalLength pointCount current rest indices).length = indices.length := by
  induction indices generalizing current rest with
  | nil => rfl
  | cons index indices ih => exact congrArg (· + 1) ih

theorem length_withEnds {first last : Point} {points : List Point} :
    (withEnds first last points).length = points.length := by
  rw [withEnds, List.length_set, List.length_set]

theorem front_withEnds {first last : Point} {points : List Point} (h : 2 ≤ points.length) :
    front (withEnds first last points) = first := by
  match points, h with
  | _ :: _ :: _, _ => rfl

theorem back_withEnds {first last : Point} {points : List Point} (h : 2 ≤ points.length) :
    back (withEnds first last points) = last := by
  have hlength : points.length - 1 < points.length := by omega
  unfold back withEnds
  rw [List.getLastD_eq_getLast?, List.getLast?_eq_getElem?, List.length_set, List.length_set,
    List.getElem?_set_self (by rwa [List.length_set])]
  rfl

theorem front_mem {points : List Point} (h : points ≠ []) : front points ∈ points := by
  cases points with
  | nil => exact absurd rfl h
  | cons head rest => exact List.mem_cons_self

theorem back_mem {points : List Point} (h : points ≠ []) : back points ∈ points := by
  unfold back
  rw [List.getLastD_eq_getLast?, List.getLast?_eq_some_getLast h]
  exact List.getLast_mem h

/-- Resampled points: as many as asked for, between the ends of the polyline. -/
structure Resampled (points : List Point) (pointCount : Nat) (resampled : List Point) : Prop where
  length : resampled.length = pointCount
  front : front resampled = front points
  back : back resampled = back points

theorem resample_of_valid {points : List Point} {maximum pointCount : Nat} (hcount : 2 ≤ pointCount)
    (h : ValidPoints library points maximum) :
    ∃ resampled, resample library points pointCount = .ok resampled ∧
      Resampled points pointCount resampled := by
  obtain ⟨length, hlength, hpositive⟩ := h.positive
  have htwo := h.two
  unfold resample
  rw [hlength]
  have hnot : ¬ (Double.finite 0).lt length = false := by
    rw [hpositive]
    exact Bool.noConfusion
  cases hsegments : segmentsFrom library (.finite 0) points with
  | nil =>
    match points, htwo with
    | _ :: _ :: _, _ => cases hsegments
  | cons first rest =>
    refine ⟨_, bind_unit_eq_ok_iff.mpr ⟨throwIf_eq_ok_iff.mpr hnot, rfl⟩, ?_⟩
    have hsamples : (samples length pointCount first rest (List.range pointCount)).length =
        pointCount := length_samples.trans List.length_range
    have hlong := hcount.trans_eq hsamples.symm
    exact ⟨length_withEnds.trans hsamples, front_withEnds hlong, back_withEnds hlong⟩

end Resampled

/-! ## Verdicts -/

section Verdicts

variable (library : StandardLibrary) (parameters : Parameters)

/-- The verdict on a valid interval. -/
def decided (interval : OffMapInterval) : Verdict :=
  match verdict library parameters interval with
  | .ok decided => decided
  | .error _ => .short

variable {library parameters}

/-- An interval that can be measured and resampled has a verdict. -/
theorem exists_verdict {interval : OffMapInterval} {length : Double} {resampled : List Point}
    (hlength : polylineLength library interval.points = .ok length)
    (hresampled : resample library interval.points parameters.resamplePointCount = .ok resampled) :
    ∃ value, verdict library parameters interval = .ok value ∧
      ∀ points, value = .selected points → points = resampled := by
  unfold verdict
  simp only [hlength, hresampled, bind, Except.bind, pure, Except.pure]
  split_ifs
  · exact ⟨.notOffMap, rfl, fun points h => nomatch h⟩
  · exact ⟨.unobservable, rfl, fun points h => nomatch h⟩
  · exact ⟨.direction, rfl, fun points h => nomatch h⟩
  · exact ⟨.stationary, rfl, fun points h => nomatch h⟩
  · exact ⟨.quality, rfl, fun points h => nomatch h⟩
  · exact ⟨.short, rfl, fun points h => nomatch h⟩
  · exact ⟨.direction, rfl, fun points h => nomatch h⟩
  · exact ⟨.selected resampled, rfl, fun points h => (Verdict.selected.inj h).symm⟩

theorem verdict_eq {interval : OffMapInterval} (hcount : 2 ≤ parameters.resamplePointCount)
    (h : ValidInterval library parameters interval) :
    verdict library parameters interval = .ok (decided library parameters interval) := by
  obtain ⟨length, hlength, -⟩ := h.points.positive
  obtain ⟨resampled, hresampled, -⟩ := resample_of_valid hcount h.points
  obtain ⟨value, hvalue, -⟩ := exists_verdict hlength hresampled
  unfold decided
  rw [hvalue]

/-- What is selected has been resampled. -/
theorem decided_selected {interval : OffMapInterval} {points : List Point}
    (hcount : 2 ≤ parameters.resamplePointCount) (h : ValidInterval library parameters interval)
    (hselected : decided library parameters interval = .selected points) :
    resample library interval.points parameters.resamplePointCount = .ok points ∧
      Resampled interval.points parameters.resamplePointCount points := by
  obtain ⟨length, hlength, -⟩ := h.points.positive
  obtain ⟨resampled, hresampled, hfacts⟩ := resample_of_valid hcount h.points
  obtain ⟨value, hvalue, hpoints⟩ := exists_verdict hlength hresampled
  rw [verdict_eq hcount h] at hvalue
  cases hvalue
  rw [hpoints points hselected]
  exact ⟨hresampled, hfacts⟩

end Verdicts

/-! ## The selection -/

section Selections

variable {library : StandardLibrary} {parameters : Parameters} {intervals : List OffMapInterval}

/-- What the result of a selected interval depends on: the interval and its resampled
points, not its position. -/
def Selected.core (selected : Selected intervals) : OffMapInterval × List Point :=
  (selected.interval, selected.resampled)

def kept (library : StandardLibrary) (parameters : Parameters) (interval : OffMapInterval) :
    Option (OffMapInterval × List Point) :=
  match decided library parameters interval with
  | .selected resampled => some (interval, resampled)
  | _ => none

/-- The counter of a reason. -/
def Selection.rejectedAs (selection : Selection intervals) : Verdict → Nat
  | .notOffMap => selection.rejectedNotOffMap
  | .unobservable => selection.rejectedUnobservable
  | .direction => selection.rejectedDirection
  | .stationary => selection.rejectedStationary
  | .quality => selection.rejectedQuality
  | .short => selection.rejectedShort
  | .selected _ => 0

def Verdict.rejects : Verdict → Bool
  | .selected _ => false
  | _ => true

theorem rejectedAs_record (selection : Selection intervals) (index : Fin intervals.length)
    (decided reason : Verdict) (hreason : reason.rejects = true) :
    (selection.record index decided).rejectedAs reason =
      selection.rejectedAs reason + if decided = reason then 1 else 0 := by
  cases decided <;> cases reason <;> first | rfl | cases hreason

theorem selected_record (selection : Selection intervals) (index : Fin intervals.length)
    (decided : Verdict) : (selection.record index decided).selected =
      selection.selected ++ match decided with
        | .selected resampled => [⟨index, resampled⟩]
        | _ => [] := by
  cases decided with
  | selected resampled => rfl
  | _ => exact (List.append_nil _).symm

def Selection.rejected (selection : Selection intervals) : Nat :=
  selection.rejectedNotOffMap + selection.rejectedUnobservable + selection.rejectedDirection +
    selection.rejectedStationary + selection.rejectedQuality + selection.rejectedShort

/-- The interval is counted once. -/
theorem total_record (selection : Selection intervals) (index : Fin intervals.length)
    (decided : Verdict) :
    (selection.record index decided).selected.length + (selection.record index decided).rejected =
      selection.selected.length + selection.rejected + 1 := by
  cases decided with
  | selected resampled =>
    simp only [Selection.record, Selection.rejected, List.length_append, List.length_singleton]
    omega
  | _ =>
    simp only [Selection.record, Selection.rejected]
    omega

/-- The selection of the intervals at these positions. -/
structure Selects (library : StandardLibrary) (parameters : Parameters)
    (indices : List (Fin intervals.length)) (selection : Selection intervals) : Prop where
  selected : selection.selected.map Selected.core =
    (indices.map intervals.get).filterMap (kept library parameters)
  positions : (selection.selected.map Selected.index).Sublist indices
  counted : ∀ reason : Verdict, reason.rejects = true → selection.rejectedAs reason =
    (indices.map intervals.get).countP fun interval => decided library parameters interval = reason
  total : selection.selected.length + selection.rejected = indices.length

theorem Selects.record {indices : List (Fin intervals.length)} {selection : Selection intervals}
    (h : Selects library parameters indices selection) (index : Fin intervals.length) :
    Selects library parameters (indices ++ [index])
      (selection.record index (decided library parameters (intervals.get index))) where
  selected := by
    rw [selected_record, List.map_append, h.selected, List.map_append, List.filterMap_append]
    congr 1
    rw [List.map_singleton, List.filterMap_cons, kept]
    cases decided library parameters (intervals.get index) with
    | selected resampled => rfl
    | _ => rfl
  positions := by
    rw [selected_record, List.map_append]
    apply h.positions.append
    cases decided library parameters (intervals.get index) with
    | selected resampled => exact List.Sublist.refl _
    | _ => exact List.nil_sublist _
  counted := by
    intro reason hreason
    rw [rejectedAs_record _ _ _ _ hreason, h.counted reason hreason, List.map_append,
      List.countP_append, List.map_singleton, List.countP_singleton]
    simp only [decide_eq_true_eq]
  total := by
    rw [total_record, h.total, List.length_append]
    rfl

theorem select_selects (hcount : 2 ≤ parameters.resamplePointCount)
    (hvalid : ∀ interval ∈ intervals, ValidInterval library parameters interval) :
    ∃ selection, select library intervals parameters = .ok selection ∧
      Selects library parameters (List.finRange intervals.length) selection := by
  have hrun : ∀ (rest done : List (Fin intervals.length)) (start : Selection intervals),
      Selects library parameters done start → ∃ selection,
        rest.foldlM (fun selection index => do
          let decided ← verdict library parameters (intervals.get index)
          pure (selection.record index decided)) start = (.ok selection : Except InvalidArgument _) ∧
        Selects library parameters (done ++ rest) selection := by
    intro rest
    induction rest with
    | nil =>
      intro done start hstart
      rw [List.append_nil]
      exact ⟨start, rfl, hstart⟩
    | cons index rest ih =>
      intro done start hstart
      have hverdict := verdict_eq hcount (hvalid _ (List.get_mem intervals index))
      obtain ⟨selection, hselection, hselects⟩ := ih (done ++ [index]) _ (hstart.record index)
      refine ⟨selection, ?_, ?_⟩
      · rw [List.foldlM_cons, hverdict]
        exact hselection
      · rwa [List.append_assoc] at hselects
  have hempty : Selects library parameters [] (⟨[], 0, 0, 0, 0, 0, 0⟩ : Selection intervals) := by
    refine ⟨rfl, List.Sublist.refl _, ?_, rfl⟩
    intro reason hreason
    cases reason <;> rfl
  exact hrun _ [] _ hempty

end Selections

end CartoSentry.Topology
