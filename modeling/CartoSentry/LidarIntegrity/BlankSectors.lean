import CartoSentry.Foundation.CircularRuns
import CartoSentry.LidarIntegrity.Analyzer

set_option autoImplicit false

/-!
# Lidar integrity: blank sectors

`_maximum_circular_blank_bins` is the longest run of blank bins on the circle, wherever the
circle is cut open.
-/

namespace CartoSentry.LidarIntegrity

open Foundation (Double IsCircularRun IsLongest scanStep isLongest_scan bind_eq_ok_iff)

def isBlank (count : Nat) : Bool :=
  count == 0

/-- The loop over the bins written twice. -/
theorem foldl_eq_scan (counts : List Nat) :
    (counts.foldl (fun (state : Nat × Nat) count =>
      if count = 0 then (max state.1 (state.2 + 1), state.2 + 1) else (state.1, 0)) (0, 0)) =
      counts.foldl (scanStep isBlank) (0, 0) := by
  congr 1
  funext state count
  rw [scanStep, isBlank]
  simp only [beq_iff_eq]

/-- Where every bin is blank the circle is one run. -/
theorem isLongest_of_all_blank {counts : List Nat} (h : ∀ count ∈ counts, count = 0) :
    IsLongest isBlank counts counts.length where
  reached := by
    refine ⟨0, le_rfl, fun k hk => ?_⟩
    rw [Nat.zero_add, Nat.mod_eq_of_lt hk, List.getElem?_eq_getElem hk, Option.any_some, isBlank,
      beq_iff_eq]
    exact h _ (List.getElem_mem hk)
  greatest _ _ hrun := hrun.1

theorem isLongest_blank_bins (counts : List Nat) :
    IsLongest isBlank counts (maximumCircularBlankBins counts) := by
  unfold maximumCircularBlankBins
  split_ifs with hall
  · refine isLongest_of_all_blank fun count hmem => ?_
    exact of_decide_eq_true (List.all_eq_true.mp hall count hmem)
  · dsimp only
    rw [foldl_eq_scan]
    exact isLongest_scan counts

/-- The longest run of blank bins, the whole circle where all of them are, and the same for
every rotation. -/
theorem blank_bins_exact (counts : List Nat) :
    IsLongest isBlank counts (maximumCircularBlankBins counts) ∧
      ((∀ count ∈ counts, count = 0) → maximumCircularBlankBins counts = counts.length) ∧
      ∀ turn, maximumCircularBlankBins (counts.rotate turn) = maximumCircularBlankBins counts := by
  have hlongest := isLongest_blank_bins counts
  refine ⟨hlongest, fun hblank => hlongest.unique (isLongest_of_all_blank hblank), fun turn => ?_⟩
  exact (isLongest_blank_bins (counts.rotate turn)).unique (hlongest.rotate turn)

/-- A sector is reported lost where more bins in a row are blank than the model allows. -/
theorem sector_reported_iff {model : LidarSensorModel} {frame : LidarFrameInput}
    {common : List (String × Double)} {counts : List Nat} {failures : List RawFailure}
    (h : sectorFailures model frame common (maximumCircularBlankBins counts) = .ok failures) :
    failures ≠ [] ↔
      ∃ start, IsCircularRun isBlank counts start (model.maximumBlankAzimuthBins + 1) := by
  have hlongest := isLongest_blank_bins counts
  have hlost : model.maximumBlankAzimuthBins < maximumCircularBlankBins counts ↔
      ∃ start, IsCircularRun isBlank counts start (model.maximumBlankAzimuthBins + 1) := by
    constructor
    · intro hover
      obtain ⟨start, hrun⟩ := hlongest.reached
      exact ⟨start, Nat.le_trans hover hrun.1, fun k hk => hrun.2 k (by omega)⟩
    · rintro ⟨start, hrun⟩
      exact hlongest.greatest start _ hrun
  rw [← hlost]
  unfold sectorFailures at h
  split_ifs at h with hover
  · obtain ⟨value, -, h⟩ := bind_eq_ok_iff.mp h
    rw [← Except.ok.inj h]
    exact ⟨fun _ => hover, fun _ => List.cons_ne_nil _ _⟩
  · rw [← Except.ok.inj h]
    exact ⟨fun hne => absurd rfl hne, fun habove => absurd habove hover⟩

end CartoSentry.LidarIntegrity
