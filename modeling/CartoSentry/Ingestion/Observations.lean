import CartoSentry.Ingestion.Recording
import Mathlib.Data.Finset.Card
import Mathlib.Data.Finset.Dedup
import Mathlib.Data.List.Sort

set_option autoImplicit false

/-!
# Ingestion: what the ranges and the findings say

A range accumulator describes the timestamps it has observed. A collector never loses that
something blocks, also where it has to drop findings.
-/

namespace CartoSentry.Ingestion

open Artifacts (StreamId sortedBy)

/-! ## Ranges -/

namespace RangeAccumulator

variable {accumulator : RangeAccumulator} {streamId : StreamId} {kind : RecordKind}
  {times : List Int} {time : Int}

/-- The accumulator of these timestamps, where those seen before are counted. -/
structure Describes (accumulator : RangeAccumulator) (streamId : StreamId) (kind : RecordKind)
    (times : List Int) : Prop where
  stream : accumulator.streamId = streamId
  kind : accumulator.recordKind = kind
  count : accumulator.count = times.length
  minimum : accumulator.minimum = times.min?
  maximum : accumulator.maximum = times.max?
  previous : accumulator.previous = times.getLast?
  ordered : accumulator.nondecreasing = true ↔ times.Pairwise (· ≤ ·)
  duplicates : accumulator.duplicates + times.toFinset.card = times.length

theorem describes_nil (streamId : StreamId) (kind : RecordKind) :
    Describes { streamId := streamId, recordKind := kind } streamId kind [] :=
  ⟨rfl, rfl, rfl, rfl, rfl, rfl, by simp, rfl⟩

theorem pairwise_concat_iff (previous : times.Pairwise (· ≤ ·)) :
    (times ++ [time]).Pairwise (· ≤ ·) ↔ times.getLast?.all (fun last => last ≤ time) = true := by
  rw [List.pairwise_append]
  rcases List.eq_nil_or_concat times with rfl | ⟨front, last, rfl⟩
  · simp
  rw [List.concat_eq_append] at previous ⊢
  rw [List.getLast?_concat, Option.all_some, decide_eq_true_eq]
  constructor
  · rintro ⟨-, -, hle⟩
    exact hle last (by simp) time (by simp)
  · intro hle
    refine ⟨previous, List.pairwise_singleton _ _, fun earlier hearlier later hlater => ?_⟩
    obtain rfl := List.mem_singleton.mp hlater
    rw [List.mem_append, List.mem_singleton] at hearlier
    rcases hearlier with hfront | rfl
    · exact ((List.pairwise_append.mp previous).2.2 earlier hfront last (by simp)).trans hle
    · exact hle

theorem toFinset_concat (times : List Int) (time : Int) :
    (times ++ [time]).toFinset = insert time times.toFinset := by
  ext other
  simp

/-- What observing a timestamp does apart from counting it as repeated. -/
theorem Describes.observe (h : Describes accumulator streamId kind times) (repeats : Nat)
    (hrepeats : accumulator.duplicates + repeats + (times ++ [time]).toFinset.card =
      times.length + 1) :
    Describes { accumulator.observe time with duplicates := accumulator.duplicates + repeats }
      streamId kind (times ++ [time]) where
  stream := h.stream
  kind := h.kind
  count := by
    rw [List.length_append, List.length_singleton, ← h.count]
    rfl
  minimum := by
    change some (accumulator.minimum.elim time (min · time)) = _
    rw [h.minimum]
    cases times with
    | nil => rfl
    | cons first rest =>
      rw [List.min?_cons', List.cons_append, List.min?_cons', List.foldl_append]
      rfl
  maximum := by
    change some (accumulator.maximum.elim time (max · time)) = _
    rw [h.maximum]
    cases times with
    | nil => rfl
    | cons first rest =>
      rw [List.max?_cons', List.cons_append, List.max?_cons', List.foldl_append]
      rfl
  previous := by
    rw [List.getLast?_concat]
    rfl
  ordered := by
    change (accumulator.nondecreasing && accumulator.previous.all fun previous =>
      previous ≤ time) = true ↔ _
    rw [Bool.and_eq_true, h.ordered, h.previous]
    constructor
    · rintro ⟨hsorted, hlast⟩
      exact (pairwise_concat_iff hsorted).mpr hlast
    · intro hsorted
      have hfront := (List.pairwise_append.mp hsorted).1
      exact ⟨hfront, (pairwise_concat_iff hfront).mp hsorted⟩
  duplicates := by
    rw [List.length_append, List.length_singleton]
    exact hrepeats

theorem Describes.observeFresh (h : Describes accumulator streamId kind times)
    (hfresh : time ∉ times) :
    Describes (accumulator.observe time) streamId kind (times ++ [time]) := by
  refine h.observe 0 ?_
  rw [toFinset_concat, Finset.card_insert_of_notMem (by rwa [List.mem_toFinset])]
  have := h.duplicates
  omega

theorem Describes.observeRepeated (h : Describes accumulator streamId kind times)
    (hseen : time ∈ times) :
    Describes (accumulator.observe time).repeated streamId kind (times ++ [time]) := by
  refine h.observe 1 ?_
  rw [toFinset_concat, Finset.insert_eq_of_mem (by rwa [List.mem_toFinset])]
  have := h.duplicates
  omega

end RangeAccumulator

/-- The range of these timestamps. -/
structure RangeOf (streamId : StreamId) (kind : RecordKind) (times : List Int)
    (range : SourceRangeSummary) : Prop where
  stream : range.streamId = streamId
  kind : range.recordKind = kind
  count : range.recordCount = times.length
  minimum : range.minimumTimeNs ∈ times ∧ ∀ time ∈ times, range.minimumTimeNs ≤ time
  maximum : range.maximumTimeNs ∈ times ∧ ∀ time ∈ times, time ≤ range.maximumTimeNs
  ordered : range.timestampsNondecreasingInSourceOrder = true ↔ times.Pairwise (· ≤ ·)
  duplicates : range.duplicateTimestampCount + times.toFinset.card = times.length

theorem RangeAccumulator.Describes.finish {accumulator : RangeAccumulator} {streamId : StreamId}
    {kind : RecordKind} {times : List Int} {range : SourceRangeSummary}
    (h : accumulator.Describes streamId kind times) (hfinish : accumulator.finish = .ok range) :
    RangeOf streamId kind times range := by
  unfold RangeAccumulator.finish at hfinish
  split at hfinish
  · split at hfinish
    · rename_i minimum maximum hminimum hmaximum
      obtain rfl := Except.ok.inj hfinish
      rw [h.minimum] at hminimum
      rw [h.maximum] at hmaximum
      exact ⟨h.stream, h.kind, h.count, List.min?_eq_some_iff.mp hminimum,
        List.max?_eq_some_iff.mp hmaximum, h.ordered, h.duplicates⟩
    · cases hfinish
  · cases hfinish

theorem RangeAccumulator.finish_duplicates {accumulator : RangeAccumulator}
    {range : SourceRangeSummary} (h : accumulator.finish = .ok range) :
    range.duplicateTimestampCount = accumulator.duplicates := by
  unfold RangeAccumulator.finish at h
  split at h
  · split at h
    · obtain rfl := Except.ok.inj h
      rfl
    · cases h
  · cases h

theorem RangeOf.nodup {streamId : StreamId} {kind : RecordKind} {times : List Int}
    {range : SourceRangeSummary} (h : RangeOf streamId kind times range)
    (hnone : range.duplicateTimestampCount = 0) : times.Nodup := by
  have hcard := h.duplicates
  rw [hnone, Nat.zero_add] at hcard
  exact Multiset.coe_nodup.mp (Multiset.toFinset_card_eq_card_iff_nodup.mp hcard)

/-! ## Findings -/

namespace FindingCollector

variable {collector : FindingCollector} {maximum : Nat}

/-- A collector within its limit, whose limit blocks once it is reported. -/
structure Sound (maximum : Nat) (collector : FindingCollector) : Prop where
  limit : collector.maximum = maximum
  positive : 0 < maximum
  bounded : collector.findings.length ≤ maximum
  reported : collector.limitReported = true → collector.hasBlocking = true

theorem sound_create (h : 0 < maximum) : (create maximum).Sound maximum :=
  ⟨rfl, h, Nat.zero_le _, fun hreported => by cases hreported⟩

theorem hasBlocking_concat (findings : List StructuralFinding) (finding : StructuralFinding) :
    (findings ++ [finding]).any StructuralFinding.isBlocking =
      (findings.any StructuralFinding.isBlocking || finding.isBlocking) := by
  rw [List.any_append, List.any_cons, List.any_nil, Bool.or_false]

theorem Sound.add (h : collector.Sound maximum) (finding : StructuralFinding) :
    (collector.add finding).Sound maximum ∧
      (collector.hasBlocking = true ∨ finding.isBlocking = true →
        (collector.add finding).hasBlocking = true) := by
  unfold FindingCollector.add
  split
  · rename_i hroom
    refine ⟨⟨h.limit, h.positive, ?_, fun hreported => ?_⟩, fun hblocking => ?_⟩
    · rw [List.length_append, List.length_singleton, ← h.limit]
      exact hroom
    · change (collector.findings ++ [finding]).any _ = true
      rw [hasBlocking_concat, Bool.or_eq_true]
      exact .inl (h.reported hreported)
    · change (collector.findings ++ [finding]).any _ = true
      rwa [hasBlocking_concat, Bool.or_eq_true]
  · split
    · rename_i hreported
      exact ⟨h, fun _ => h.reported hreported⟩
    · have hlimit : (collector.findings.dropLast ++ [limitExceeded]).any
          StructuralFinding.isBlocking = true := by
        rw [hasBlocking_concat, Bool.or_eq_true]
        exact .inr rfl
      refine ⟨⟨h.limit, h.positive, ?_, fun _ => hlimit⟩, fun _ => hlimit⟩
      rw [List.length_append, List.length_singleton, List.length_dropLast]
      have hbounded := h.bounded
      have hpositive := h.positive
      omega

theorem any_values (collector : FindingCollector) :
    collector.values.any StructuralFinding.isBlocking = collector.hasBlocking := by
  rw [Bool.eq_iff_iff, hasBlocking, List.any_eq_true, List.any_eq_true]
  unfold values sortedBy
  simp only [List.mem_insertionSort]

theorem Sound.values_length_le (h : collector.Sound maximum) :
    collector.values.length ≤ maximum := by
  unfold values sortedBy
  rw [List.length_insertionSort]
  exact h.bounded

/-- The collector is sound, and something blocks where `F` holds. -/
def Noted (maximum : Nat) (F : Prop) (collector : FindingCollector) : Prop :=
  collector.Sound maximum ∧ (F → collector.hasBlocking = true)

theorem Noted.add {F : Prop} (h : collector.Noted maximum F) (finding : StructuralFinding) :
    (collector.add finding).Noted maximum (F ∨ finding.isBlocking = true) := by
  obtain ⟨hsound, hblocking⟩ := h.1.add finding
  exact ⟨hsound, fun hF => hblocking (hF.imp_left h.2)⟩

theorem Noted.of_imp {F F' : Prop} (h : collector.Noted maximum F) (hF : F' → F) :
    collector.Noted maximum F' :=
  ⟨h.1, fun hF' => h.2 (hF hF')⟩

end FindingCollector

end CartoSentry.Ingestion
