import CartoSentry.Foundation.DoubleArithmetic
import CartoSentry.Foundation.Outcome
import CartoSentry.Foundation.RecordStream

set_option autoImplicit false

/-!
# Boreas adapter: lidar records

`decode_boreas_lidar_record` on 24 bytes, and `iter_boreas_lidar_records` on a frame that comes
in chunks.  The generator carries the bytes of a record that a chunk leaves incomplete.
-/

namespace CartoSentry.Adapters

open Foundation (Double nearestEven slices slices_append slices_take_complete slices_eq_nil
  length_slices decodeFrom decodeFrom_spec decodeFrom_eq_none Decoded exists_decoded_iff)

/-! ## Errors -/

structure BoreasAdapterError where
  sourceKey : String
  record : Nat
  field : String
  detail : String
  deriving DecidableEq, Repr

/-- The text of the error: `_error`. -/
def BoreasAdapterError.message (error : BoreasAdapterError) : String :=
  "Invalid Boreas input at " ++ error.sourceKey ++
    (if error.record = 0 then "" else ":record-" ++ toString error.record) ++
    (if error.field = "" then "" else ":" ++ error.field) ++ ": " ++ error.detail

/-! ## One record -/

/-- `LIDAR_RECORD_BYTES` -/
def lidarRecordBytes : Nat := 24

/-- `MAXIMUM_BOREAS_LIDAR_FRAME_BYTES` -/
def maximumBoreasLidarFrameBytes : Nat := 16 * 1024 * 1024

/-- The six values of a record: position, intensity, laser and time offset. -/
structure LidarValues where
  x : Double
  y : Double
  z : Double
  intensity : Double
  laserId : Double
  timeOffset : Double
  deriving DecidableEq, Repr

def LidarValues.isFinite (values : LidarValues) : Bool :=
  values.x.isFinite && values.y.isFinite && values.z.isFinite && values.intensity.isFinite &&
    values.laserId.isFinite && values.timeOffset.isFinite

structure LidarRecord where
  values : LidarValues
  bits : List Nat
  deriving DecidableEq, Repr

/-- A number of bytes, the lowest first. -/
def littleEndian : List UInt8 → Nat
  | [] => 0
  | byte :: rest => byte.toNat + 256 * littleEndian rest

section Records

variable (unpack : List UInt8 → LidarValues)

/-- `decode_boreas_lidar_record`, with `LIDAR_RECORD.unpack` given. -/
def decodeBoreasLidarRecord (content : List UInt8) (sourceKey : String) (recordNumber : Nat) :
    Except BoreasAdapterError LidarRecord :=
  if content.length ≠ lidarRecordBytes then
    .error ⟨sourceKey, recordNumber, "record_layout", "exactly 24 bytes required"⟩
  else
    let values := unpack content
    let bits := (slices 4 content).map littleEndian
    if values.isFinite = false then
      .error ⟨sourceKey, recordNumber, "point", "all six float32 fields must be finite"⟩
    else if ¬ (0 ≤ values.laserId.number ∧ values.laserId.number ≤ 127) ∨
        nearestEven values.laserId.number ≠ values.laserId.number then
      .error ⟨sourceKey, recordNumber, "laser_id", "integer in [0,127] required"⟩
    else .ok ⟨values, bits⟩

/-! ## A frame in chunks -/

/-- What the generator carries from one chunk to the next. -/
structure FrameState where
  totalBytes : Nat
  recordIndex : Nat
  pending : List UInt8

def layoutError (sourceKey : String) (recordIndex : Nat) : BoreasAdapterError :=
  ⟨sourceKey, recordIndex + 1, "record_layout",
    "byte count must be a bounded nonzero multiple of 24"⟩

/-- The complete records of a block. -/
def decodeBlock (sourceKey : String) (recordIndex : Nat) (block : List UInt8) :
    List (Nat × LidarRecord) × Option BoreasAdapterError :=
  decodeFrom (fun index content => decodeBoreasLidarRecord unpack content sourceKey (index + 1))
    recordIndex (slices lidarRecordBytes block)

/-- What is yielded from a state on, and the error that ends it. -/
def iterFrom (sourceKey : String) :
    FrameState → List (List UInt8) → List (Nat × LidarRecord) × Option BoreasAdapterError
  | state, [] =>
    ([], if state.totalBytes = 0 ∨ state.pending ≠ [] then
      some (layoutError sourceKey state.recordIndex) else none)
  | state, chunk :: chunks =>
    if maximumBoreasLidarFrameBytes < state.totalBytes + chunk.length then
      ([], some (layoutError sourceKey state.recordIndex))
    else
      let block := state.pending ++ chunk
      let completeBytes := block.length - block.length % lidarRecordBytes
      let decoded := decodeBlock unpack sourceKey state.recordIndex block
      if decoded.2 = none then
        let later := iterFrom sourceKey ⟨state.totalBytes + chunk.length,
          state.recordIndex + decoded.1.length, block.drop completeBytes⟩ chunks
        (decoded.1 ++ later.1, later.2)
      else decoded

/-- `iter_boreas_lidar_records` -/
def iterBoreasLidarRecords (chunks : List (List UInt8)) (sourceKey : String) :
    List (Nat × LidarRecord) × Option BoreasAdapterError :=
  iterFrom unpack sourceKey ⟨0, 0, []⟩ chunks

/-- `parse_boreas_lidar_frame_bytes`: the number of records of a frame in one piece. -/
def parseBoreasLidarFrameBytes (content : List UInt8) (sourceKey : String) :
    Except BoreasAdapterError Nat :=
  let result := iterBoreasLidarRecords unpack [content] sourceKey
  match result.2 with
  | some error => .error error
  | none => .ok result.1.length

end Records

/-! ## The loop -/

section Loop

variable (unpack : List UInt8 → LidarValues) (sourceKey : String)

/-- The decoder of the loop: the record of an index, counted from one on in its errors. -/
def decodeIndexed (index : Nat) (content : List UInt8) : Except BoreasAdapterError LidarRecord :=
  decodeBoreasLidarRecord unpack content sourceKey (index + 1)

/-- Less than a record is pending, and the total counts what went before it. -/
structure FrameState.Valid (state : FrameState) : Prop where
  short : state.pending.length < lidarRecordBytes
  total : state.totalBytes = lidarRecordBytes * state.recordIndex + state.pending.length
  bounded : state.totalBytes ≤ maximumBoreasLidarFrameBytes

/-- The layout of a frame: its bytes are complete records, at least one and not too many. -/
structure FrameLayout (totalBytes : Nat) : Prop where
  nonempty : totalBytes ≠ 0
  bounded : totalBytes ≤ maximumBoreasLidarFrameBytes
  complete : lidarRecordBytes ∣ totalBytes

variable {unpack sourceKey}

theorem exists_take_append {A : Type} (items more : List A) (count : Nat) :
    ∃ other, (items ++ more).take other = items.take count := by
  refine ⟨min count items.length, ?_⟩
  rw [List.take_append_of_le_length (Nat.min_le_right _ _), ← List.take_take, List.take_length]

/-- A block of records in front of the rest of the frame. -/
theorem slices_block {pending chunk : List UInt8} (rest : List UInt8) :
    slices lidarRecordBytes (pending ++ chunk ++ rest) =
      slices lidarRecordBytes (pending ++ chunk) ++
        slices lidarRecordBytes ((pending ++ chunk).drop ((pending ++ chunk).length -
          (pending ++ chunk).length % lidarRecordBytes) ++ rest) := by
  have hsize : 0 < lidarRecordBytes := by decide
  generalize pending ++ chunk = block
  have hcomplete : (block.take (block.length - block.length % lidarRecordBytes)).length =
      lidarRecordBytes * (block.length / lidarRecordBytes) := by
    rw [List.length_take]
    have hdivision := Nat.mod_add_div block.length lidarRecordBytes
    omega
  have happend := slices_append hsize hcomplete
    (block.drop (block.length - block.length % lidarRecordBytes) ++ rest)
  rw [← List.append_assoc, List.take_append_drop, slices_take_complete hsize] at happend
  exact happend

/-- The state behind a block. -/
theorem FrameState.Valid.next {state : FrameState} (h : state.Valid) (chunk : List UInt8)
    (hbounded : state.totalBytes + chunk.length ≤ maximumBoreasLidarFrameBytes) :
    FrameState.Valid ⟨state.totalBytes + chunk.length,
      state.recordIndex + (slices lidarRecordBytes (state.pending ++ chunk)).length,
      (state.pending ++ chunk).drop ((state.pending ++ chunk).length -
        (state.pending ++ chunk).length % lidarRecordBytes)⟩ := by
  have htotal := h.total
  have hlength : (state.pending ++ chunk).length = state.pending.length + chunk.length :=
    List.length_append
  have hdivision := Nat.mod_add_div (state.pending ++ chunk).length lidarRecordBytes
  have hmod := Nat.mod_lt (state.pending ++ chunk).length (show 0 < lidarRecordBytes by decide)
  refine ⟨?_, ?_, hbounded⟩
  · rw [List.length_drop]
    omega
  · dsimp only
    rw [length_slices, List.length_drop, Nat.mul_add]
    omega

/-- What is yielded from a state on is a prefix of the records that are left. -/
theorem iterFrom_prefix (state : FrameState) (chunks : List (List UInt8)) :
    ∃ count, Decoded (decodeIndexed unpack sourceKey) state.recordIndex
      ((slices lidarRecordBytes (state.pending ++ chunks.flatten)).take count)
      (iterFrom unpack sourceKey state chunks).1 := by
  induction chunks generalizing state with
  | nil => exact ⟨0, rfl⟩
  | cons chunk chunks ih =>
    rw [iterFrom]
    split_ifs with hover
    · exact ⟨0, rfl⟩
    · obtain ⟨⟨count, hcount⟩, hall⟩ := decodeFrom_spec (decodeIndexed unpack sourceKey)
        state.recordIndex (slices lidarRecordBytes (state.pending ++ chunk))
      rw [List.flatten_cons, ← List.append_assoc, slices_block]
      dsimp only
      split_ifs with hnone
      · have hblock := hall hnone
        obtain ⟨later, hlater⟩ := ih ⟨state.totalBytes + chunk.length, state.recordIndex +
          (decodeBlock unpack sourceKey state.recordIndex (state.pending ++ chunk)).1.length,
          (state.pending ++ chunk).drop ((state.pending ++ chunk).length -
            (state.pending ++ chunk).length % lidarRecordBytes)⟩
        refine ⟨(slices lidarRecordBytes (state.pending ++ chunk)).length + later, ?_⟩
        rw [List.take_length_add_append]
        refine hblock.append ?_
        rw [← hblock.length]
        exact hlater
      · obtain ⟨other, hother⟩ := exists_take_append
          (slices lidarRecordBytes (state.pending ++ chunk)) _ count
        exact ⟨other, by rw [hother]; exact hcount⟩

/-- Without an error all of the records are yielded. -/
theorem iterFrom_complete {state : FrameState} (h : state.Valid) {chunks : List (List UInt8)}
    (hnone : (iterFrom unpack sourceKey state chunks).2 = none) :
    FrameLayout (state.totalBytes + chunks.flatten.length) ∧
      Decoded (decodeIndexed unpack sourceKey) state.recordIndex
        (slices lidarRecordBytes (state.pending ++ chunks.flatten))
        (iterFrom unpack sourceKey state chunks).1 := by
  induction chunks generalizing state with
  | nil =>
    rw [iterFrom] at hnone ⊢
    dsimp only at hnone ⊢
    split_ifs at hnone with hlayout
    rw [not_or, not_not] at hlayout
    rw [List.flatten_nil, List.append_nil, slices_eq_nil h.short]
    refine ⟨⟨hlayout.1, h.bounded, ?_⟩, rfl⟩
    rw [List.length_nil, h.total, hlayout.2]
    exact Nat.dvd_mul_right _ _
  | cons chunk chunks ih =>
    rw [iterFrom] at hnone ⊢
    by_cases hover : maximumBoreasLidarFrameBytes < state.totalBytes + chunk.length
    · rw [if_pos hover] at hnone
      cases hnone
    · obtain ⟨-, hall⟩ := decodeFrom_spec (decodeIndexed unpack sourceKey)
        state.recordIndex (slices lidarRecordBytes (state.pending ++ chunk))
      rw [if_neg hover] at hnone ⊢
      rw [List.flatten_cons, ← List.append_assoc, slices_block]
      dsimp only at hnone ⊢
      split_ifs at hnone ⊢ with hdecoded
      · have hblock := hall hdecoded
        have hvalid := h.next chunk (not_lt.mp hover)
        rw [← hblock.length] at hvalid
        obtain ⟨hlayout, hlater⟩ := ih hvalid hnone
        rw [List.length_append, ← Nat.add_assoc]
        refine ⟨hlayout, hblock.append ?_⟩
        rw [← hblock.length]
        exact hlater
      · exact absurd hnone hdecoded

/-- Where the layout is right and the records can be decoded there is no error. -/
theorem iterFrom_accepts {state : FrameState} (h : state.Valid) {chunks : List (List UInt8)}
    (hlayout : FrameLayout (state.totalBytes + chunks.flatten.length))
    (hdecoded : ∃ yielded, Decoded (decodeIndexed unpack sourceKey) state.recordIndex
      (slices lidarRecordBytes (state.pending ++ chunks.flatten)) yielded) :
    (iterFrom unpack sourceKey state chunks).2 = none := by
  induction chunks generalizing state with
  | nil =>
    rw [iterFrom]
    rw [List.flatten_nil, List.length_nil, Nat.add_zero] at hlayout
    have hcomplete := hlayout.complete
    rw [h.total, Nat.dvd_add_right (Nat.dvd_mul_right _ _)] at hcomplete
    have hpending : state.pending = [] :=
      List.length_eq_zero_iff.mp (Nat.eq_zero_of_dvd_of_lt hcomplete h.short)
    exact if_neg (not_or.mpr ⟨hlayout.nonempty, not_not.mpr hpending⟩)
  | cons chunk chunks ih =>
    rw [List.flatten_cons, List.length_append, ← Nat.add_assoc] at hlayout
    have hbounded := hlayout.bounded
    rw [List.flatten_cons, ← List.append_assoc, slices_block] at hdecoded
    obtain ⟨yielded, hyielded⟩ := hdecoded
    obtain ⟨⟨first, hfirst⟩, hlater⟩ := hyielded.split
    have hnone : (decodeBlock unpack sourceKey state.recordIndex (state.pending ++ chunk)).2 =
        none := decodeFrom_eq_none hfirst
    have hblock := (decodeFrom_spec (decodeIndexed unpack sourceKey) state.recordIndex
      (slices lidarRecordBytes (state.pending ++ chunk))).2 hnone
    have hvalid := h.next chunk (by omega)
    rw [← hblock.length] at hvalid hlater
    rw [iterFrom, if_neg (by omega)]
    dsimp only
    rw [if_pos hnone]
    exact ih hvalid hlayout hlater

end Loop

/-! ## Frames -/

section Frames

variable (unpack : List UInt8 → LidarValues) (sourceKey : String)

/-- A frame that is accepted: of the right layout, and of records that are accepted. -/
structure AcceptedFrame (content : List UInt8) : Prop where
  nonempty : content ≠ []
  bounded : content.length ≤ maximumBoreasLidarFrameBytes
  complete : lidarRecordBytes ∣ content.length
  records : ∀ record ∈ slices lidarRecordBytes content, ∃ value,
    decodeBoreasLidarRecord unpack record sourceKey 1 = .ok value

/-- Whether a record is accepted, and as what, does not depend on its number. -/
theorem decodeIndexed_same (index other : Nat) (content : List UInt8) (value : LidarRecord)
    (h : decodeIndexed unpack sourceKey index content = .ok value) :
    decodeIndexed unpack sourceKey other content = .ok value := by
  unfold decodeIndexed decodeBoreasLidarRecord at h ⊢
  dsimp only at h ⊢
  split_ifs at h ⊢
  exact h

theorem acceptedFrame_iff (chunks : List (List UInt8)) :
    (iterBoreasLidarRecords unpack chunks sourceKey).2 = none ↔
      AcceptedFrame unpack sourceKey chunks.flatten := by
  have hstart : FrameState.Valid ⟨0, 0, []⟩ := ⟨by decide, rfl, Nat.zero_le _⟩
  have hrecords := exists_decoded_iff (decodeIndexed_same unpack sourceKey) 0
    (slices lidarRecordBytes chunks.flatten)
  constructor
  · intro h
    obtain ⟨hlayout, hdecoded⟩ := iterFrom_complete hstart h
    dsimp only at hlayout
    rw [Nat.zero_add] at hlayout
    exact ⟨fun hempty => hlayout.nonempty (List.length_eq_zero_iff.mpr hempty), hlayout.bounded,
      hlayout.complete, hrecords.mp ⟨_, hdecoded⟩⟩
  · intro h
    refine iterFrom_accepts hstart ⟨?_, ?_, ?_⟩ (hrecords.mpr h.records)
    · dsimp only
      rw [Nat.zero_add]
      exact fun hempty => h.nonempty (List.length_eq_zero_iff.mp hempty)
    · dsimp only
      rw [Nat.zero_add]
      exact h.bounded
    · dsimp only
      rw [Nat.zero_add]
      exact h.complete

/-- The verdict on a frame and its records do not depend on the chunks it comes in. -/
theorem lidar_records_chunking (chunks : List (List UInt8)) :
    ((iterBoreasLidarRecords unpack chunks sourceKey).2 = none ↔
        AcceptedFrame unpack sourceKey chunks.flatten) ∧
      (AcceptedFrame unpack sourceKey chunks.flatten →
        Decoded (decodeIndexed unpack sourceKey) 0 (slices lidarRecordBytes chunks.flatten)
          (iterBoreasLidarRecords unpack chunks sourceKey).1) ∧
      (∃ count, Decoded (decodeIndexed unpack sourceKey) 0
        ((slices lidarRecordBytes chunks.flatten).take count)
          (iterBoreasLidarRecords unpack chunks sourceKey).1) ∧
      ∀ others : List (List UInt8), others.flatten = chunks.flatten →
        ((iterBoreasLidarRecords unpack others sourceKey).2 = none ↔
          (iterBoreasLidarRecords unpack chunks sourceKey).2 = none) ∧
        ((iterBoreasLidarRecords unpack chunks sourceKey).2 = none →
          iterBoreasLidarRecords unpack others sourceKey =
            iterBoreasLidarRecords unpack chunks sourceKey) := by
  have hstart : FrameState.Valid ⟨0, 0, []⟩ := ⟨by decide, rfl, Nat.zero_le _⟩
  have hverdict := acceptedFrame_iff unpack sourceKey
  refine ⟨hverdict chunks, fun h => ?_, iterFrom_prefix ⟨0, 0, []⟩ chunks, fun others hsame => ?_⟩
  · exact (iterFrom_complete hstart ((hverdict chunks).mpr h)).2
  · have hboth : (iterBoreasLidarRecords unpack others sourceKey).2 = none ↔
        (iterBoreasLidarRecords unpack chunks sourceKey).2 = none := by
      rw [hverdict, hverdict, hsame]
    refine ⟨hboth, fun hnone => Prod.ext ?_ ((hboth.mpr hnone).trans hnone.symm)⟩
    have hothers := (iterFrom_complete hstart (hboth.mpr hnone)).2
    rw [hsame] at hothers
    exact hothers.unique (iterFrom_complete hstart hnone).2

end Frames

end CartoSentry.Adapters
