import CartoSentry.Ingestion.ManifestIdentity
import CartoSentry.Foundation.Sha256

set_option autoImplicit false

/-!
# Ingestion: accepted manifests

When an accepted manifest has one timestamp entry for each stream and keeps its
identifier in every order of its lists, and that the builder's manifests are accepted.
The validator compares the streams of the timestamp entries as a set only, so it accepts
two entries for one stream.
-/

namespace CartoSentry.Ingestion

open Artifacts
open SequenceManifest (Rearranged validate_eq_ok_iff)
open Foundation (JsonValue Sha256.hexdigest Sha256.hexdigest_length Sha256.mem_hexdigest)

/-- An accepted manifest has one timestamp entry for each stream, and is accepted under the
same identifier in every order of its lists, exactly when no two of its timestamp entries
name one stream. A manifest that the builder assembles from distinct sources, calibrations
and sensors is accepted, and its identity payload is the builder's. -/
theorem sequence_identity_iff (platform : Platform) :
    (∀ manifest : SequenceManifest, manifest.validate platform = .ok () →
      (((∀ sensor ∈ manifest.sensors, manifest.metadataStreams.count sensor.streamId = 1) ∧
          ∀ other, Rearranged manifest other →
            other.validate platform = .ok () ∧ other.sequenceId = manifest.sequenceId) ↔
        manifest.metadataStreams.Nodup)) ∧
    ∀ (sourceChunks : AdapterSourceFile → Yield (List UInt8)) (chunkBytes : Nat)
      (enumerated : List AdapterSourceFile) (adapter : ManifestAdapter)
      (views : List CalibrationView) (sensors : List AdapterSensorDescriptor)
      (sourceFiles : List SourceFile) (sourceIdentity : Sha256) (manifest : SequenceManifest)
      (streamByKey : List (Identifier × StreamId)),
      (enumerated.map AdapterSourceFile.sourceKey).Nodup →
      hashSources platform sourceChunks chunkBytes (orderedSources enumerated) =
        .ok (sourceFiles, sourceIdentity) →
      adapter.calibrations.collect = .ok views →
      (views.map CalibrationView.key).Nodup →
      CollisionFree platform (views.map calibrationPayload) →
      adapter.sensors = .ok sensors →
      (sensors.map fun sensor => (sensor.modality, sensor.sensorId)).Nodup →
      assembleManifest platform adapter sourceFiles sourceIdentity = .ok (manifest, streamByKey) →
      CollisionFree platform (sensors.map (sensorPayload manifest.sequenceId)) →
      manifest.validate platform = .ok () ∧
        ∃ draft, draftManifest platform adapter sourceFiles sourceIdentity = .ok draft ∧
          manifest.identityPayload = draft.identity := by
  constructor
  · intro manifest haccepted
    have hvalid := validate_eq_ok_iff.mp haccepted
    constructor
    · intro ⟨hone, _⟩
      exact hvalid.count_eq_one_iff.mp hone
    · intro hentries
      refine ⟨hvalid.count_eq_one_iff.mpr hentries, fun other hother => ?_⟩
      obtain ⟨hotherValid, hsame⟩ := hvalid.rearranged hentries hother
      exact ⟨validate_eq_ok_iff.mpr hotherValid, hsame⟩
  · intro sourceChunks chunkBytes enumerated adapter views sensors sourceFiles sourceIdentity
      manifest streamByKey hsources hhashed hviews hviewKeys hviewsFree hsensors hsensorKeys
      hassembled hsensorsFree
    obtain ⟨hkeys, hsorted⟩ := hashSources_ordered hsources hhashed
    obtain ⟨draft, hdraft, hbuilt⟩ := assembled_of_eq_ok hviews hsensors hassembled
    obtain ⟨hvalid, hidentity⟩ :=
      hbuilt.valid hkeys hsorted hviewKeys hsensorKeys hviewsFree hsensorsFree
    exact ⟨validate_eq_ok_iff.mpr hvalid, draft, hdraft, hidentity⟩

/-! ## A recording of one stream -/

theorem isSha256_hexdigest (bytes : List UInt8) :
    isSha256 (String.ofList (Sha256.hexdigest bytes)).toList = true := by
  rw [String.toList_ofList, isSha256, Sha256.hexdigest_length, beq_self_eq_true, Bool.true_and]
  apply List.all_eq_true.mpr
  intro c hc
  obtain ⟨digit, hdigit, rfl⟩ := Sha256.mem_hexdigest hc
  clear hc
  revert digit
  decide

/-- A platform that hashes with SHA-256, for texts of ASCII characters and no reals. -/
def samplePlatform : Platform where
  unicode := ⟨fun _ c _ => [c], fun _ c _ h => Or.inr ⟨c, List.mem_singleton_self c, h⟩⟩
  floatText _ := "0.0"
  sha256 bytes := ⟨String.ofList (Sha256.hexdigest bytes), isSha256_hexdigest bytes⟩

def sampleSensor : AdapterSensorDescriptor where
  streamKey := ⟨"trajectory", by decide⟩
  modality := .trajectory
  sensorId := ⟨"applanix", by decide⟩
  coordinateFrame := ⟨"applanix", by decide⟩
  clockId := ⟨"boreas-utc", by decide⟩
  reference := .sample
  requiredCalibrationKeys := []

def sampleAdapter : ManifestAdapter where
  sequenceMetadata := .ok ⟨⟨"boreas", by decide⟩, [⟨⟨"trajectory", by decide⟩, .available⟩]⟩
  sensors := .ok [sampleSensor]
  calibrations := ⟨[], none⟩

def sampleSource : AdapterSourceFile where
  sourceKey := "gps.csv"
  byteCount := 1
  modifiedTimeNs := 0
  deviceId := 0
  fileId := 0

def sampleChunks : AdapterSourceFile → Yield (List UInt8) :=
  fun _ => ⟨[[1]], none⟩

/-- A single payload does not collide. -/
theorem collisionFree_singleton (platform : Platform) (payload : JsonValue String) :
    CollisionFree platform [payload] := by
  intro left hleft right hright bytes bytes' hbytes hbytes' _
  rw [List.mem_singleton.mp hleft] at hbytes
  rw [List.mem_singleton.mp hright, hbytes] at hbytes'
  exact Except.ok.inj hbytes'

theorem sequence_identity_iff_sample : ∃ manifest : SequenceManifest,
    manifest.validate samplePlatform = .ok () ∧
      (((∀ sensor ∈ manifest.sensors, manifest.metadataStreams.count sensor.streamId = 1) ∧
          ∀ other, Rearranged manifest other →
            other.validate samplePlatform = .ok () ∧ other.sequenceId = manifest.sequenceId) ↔
        manifest.metadataStreams.Nodup) := by
  obtain ⟨⟨sourceFiles, sourceIdentity⟩, hhashed⟩ : ∃ hashed, hashSources samplePlatform
      sampleChunks 1 (orderedSources [sampleSource]) = .ok hashed := ⟨_, rfl⟩
  have hbuilds : (assembleManifest samplePlatform sampleAdapter sourceFiles
      sourceIdentity).isOk = true := by
    cases hhashed
    decide +kernel
  cases hassembled : assembleManifest samplePlatform sampleAdapter sourceFiles sourceIdentity with
  | error e =>
    rw [hassembled] at hbuilds
    cases hbuilds
  | ok result =>
    obtain ⟨manifest, streamByKey⟩ := result
    have haccepted := ((sequence_identity_iff samplePlatform).2 sampleChunks 1 [sampleSource]
      sampleAdapter [] [sampleSensor] sourceFiles sourceIdentity manifest streamByKey
      (List.nodup_singleton _) hhashed rfl List.nodup_nil (fun _ hleft => nomatch hleft) rfl
      (List.nodup_singleton _) hassembled (collisionFree_singleton _ _)).1
    exact ⟨manifest, haccepted, (sequence_identity_iff samplePlatform).1 manifest haccepted⟩

/-! ## Two timestamp entries for one stream -/

def doubledSequence : StableId :=
  ⟨"sequence-sha256-c8e6b81a7ffc20f9c0cca43fcfef74198e4938e7a20ada3b467792e75c76669f",
    by decide +kernel⟩

def doubledStream : StreamId :=
  ⟨"stream-trajectory-applanix-4507de58f00fcb8b1f93641fedf980e94df7381266a912b64b19fb0084cc2184",
    by decide +kernel⟩

def clockEntry (clockId : String) : TimestampMetadata where
  streamId := doubledStream
  epoch := .unixUtc
  clockId := clockId
  reference := .sample
  rawUnit := "s"

theorem adapterIdentity_identifier : isIdentifier "boreas-public".toList = true := by decide

theorem applanix_identifier : isIdentifier "applanix".toList = true := by decide

theorem applanix_frame : isFrameId "applanix".toList = true := by decide

/-- A manifest with one stream and two clocks for it. -/
def doubledManifest : SequenceManifest where
  sequenceId := doubledSequence
  sourceIdentitySha256 := samplePlatform.sha256 [1]
  sourceGroupId := ⟨"boreas", by decide⟩
  partition := .development
  adapter := ⟨⟨"boreas-public", adapterIdentity_identifier⟩, "1.0.0", []⟩
  sensors := [⟨doubledStream, .trajectory, ⟨"applanix", applanix_identifier⟩, ⟨"applanix", applanix_frame⟩, []⟩]
  sourceFiles := [⟨"gps.csv", samplePlatform.sha256 [1], 1⟩]
  calibrations := []
  timestampMetadata := [clockEntry "first", clockEntry "second"]
  coordinateMetadata := coordinateMetadata
  declaredGaps := []

/-- An accepted manifest whose only stream has two timestamp entries. -/
theorem doubledManifest_accepted : doubledManifest.validate samplePlatform = .ok () ∧
    ∃ sensor ∈ doubledManifest.sensors,
      doubledManifest.metadataStreams.count sensor.streamId = 2 := by
  have hidentity : makeSequenceId samplePlatform doubledManifest.identityPayload =
      .ok doubledSequence := by
    decide +kernel
  have hstream : makeStreamId samplePlatform doubledSequence "trajectory" "applanix" =
      .ok doubledStream := by
    decide +kernel
  have hcovered : ∀ id, id ∈ doubledManifest.metadataStreams ↔ id ∈ doubledManifest.streamIds := by
    intro id
    change id ∈ [doubledStream, doubledStream] ↔ id ∈ [doubledStream]
    simp
  have hstreams : doubledManifest.streamIds.Nodup := List.nodup_singleton _
  constructor
  · apply validate_eq_ok_iff.mpr
    exact {
      portable := portable_dump rfl rfl hstreams (fun id => (hcovered id).mp)
        (portable_of_makeSequenceId hidentity)
      streams := hstreams
      calibrations := List.nodup_nil
      bound := fun sensor hsensor => by
        cases List.mem_singleton.mp hsensor
        exact hstream
      references := fun sensor hsensor id hid => by
        cases List.mem_singleton.mp hsensor
        cases hid
      covered := hcovered
      gaps := fun gap hgap => nomatch hgap
      sourceKeys := List.nodup_singleton _
      identity := hidentity }
  · refine ⟨_, List.mem_singleton_self _, ?_⟩
    change [doubledStream, doubledStream].count doubledStream = 2
    simp

end CartoSentry.Ingestion
