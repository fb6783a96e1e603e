import CartoSentry.Artifacts.SequenceManifest

set_option autoImplicit false

/-!
# Ingestion: what an adapter selects, and the manifest built from it

The views of `adapters/base.py` that the manifest reads, `_hash_sources` and
`_build_manifest` of `ingestion.py`. A field with one literal value carries no data, so
the value stands where it is used.
-/

namespace CartoSentry.Ingestion

open Artifacts
open Foundation (JsonValue)

/-! ## Exceptions -/

/-- What is raised while a recording is indexed, as its handlers tell it apart. -/
inductive Raised where
  | boreas (field sourceKey : String) (record : Nat)
  | system
  | identity (error : IdentityError)
  | missingKey (key : String)
  | other (message : String)
  deriving DecidableEq, Repr

/-- An iterator: what it yields, and what it raises then. -/
structure Yield (A : Type) where
  items : List A
  raised : Option Raised

/-- `tuple(…)` of an iterator. -/
def Yield.collect {A : Type} (source : Yield A) : Except Raised (List A) :=
  match source.raised with
  | none => .ok source.items
  | some e => .error e

/-- Identifiers and manifests raise what the indexing passes on. -/
def ofIdentity {A : Type} : Except IdentityError A → Except Raised A
  | .ok value => .ok value
  | .error e => .error (.identity e)

/-! ## Views -/

inductive CapabilityState where
  | available
  | missingOptional
  | unsupported
  | notRequested
  deriving DecidableEq, Repr

structure AdapterCapability where
  capabilityId : Identifier
  state : CapabilityState

structure AdapterSequenceMetadata where
  sourceGroupId : Identifier
  capabilities : List AdapterCapability

inductive AdapterModality where
  | trajectory
  | lidar
  deriving DecidableEq, Repr

/-- `SensorModality(item.modality)`. -/
def AdapterModality.sensorModality : AdapterModality → SensorModality
  | .trajectory => .trajectory
  | .lidar => .lidar

def AdapterModality.value (modality : AdapterModality) : String :=
  modality.sensorModality.value

/-- The unit of the source timestamps of a modality. -/
def AdapterModality.rawUnit : AdapterModality → String
  | .trajectory => "s"
  | .lidar => "us"

inductive AdapterReference where
  | sample
  | scanMidpoint
  deriving DecidableEq, Repr

/-- `TimeReference(item.reference)`. -/
def AdapterReference.timeReference : AdapterReference → TimeReference
  | .sample => .sample
  | .scanMidpoint => .scanMidpoint

structure AdapterSensorDescriptor where
  streamKey : Identifier
  modality : AdapterModality
  sensorId : Identifier
  coordinateFrame : Identifier
  clockId : Identifier
  reference : AdapterReference
  requiredCalibrationKeys : List String

structure CalibrationView where
  calibrationKey : String
  sourceSha256 : Sha256
  sourceFrame : FrameId
  targetFrame : FrameId

structure AdapterSourceFile where
  sourceKey : String
  byteCount : Nat
  modifiedTimeNs : Nat
  deviceId : Nat
  fileId : Nat
  deriving DecidableEq

/-- What `_build_manifest` asks an adapter for. -/
structure ManifestAdapter where
  sequenceMetadata : Except Raised AdapterSequenceMetadata
  sensors : Except Raised (List AdapterSensorDescriptor)
  calibrations : Yield CalibrationView

/-! ## Hashing the sources -/

section Sources

variable (platform : Platform) (sourceChunks : AdapterSourceFile → Yield (List UInt8))
  (chunkBytes : Nat)

/-- The chunks of a source, none larger than asked for. -/
def boundedChunks (chunks : Yield (List UInt8)) : Except Raised (List (List UInt8)) :=
  if chunks.items.any (fun chunk => chunkBytes < chunk.length) then
    .error (.other "adapter exceeded the requested source chunk size")
  else chunks.collect

/-- One source: its content and its record. -/
def hashSource (source : AdapterSourceFile) : Except Raised (List UInt8 × SourceFile) := do
  let chunks ← boundedChunks chunkBytes (sourceChunks source)
  let content := chunks.flatten
  if content.length ≠ source.byteCount then
    throw (.other "adapter source byte count changed during hashing")
  return (content, ⟨source.sourceKey, platform.sha256 content, source.byteCount⟩)

/-- `_hash_sources`. -/
def hashSources (sources : List AdapterSourceFile) : Except Raised (List SourceFile × Sha256) := do
  let hashed ← sources.mapM (hashSource platform sourceChunks chunkBytes)
  return (hashed.map Prod.snd, platform.sha256 (hashed.flatMap Prod.fst))

end Sources

/-- The sources in the order in which they are hashed. -/
def orderedSources (enumerated : List AdapterSourceFile) : List AdapterSourceFile :=
  sortedBy AdapterSourceFile.sourceKey enumerated

/-! ## The builder -/

section Builder

variable (platform : Platform)

/-- The payload of `make_calibration_id`. -/
def calibrationPayload (view : CalibrationView) : JsonValue String :=
  .object [("sha256", .string view.sourceSha256.text),
    ("source_frame", .string view.sourceFrame.text),
    ("target_frame", .string view.targetFrame.text)]

def calibrationIdentity (view : CalibrationView) : Except Raised CalibrationIdentity := do
  let calibrationId ← ofIdentity (makeCalibrationId platform (calibrationPayload view))
  return ⟨calibrationId, view.sourceSha256, view.targetFrame, view.sourceFrame⟩

/-- `calibration_by_key[key]`: of two views with one key the last counts. -/
def calibrationByKey (views : List CalibrationView) (calibrations : List CalibrationIdentity)
    (key : String) : Except Raised StableId :=
  match ((views.map CalibrationView.calibrationKey).zip calibrations).reverse.lookup key with
  | some calibration => .ok calibration.calibrationId
  | none => .error (.missingKey key)

/-- The calibrations a sensor requires, sorted. -/
def requiredCalibrations (byKey : String → Except Raised StableId)
    (sensor : AdapterSensorDescriptor) : Except Raised (List StableId) := do
  let ids ← sensor.requiredCalibrationKeys.mapM byKey
  return sortedBy Patterned.text ids

/-- The key by which the builder sorts. -/
def AdapterSensorDescriptor.sortKey (sensor : AdapterSensorDescriptor) : String ×ₗ String :=
  toLex (sensor.modality.value, sensor.sensorId.text)

/-- An element of `sensor_identity`, under its sort key. -/
def sensorIdentity (byKey : String → Except Raised StableId) (sensor : AdapterSensorDescriptor) :
    Except Raised ((String ×ₗ String) × JsonValue String) := do
  let calibrationIds ← requiredCalibrations byKey sensor
  return (sensor.sortKey, .object [("modality", .string sensor.modality.value),
    ("sensor_id", .string sensor.sensorId.text),
    ("coordinate_frame", .string sensor.coordinateFrame.text),
    ("calibration_ids", .array (calibrationIds.map fun item => .string item.text))])

/-- An element of `timestamp_identity`, under its sort key. -/
def sensorTimestampIdentity (sensor : AdapterSensorDescriptor) :
    (String ×ₗ String) × JsonValue String :=
  (sensor.sortKey, .object [("epoch", .string "UNIX_UTC"), ("clock_id", .string sensor.clockId.text),
    ("reference", .string sensor.reference.timeReference.value),
    ("raw_unit", .string sensor.modality.rawUnit), ("modality", .string sensor.modality.value),
    ("sensor_id", .string sensor.sensorId.text)])

theorem isFrameId_of_isIdentifier {text : List Char} (h : Artifacts.isIdentifier text = true) :
    isFrameId text = true := by
  cases text with
  | nil => cases h
  | cons first rest =>
    rw [Artifacts.isIdentifier, Bool.and_eq_true] at h
    rw [isFrameId, List.all_cons, h.1, h.2]
    rfl

/-- An identifier as a frame. -/
def frameOf (name : Identifier) : FrameId :=
  ⟨name.text, isFrameId_of_isIdentifier name.valid⟩

/-- The body of the loop that describes the streams. -/
def describeStream (byKey : String → Except Raised StableId) (sequenceId : StableId)
    (sensor : AdapterSensorDescriptor) : Except Raised (SensorDescriptor × TimestampMetadata) := do
  let streamId ← ofIdentity
    (makeStreamId platform sequenceId sensor.modality.value sensor.sensorId.text)
  let calibrationIds ← requiredCalibrations byKey sensor
  return (⟨streamId, sensor.modality.sensorModality, sensor.sensorId,
      frameOf sensor.coordinateFrame, calibrationIds⟩,
    ⟨streamId, .unixUtc, sensor.clockId.text, sensor.reference.timeReference,
      sensor.modality.rawUnit⟩)

/-- The identity of the adapter. -/
def adapterIdentity (metadata : AdapterSequenceMetadata) : AdapterIdentity where
  adapterId := ⟨"boreas-public", by decide⟩
  adapterVersion := "1.0.0"
  capabilities := sortedBy Patterned.text
    ((metadata.capabilities.filter fun item => item.state = .available).map
      AdapterCapability.capabilityId)

def coordinateMetadata : CoordinateMetadata where
  localFrame := ⟨"enu_ref", by decide⟩
  rigFrame := ⟨"applanix", by decide⟩
  verticalDatum := .unknownVerticalDatum

/-- `manifest_identity`, with the calibrations sorted. -/
def manifestIdentity (metadata : AdapterSequenceMetadata) (calibrations : List CalibrationIdentity)
    (sensorIdentities timestampIdentities : List ((String ×ₗ String) × JsonValue String))
    (sourceFiles : List SourceFile) (sourceIdentity : Sha256) : JsonValue String :=
  .object [("adapter", (adapterIdentity metadata).dump),
    ("calibrations", .array (calibrations.map CalibrationIdentity.dump)),
    ("coordinate_metadata", coordinateMetadata.dump),
    ("sensors", .array ((sortedBy Prod.fst sensorIdentities).map Prod.snd)),
    ("source_files", .array (sourceFiles.map SourceFile.dump)),
    ("source_identity_sha256", .string sourceIdentity.text),
    ("timestamp_metadata", .array ((sortedBy Prod.fst timestampIdentities).map Prod.snd))]

/-- The fields of the manifest, before the model checks them. -/
def manifestOf (metadata : AdapterSequenceMetadata) (calibrations : List CalibrationIdentity)
    (streams : List (SensorDescriptor × TimestampMetadata)) (sequenceId : StableId)
    (sourceFiles : List SourceFile) (sourceIdentity : Sha256) : SequenceManifest where
  sequenceId := sequenceId
  sourceIdentitySha256 := sourceIdentity
  sourceGroupId := metadata.sourceGroupId
  partition := .development
  adapter := adapterIdentity metadata
  sensors := sortedBy (fun item => item.streamId.text) (streams.map Prod.fst)
  sourceFiles := sourceFiles
  calibrations := calibrations
  timestampMetadata := sortedBy (fun item => item.streamId.text) (streams.map Prod.snd)
  coordinateMetadata := coordinateMetadata
  declaredGaps := []

/-- What the builder has before it names the sequence. -/
structure Draft where
  metadata : AdapterSequenceMetadata
  byKey : String → Except Raised StableId
  calibrations : List CalibrationIdentity
  sensors : List AdapterSensorDescriptor
  identity : JsonValue String

/-- `_build_manifest` up to `make_sequence_id`. -/
def draftManifest (adapter : ManifestAdapter) (sourceFiles : List SourceFile)
    (sourceIdentity : Sha256) : Except Raised Draft := do
  let metadata ← adapter.sequenceMetadata
  let views ← adapter.calibrations.collect
  let calibrations ← views.mapM (calibrationIdentity platform)
  let byKey := calibrationByKey views calibrations
  let sorted := sortedBy (fun item => item.calibrationId.text) calibrations
  let sensors ← adapter.sensors
  let sensorIdentities ← sensors.mapM (sensorIdentity byKey)
  return ⟨metadata, byKey, sorted, sensors, manifestIdentity metadata sorted sensorIdentities
    (sensors.map sensorTimestampIdentity) sourceFiles sourceIdentity⟩

/-- `_build_manifest` up to the call of the model. -/
def assembleManifest (adapter : ManifestAdapter) (sourceFiles : List SourceFile)
    (sourceIdentity : Sha256) : Except Raised (SequenceManifest × List (Identifier × StreamId)) := do
  let draft ← draftManifest platform adapter sourceFiles sourceIdentity
  let sequenceId ← ofIdentity (makeSequenceId platform draft.identity)
  let streams ← draft.sensors.mapM (describeStream platform draft.byKey sequenceId)
  return (manifestOf draft.metadata draft.calibrations streams sequenceId sourceFiles sourceIdentity,
    (draft.sensors.map AdapterSensorDescriptor.streamKey).zip
      (streams.map fun stream => stream.1.streamId))

/-- `_build_manifest`. -/
def buildManifest (adapter : ManifestAdapter) (sourceFiles : List SourceFile)
    (sourceIdentity : Sha256) : Except Raised (SequenceManifest × List (Identifier × StreamId)) := do
  let (manifest, streamByKey) ← assembleManifest platform adapter sourceFiles sourceIdentity
  ofIdentity (manifest.validate platform)
  return (manifest, streamByKey)

end Builder

end CartoSentry.Ingestion
