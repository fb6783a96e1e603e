import CartoSentry.Artifacts.Identifiers
import Mathlib.Data.Prod.Lex

set_option autoImplicit false

/-!
# Artifacts: the sequence manifest

`SequenceManifest` of `artifacts.py` with its identity payload and its validators. The
interval of a declared gap is carried as its dump: no validator looks into it.
-/

namespace CartoSentry.Artifacts

open Foundation (JsonValue)

/-! ## Enumerations -/

inductive SourcePartition where
  | development
  | policyTuning
  | finalTest
  deriving DecidableEq, Repr

def SourcePartition.value : SourcePartition → String
  | .development => "development"
  | .policyTuning => "policy_tuning"
  | .finalTest => "final_test"

inductive SensorModality where
  | camera
  | gnss
  | imu
  | lidar
  | radar
  | trajectory
  deriving DecidableEq, Repr

def SensorModality.value : SensorModality → String
  | .camera => "camera"
  | .gnss => "gnss"
  | .imu => "imu"
  | .lidar => "lidar"
  | .radar => "radar"
  | .trajectory => "trajectory"

inductive TimeEpoch where
  | unixUtc
  | gps
  | sensorBoot
  | hostMonotonic
  | unknown
  deriving DecidableEq, Repr

def TimeEpoch.value : TimeEpoch → String
  | .unixUtc => "UNIX_UTC"
  | .gps => "GPS"
  | .sensorBoot => "SENSOR_BOOT"
  | .hostMonotonic => "HOST_MONOTONIC"
  | .unknown => "UNKNOWN"

inductive TimeReference where
  | exposureStart
  | exposureMidpoint
  | exposureEnd
  | scanStart
  | scanMidpoint
  | scanEnd
  | sample
  | perPoint
  | perAzimuth
  | unknown
  deriving DecidableEq, Repr

def TimeReference.value : TimeReference → String
  | .exposureStart => "EXPOSURE_START"
  | .exposureMidpoint => "EXPOSURE_MIDPOINT"
  | .exposureEnd => "EXPOSURE_END"
  | .scanStart => "SCAN_START"
  | .scanMidpoint => "SCAN_MIDPOINT"
  | .scanEnd => "SCAN_END"
  | .sample => "SAMPLE"
  | .perPoint => "PER_POINT"
  | .perAzimuth => "PER_AZIMUTH"
  | .unknown => "UNKNOWN"

inductive VerticalDatum where
  | wgs84Ellipsoid
  | unknownVerticalDatum
  deriving DecidableEq, Repr

def VerticalDatum.value : VerticalDatum → String
  | .wgs84Ellipsoid => "WGS84_ELLIPSOID"
  | .unknownVerticalDatum => "UNKNOWN_VERTICAL_DATUM"

/-! ## Records -/

structure AdapterIdentity where
  adapterId : Identifier
  adapterVersion : String
  capabilities : List Identifier
  deriving DecidableEq

structure SourceFile where
  sourceKey : String
  sha256 : Sha256
  byteCount : Nat
  deriving DecidableEq

structure CalibrationIdentity where
  calibrationId : StableId
  sha256 : Sha256
  targetFrame : FrameId
  sourceFrame : FrameId
  deriving DecidableEq

structure SensorDescriptor where
  streamId : StreamId
  modality : SensorModality
  sensorId : Identifier
  coordinateFrame : FrameId
  calibrationIds : List StableId
  deriving DecidableEq

structure TimestampMetadata where
  streamId : StreamId
  epoch : TimeEpoch
  clockId : String
  reference : TimeReference
  rawUnit : String
  deriving DecidableEq

structure CoordinateMetadata where
  localFrame : FrameId
  rigFrame : FrameId
  verticalDatum : VerticalDatum
  deriving DecidableEq

structure DeclaredGap where
  streamId : StreamId
  interval : JsonValue String
  reason : String

structure SequenceManifest where
  sequenceId : StableId
  sourceIdentitySha256 : Sha256
  sourceGroupId : Identifier
  partition : SourcePartition
  adapter : AdapterIdentity
  sensors : List SensorDescriptor
  sourceFiles : List SourceFile
  calibrations : List CalibrationIdentity
  timestampMetadata : List TimestampMetadata
  coordinateMetadata : CoordinateMetadata
  declaredGaps : List DeclaredGap

/-! ## Dumps

`model_dump(mode="json")` of each record. -/

def AdapterIdentity.dump (adapter : AdapterIdentity) : JsonValue String :=
  .object [("adapter_id", .string adapter.adapterId.text),
    ("adapter_version", .string adapter.adapterVersion),
    ("capabilities", .array (adapter.capabilities.map fun item => .string item.text))]

def SourceFile.dump (file : SourceFile) : JsonValue String :=
  .object [("source_key", .string file.sourceKey), ("sha256", .string file.sha256.text),
    ("byte_count", .integer file.byteCount)]

def CalibrationIdentity.dump (calibration : CalibrationIdentity) : JsonValue String :=
  .object [("calibration_id", .string calibration.calibrationId.text),
    ("sha256", .string calibration.sha256.text),
    ("target_frame", .string calibration.targetFrame.text),
    ("source_frame", .string calibration.sourceFrame.text)]

/-- The fields of a sensor, the stream excluded. -/
def SensorDescriptor.identityFields (sensor : SensorDescriptor) :
    List (String × JsonValue String) :=
  [("modality", .string sensor.modality.value), ("sensor_id", .string sensor.sensorId.text),
    ("coordinate_frame", .string sensor.coordinateFrame.text),
    ("calibration_ids", .array (sensor.calibrationIds.map fun item => .string item.text))]

def SensorDescriptor.dump (sensor : SensorDescriptor) : JsonValue String :=
  .object (("stream_id", .string sensor.streamId.text) :: sensor.identityFields)

/-- The fields of a timestamp entry, the stream excluded. -/
def TimestampMetadata.identityFields (entry : TimestampMetadata) :
    List (String × JsonValue String) :=
  [("epoch", .string entry.epoch.value), ("clock_id", .string entry.clockId),
    ("reference", .string entry.reference.value), ("raw_unit", .string entry.rawUnit)]

def TimestampMetadata.dump (entry : TimestampMetadata) : JsonValue String :=
  .object (("stream_id", .string entry.streamId.text) :: entry.identityFields)

def CoordinateMetadata.dump (coordinates : CoordinateMetadata) : JsonValue String :=
  .object [("global_frame", .string "WGS84"), ("local_frame", .string coordinates.localFrame.text),
    ("rig_frame", .string coordinates.rigFrame.text),
    ("vertical_datum", .string coordinates.verticalDatum.value)]

def DeclaredGap.dump (gap : DeclaredGap) : JsonValue String :=
  .object [("stream_id", .string gap.streamId.text), ("interval", gap.interval),
    ("reason", .string gap.reason)]

namespace SequenceManifest

def dump (manifest : SequenceManifest) : JsonValue String :=
  .object [("schema_version", .string "cartosentry.sequence-manifest.v1"),
    ("sequence_id", .string manifest.sequenceId.text),
    ("source_identity_sha256", .string manifest.sourceIdentitySha256.text),
    ("source_group_id", .string manifest.sourceGroupId.text),
    ("partition", .string manifest.partition.value), ("adapter", manifest.adapter.dump),
    ("sensors", .array (manifest.sensors.map SensorDescriptor.dump)),
    ("source_files", .array (manifest.sourceFiles.map SourceFile.dump)),
    ("calibrations", .array (manifest.calibrations.map CalibrationIdentity.dump)),
    ("timestamp_metadata", .array (manifest.timestampMetadata.map TimestampMetadata.dump)),
    ("coordinate_metadata", manifest.coordinateMetadata.dump),
    ("declared_gaps", .array (manifest.declaredGaps.map DeclaredGap.dump))]

end SequenceManifest

/-! ## The identity payload -/

/-- `sorted(…, key=…)`. -/
def sortedBy {A K : Type} [LinearOrder K] (key : A → K) (items : List A) : List A :=
  items.insertionSort fun left right => key left ≤ key right

/-- The key by which sensors and timestamp entries are sorted. -/
def SensorDescriptor.sortKey (sensor : SensorDescriptor) : String ×ₗ String :=
  toLex (sensor.modality.value, sensor.sensorId.text)

/-- A timestamp entry with the sensor of its stream, as the payload lists it. -/
def timestampIdentity (entry : TimestampMetadata) (sensor : SensorDescriptor) : JsonValue String :=
  .object (entry.identityFields ++ [("modality", .string sensor.modality.value),
    ("sensor_id", .string sensor.sensorId.text)])

namespace SequenceManifest

variable (manifest : SequenceManifest)

/-- `sensor_by_stream`: of two sensors with one stream the last counts. -/
def sensorByStream (streamId : StreamId) : Option SensorDescriptor :=
  manifest.sensors.reverse.find? fun sensor => sensor.streamId = streamId

/-- The timestamp entries of known streams, with their sensors. -/
def placedTimestamps : List (TimestampMetadata × SensorDescriptor) :=
  manifest.timestampMetadata.filterMap fun entry =>
    (manifest.sensorByStream entry.streamId).map fun sensor => (entry, sensor)

/-- `identity_payload`. -/
def identityPayload : JsonValue String :=
  .object [("adapter", manifest.adapter.dump),
    ("calibrations", .array
      ((sortedBy (fun item => item.calibrationId.text) manifest.calibrations).map
        CalibrationIdentity.dump)),
    ("coordinate_metadata", manifest.coordinateMetadata.dump),
    ("sensors", .array ((sortedBy SensorDescriptor.sortKey manifest.sensors).map
      fun sensor => .object sensor.identityFields)),
    ("source_files", .array ((sortedBy SourceFile.sourceKey manifest.sourceFiles).map
      SourceFile.dump)),
    ("source_identity_sha256", .string manifest.sourceIdentitySha256.text),
    ("timestamp_metadata", .array
      ((sortedBy (fun placed => placed.2.sortKey) manifest.placedTimestamps).map
        fun placed => timestampIdentity placed.1 placed.2))]

/-! ## Validation -/

variable (platform : Platform)

/-- The body of the loop over the sensors. -/
def validateSensor (sensor : SensorDescriptor) : Except IdentityError Unit := do
  let expected ←
    makeStreamId platform manifest.sequenceId sensor.modality.value sensor.sensorId.text
  require (sensor.streamId = expected) "stream_id does not match sequence and sensor identity"
  require (∀ id ∈ sensor.calibrationIds, id ∈ manifest.calibrations.map (·.calibrationId))
    "sensor references an unknown calibration"

def streamIds : List StreamId :=
  manifest.sensors.map SensorDescriptor.streamId

def metadataStreams : List StreamId :=
  manifest.timestampMetadata.map TimestampMetadata.streamId

/-- `validate_identity_and_references`. -/
def validateIdentityAndReferences : Except IdentityError Unit := do
  require manifest.streamIds.Nodup "sensor stream identifiers must be unique"
  require (manifest.calibrations.map (·.calibrationId)).Nodup
    "calibration identifiers must be unique"
  manifest.sensors.forM (manifest.validateSensor platform)
  require ((∀ id ∈ manifest.metadataStreams, id ∈ manifest.streamIds) ∧
      ∀ id ∈ manifest.streamIds, id ∈ manifest.metadataStreams)
    "timestamp metadata must cover every stream exactly once"
  require (∀ gap ∈ manifest.declaredGaps, gap.streamId ∈ manifest.streamIds)
    "declared gap references an unknown stream"
  require (manifest.sourceFiles.map (·.sourceKey)).Nodup "source keys must be unique"
  let expected ← makeSequenceId platform manifest.identityPayload
  require (manifest.sequenceId = expected)
    "sequence_id does not match normalized manifest identity"

/-- The validators of the model: portability first, as its base class has it. -/
def validate : Except IdentityError Unit := do
  checkPortable platform manifest.dump "artifact"
  manifest.validateIdentityAndReferences platform

end SequenceManifest

end CartoSentry.Artifacts
