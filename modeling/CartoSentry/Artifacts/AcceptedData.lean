import CartoSentry.Artifacts.RecapturePlan
import CartoSentry.Contracts.NativeTime

set_option autoImplicit false

/-!
# Artifacts: the accepted data bundle

`AcceptedDataBundle` of `artifacts.py` with its validator, the intervals it lists, and when
the accepted and the excluded ones of an accepted bundle are disjoint.
-/

namespace CartoSentry.Artifacts

open Contracts (NonemptyString RawTime RawTimeFields Int64Value Native.TimePoint SameDomain
  checkedDifference)
open Foundation (JsonValue bind_unit_eq_ok_iff bind_eq_ok_iff)
open RecapturePlan (require_eq_ok_iff)

/-! ## Times and intervals -/

/-- A `TimePoint` of `contracts.py`. -/
structure TimePoint where
  valueNs : Int64Value
  epoch : TimeEpoch
  clockId : NonemptyString
  reference : TimeReference
  raw : RawTime
  rawEpoch : raw.fields.epoch = epoch
  rawReference : raw.fields.reference = reference

/-- What is handed to the native functions. -/
def TimePoint.native (point : TimePoint) : Native.TimePoint :=
  ⟨point.valueNs, point.epoch, point.clockId.text, .unknown⟩

/-- `TimePoint.difference` -/
def TimePoint.difference (finish start : TimePoint) : Except Contracts.Fault Int64Value := do
  let duration ← checkedDifference finish.native start.native
  return duration.valueNs

/-- An interval that `validate_nonempty_half_open_interval` has accepted. -/
structure SourceInterval where
  start : TimePoint
  finish : TimePoint
  nonempty : ∃ duration, finish.difference start = .ok duration ∧ 0 < duration.value

structure BundleInterval where
  sourceKey : NonemptyString
  interval : SourceInterval
  reason : NonemptyString

structure ArtifactReference where
  sourceKey : NonemptyString
  sha256 : Sha256
  byteCount : Nat
  mediaType : NonemptyString

structure AcceptedDataBundle where
  bundleId : StableId
  sourceSequenceSha256 : Sha256
  sequenceId : StableId
  profileId : Identifier
  acceptedIntervals : List BundleInterval
  excludedIntervals : List BundleInterval
  requiredCalibrationIds : List StableId
  derivedArtifacts : List ArtifactReference
  rawDataShards : List ArtifactReference

/-! ## Dumps -/

def rawTimeDump (raw : RawTimeFields) : JsonValue String :=
  .object [("source_key", .string raw.sourceKey.text), ("field", .string raw.field.text),
    ("unit", .string raw.unit.text), ("epoch", .string raw.epoch.value),
    ("reference", .string raw.reference.value), ("encoding", .string raw.encoding.value),
    ("decimal_lexeme", optional .string raw.decimalLexeme),
    ("integer_value", optional .string raw.integerValue),
    ("encoded_bytes", optional .string raw.encodedBytes),
    ("rounding", .string raw.rounding.value),
    ("maximum_conversion_error_ns", .real raw.maximumConversionErrorNs.value)]

def TimePoint.dump (point : TimePoint) : JsonValue String :=
  .object [("value_ns", .integer point.valueNs.value), ("epoch", .string point.epoch.value),
    ("clock_id", .string point.clockId.text), ("reference", .string point.reference.value),
    ("raw", rawTimeDump point.raw.fields)]

def SourceInterval.dump (interval : SourceInterval) : JsonValue String :=
  .object [("start", interval.start.dump), ("end", interval.finish.dump)]

def BundleInterval.dump (item : BundleInterval) : JsonValue String :=
  .object [("source_key", .string item.sourceKey.text), ("interval", item.interval.dump),
    ("reason", .string item.reason.text)]

def ArtifactReference.dump (reference : ArtifactReference) : JsonValue String :=
  .object [("source_key", .string reference.sourceKey.text),
    ("sha256", .string reference.sha256.text), ("byte_count", .integer reference.byteCount),
    ("media_type", .string reference.mediaType.text)]

/-- `make_bundle_id` -/
def makeBundleId (platform : Platform) (identity : JsonValue String) :
    Except IdentityError StableId :=
  identifier platform ⟨"accepted-bundle", by decide⟩ identity

namespace AcceptedDataBundle

variable (bundle : AcceptedDataBundle)

/-- The entries behind the identifier. -/
def contents : List (String × JsonValue String) :=
  [("immutable", .boolean true),
    ("source_sequence_sha256", .string bundle.sourceSequenceSha256.text),
    ("sequence_id", .string bundle.sequenceId.text),
    ("profile_id", .string bundle.profileId.text),
    ("accepted_intervals", .array (bundle.acceptedIntervals.map BundleInterval.dump)),
    ("excluded_intervals", .array (bundle.excludedIntervals.map BundleInterval.dump)),
    ("required_calibration_ids", dumpTexts bundle.requiredCalibrationIds),
    ("derived_artifacts", .array (bundle.derivedArtifacts.map ArtifactReference.dump)),
    ("raw_data_shards", .array (bundle.rawDataShards.map ArtifactReference.dump))]

def schemaVersion : String × JsonValue String :=
  ("schema_version", .string "cartosentry.accepted-data-bundle.v1")

def dump : JsonValue String :=
  .object (schemaVersion :: ("bundle_id", .string bundle.bundleId.text) :: bundle.contents)

/-- `identity_payload` -/
def identityPayload : JsonValue String :=
  .object (schemaVersion :: bundle.contents)

end AcceptedDataBundle

/-! ## Validation -/

/-- What the validator compares of an interval. -/
def BundleInterval.key (item : BundleInterval) : NonemptyString × Int64Value × Int64Value :=
  (item.sourceKey, item.interval.start.valueNs, item.interval.finish.valueNs)

namespace AcceptedDataBundle

variable (bundle : AcceptedDataBundle)

/-- `validate_bundle_identity` -/
def validateBundleIdentity (platform : Platform) : Except IdentityError Unit := do
  let expected ← makeBundleId platform bundle.identityPayload
  require (bundle.bundleId = expected) "bundle_id does not match immutable bundle contents"
  let accepted := bundle.acceptedIntervals.map BundleInterval.key
  let excluded := bundle.excludedIntervals.map BundleInterval.key
  require (∀ key ∈ accepted, key ∉ excluded) "an interval cannot be both accepted and excluded"

/-- The validators of the model, portability first. -/
def validate (platform : Platform) : Except IdentityError Unit := do
  checkPortable platform bundle.dump "artifact"
  bundle.validateBundleIdentity platform

end AcceptedDataBundle

/-! ## Instants -/

namespace BundleInterval

/-- The same source, on the same clock. -/
def SameSource (item other : BundleInterval) : Prop :=
  item.sourceKey = other.sourceKey ∧
    SameDomain item.interval.start.native other.interval.start.native

/-- The half-open intervals overlap. -/
def Overlaps (item other : BundleInterval) : Prop :=
  item.interval.start.valueNs.value < other.interval.finish.valueNs.value ∧
    other.interval.start.valueNs.value < item.interval.finish.valueNs.value

/-- An instant of the source, on the clock of the interval. -/
def Contains (item : BundleInterval) (instant : Int) : Prop :=
  item.interval.start.valueNs.value ≤ instant ∧ instant < item.interval.finish.valueNs.value

theorem start_lt_finish (item : BundleInterval) :
    item.interval.start.valueNs.value < item.interval.finish.valueNs.value := by
  obtain ⟨duration, hduration, hpositive⟩ := item.interval.nonempty
  obtain ⟨difference, hdifference, hvalue⟩ := bind_eq_ok_iff.mp hduration
  cases hvalue
  unfold checkedDifference at hdifference
  obtain ⟨same, -, hdifference⟩ := bind_eq_ok_iff.mp hdifference
  split_ifs at hdifference
  rw [Contracts.differenceGuard_eq, Foundation.ok_bind] at hdifference
  split_ifs at hdifference with hbeyond
  obtain ⟨exact, hexact, hsame⟩ := bind_eq_ok_iff.mp hdifference
  cases hsame
  unfold Int64Value.sub Int64Value.ofInt at hexact
  split_ifs at hexact
  cases hexact
  dsimp only [TimePoint.native] at hpositive
  omega

/-- Two intervals overlap exactly when they have an instant in common. -/
theorem overlaps_iff (item other : BundleInterval) :
    item.Overlaps other ↔ ∃ instant, item.Contains instant ∧ other.Contains instant := by
  have hitem := item.start_lt_finish
  have hother := other.start_lt_finish
  unfold Overlaps Contains
  constructor
  · rintro ⟨hstart, hfinish⟩
    refine ⟨max item.interval.start.valueNs.value other.interval.start.valueNs.value, ?_, ?_⟩
    · exact ⟨le_max_left _ _, max_lt hitem hfinish⟩
    · exact ⟨le_max_right _ _, max_lt hstart hother⟩
  · rintro ⟨instant, hin, hin'⟩
    omega

end BundleInterval

namespace AcceptedDataBundle

variable (bundle : AcceptedDataBundle)

/-- No accepted interval overlaps an excluded one of its source, so that no instant of a
source is both. -/
structure Disjoint : Prop where
  intervals : ∀ accepted ∈ bundle.acceptedIntervals, ∀ excluded ∈ bundle.excludedIntervals,
    accepted.SameSource excluded → ¬ accepted.Overlaps excluded
  instants : ∀ accepted ∈ bundle.acceptedIntervals, ∀ excluded ∈ bundle.excludedIntervals,
    accepted.SameSource excluded → ∀ instant, ¬ (accepted.Contains instant ∧
      excluded.Contains instant)

variable {bundle}

theorem disjoint_iff : bundle.Disjoint ↔
    ∀ accepted ∈ bundle.acceptedIntervals, ∀ excluded ∈ bundle.excludedIntervals,
      accepted.SameSource excluded → ¬ accepted.Overlaps excluded := by
  constructor
  · exact fun h => h.intervals
  · intro h
    refine ⟨h, ?_⟩
    intro accepted haccepted excluded hexcluded hsource instant hboth
    exact h accepted haccepted excluded hexcluded hsource
      ((BundleInterval.overlaps_iff accepted excluded).mpr ⟨instant, hboth⟩)

/-- An accepted bundle has no accepted interval with the key of an excluded one. -/
theorem keys_of_validate {platform : Platform} (h : bundle.validate platform = .ok ()) :
    ∀ accepted ∈ bundle.acceptedIntervals, ∀ excluded ∈ bundle.excludedIntervals,
      accepted.key ≠ excluded.key := by
  obtain ⟨-, hvalid⟩ := bind_unit_eq_ok_iff.mp h
  obtain ⟨expected, -, hrest⟩ := bind_eq_ok_iff.mp hvalid
  obtain ⟨-, hkeys⟩ := bind_unit_eq_ok_iff.mp hrest
  have hapart := require_eq_ok_iff.mp hkeys
  intro accepted haccepted excluded hexcluded hsame
  apply hapart accepted.key (List.mem_map_of_mem haccepted)
  rw [hsame]
  exact List.mem_map_of_mem hexcluded

end AcceptedDataBundle

/-- In an accepted bundle, accepted and excluded data are disjoint exactly when no accepted
interval overlaps an excluded one of its source and clock that has other bounds. -/
theorem accepted_data_disjoint_iff (platform : Platform) (bundle : AcceptedDataBundle)
    (h : bundle.validate platform = .ok ()) :
    bundle.Disjoint ↔ ∀ accepted ∈ bundle.acceptedIntervals,
      ∀ excluded ∈ bundle.excludedIntervals, accepted.SameSource excluded →
        (accepted.interval.start.valueNs, accepted.interval.finish.valueNs) ≠
          (excluded.interval.start.valueNs, excluded.interval.finish.valueNs) →
        ¬ accepted.Overlaps excluded := by
  rw [AcceptedDataBundle.disjoint_iff]
  have hkeys := AcceptedDataBundle.keys_of_validate h
  constructor
  · intro hdisjoint accepted haccepted excluded hexcluded hsource _
    exact hdisjoint accepted haccepted excluded hexcluded hsource
  · intro hother accepted haccepted excluded hexcluded hsource
    apply hother accepted haccepted excluded hexcluded hsource
    intro hbounds
    apply hkeys accepted haccepted excluded hexcluded
    rw [Prod.mk.injEq] at hbounds
    unfold BundleInterval.key
    rw [hsource.1, hbounds.1, hbounds.2]

/-! ## A bundle with overlapping intervals -/

/-- A time of one GPS log. -/
def gpsTime (value : Fin 100) : TimePoint where
  valueNs := ⟨value.val, by unfold Contracts.Representable; omega⟩
  epoch := .gps
  clockId := ⟨"gps", by decide⟩
  reference := .sample
  raw := {
    fields := {
      sourceKey := ⟨"gps.csv", by decide⟩
      field := ⟨"time", by decide⟩
      unit := ⟨"ns", by decide⟩
      epoch := .gps
      reference := .sample
      encoding := .unsignedInteger
      decimalLexeme := none
      integerValue := some (toString value.val)
      encodedBytes := none
      rounding := .exact
      maximumConversionErrorNs := zeroFloat }
    accepted := by
      revert value
      decide +kernel }
  rawEpoch := rfl
  rawReference := rfl

def gpsInterval (start finish : Fin 100) (h : start < finish) : BundleInterval where
  sourceKey := ⟨"gps.csv", by decide⟩
  interval := {
    start := gpsTime start
    finish := gpsTime finish
    nonempty := by
      refine ⟨⟨finish.val - start.val, by unfold Contracts.Representable; omega⟩, ?_, ?_⟩
      · have hsame : SameDomain (gpsTime finish).native (gpsTime start).native :=
          ⟨(by decide : "gps" ≠ ""), rfl, rfl⟩
        unfold TimePoint.difference
        rw [Contracts.checkedDifference_eq hsame, dif_pos]
        rfl
      · change (0 : Int) < finish.val - start.val
        omega }
  reason := ⟨"review", by decide⟩

/-- The interval from 0 to 10 is accepted, the one from 5 to 15 excluded. -/
def overlappingBundle : AcceptedDataBundle where
  bundleId :=
    ⟨"accepted-bundle-sha256-c75cf62f8b50ce8d804ca612945f6336738eb6aec029113395cf05aebc2c8f57",
      by decide +kernel⟩
  sourceSequenceSha256 :=
    ⟨"eeeeeeeeeeeeeeeeeeeeeeeeeeeeeeeeeeeeeeeeeeeeeeeeeeeeeeeeeeeeeeee", by decide +kernel⟩
  sequenceId := ⟨"sequence-sha256-ffffffffffffffffffffffffffffffffffffffffffffffffffffffffffffffff",
    by decide +kernel⟩
  profileId := ⟨"survey", by decide⟩
  acceptedIntervals := [gpsInterval 0 10 (by decide)]
  excludedIntervals := [gpsInterval 5 15 (by decide)]
  requiredCalibrationIds := []
  derivedArtifacts := []
  rawDataShards := []

theorem overlappingBundle_valid :
    overlappingBundle.validate Ingestion.samplePlatform = .ok () := by
  decide +kernel

theorem overlappingBundle_sameSource :
    (gpsInterval 0 10 (by decide)).SameSource (gpsInterval 5 15 (by decide)) :=
  ⟨rfl, by decide, rfl, rfl⟩

theorem accepted_data_disjoint_iff_overlapping :
    overlappingBundle.validate Ingestion.samplePlatform = .ok () ∧
    (overlappingBundle.Disjoint ↔ ∀ accepted ∈ overlappingBundle.acceptedIntervals,
      ∀ excluded ∈ overlappingBundle.excludedIntervals, accepted.SameSource excluded →
        (accepted.interval.start.valueNs, accepted.interval.finish.valueNs) ≠
          (excluded.interval.start.valueNs, excluded.interval.finish.valueNs) →
        ¬ accepted.Overlaps excluded) :=
  ⟨overlappingBundle_valid, accepted_data_disjoint_iff _ _ overlappingBundle_valid⟩

/-- The bundle is accepted, and its instants from 5 to 10 are both accepted and excluded. -/
theorem overlappingBundle_accepted :
    overlappingBundle.validate Ingestion.samplePlatform = .ok () ∧
    ¬ overlappingBundle.Disjoint ∧
    ∃ accepted ∈ overlappingBundle.acceptedIntervals,
      ∃ excluded ∈ overlappingBundle.excludedIntervals,
        accepted.SameSource excluded ∧ accepted.Contains 7 ∧ excluded.Contains 7 := by
  have hshared : (gpsInterval 0 10 (by decide)).Contains 7 ∧
      (gpsInterval 5 15 (by decide)).Contains 7 := by
    unfold BundleInterval.Contains
    decide
  refine ⟨overlappingBundle_valid, fun hdisjoint => ?_, ?_⟩
  · exact hdisjoint.instants _ List.mem_cons_self _ List.mem_cons_self
      overlappingBundle_sameSource 7 hshared
  · exact ⟨_, List.mem_cons_self, _, List.mem_cons_self, overlappingBundle_sameSource, hshared⟩

end CartoSentry.Artifacts
