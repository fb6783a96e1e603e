import CartoSentry.Artifacts.SequenceIdentity
import CartoSentry.Artifacts.IdentityText
import CartoSentry.Ingestion.BuildManifest

set_option autoImplicit false

/-!
# Ingestion: the builder meets the validator

The manifest that `_build_manifest` assembles has the identity payload under which the
builder named it, and the model accepts it: distinct calibrations and distinct sensors
get distinct identifiers as long as no two of the hashed payloads collide.
-/

namespace CartoSentry.Ingestion

open Artifacts
open Foundation (JsonValue bind_unit_eq_ok_iff bind_eq_ok_iff map_eq_of_mapM_eq_ok
  mapM_eq_ok_map nodup_map_of_mapM_eq_ok forall₂_of_mapM_eq_ok exists_left_of_mem)

/-! ## Sorting -/

/-- Sorting under computed keys is sorting what carries its key. -/
theorem map_sortedBy {A B K : Type} [LinearOrder K] (key : A → K) (f : A → B) (items : List A) :
    (sortedBy key items).map f =
      (sortedBy Prod.fst (items.map fun item => (key item, f item))).map Prod.snd := by
  have hpairs : (sortedBy key items).map (fun item => (key item, f item)) =
      sortedBy Prod.fst (items.map fun item => (key item, f item)) :=
    List.map_insertionSort _ _ _ _ fun _ _ _ _ => Iff.rfl
  rw [← hpairs, List.map_map]
  rfl

/-! ## Hashed sources -/

section Sources

variable {platform : Platform} {sourceChunks : AdapterSourceFile → Yield (List UInt8)}
  {chunkBytes : Nat} {sources : List AdapterSourceFile} {sourceFiles : List SourceFile}
  {sourceIdentity : Sha256}

theorem hashSource_sourceKey {source : AdapterSourceFile} {hashed : List UInt8 × SourceFile}
    (h : hashSource platform sourceChunks chunkBytes source = .ok hashed) :
    hashed.2.sourceKey = source.sourceKey := by
  unfold hashSource at h
  obtain ⟨chunks, _, h⟩ := bind_eq_ok_iff.mp h
  dsimp only at h
  split at h
  · cases h
  · cases h
    rfl

/-- Hashing keeps the keys and their order. -/
theorem hashSources_sourceKeys
    (h : hashSources platform sourceChunks chunkBytes sources = .ok (sourceFiles, sourceIdentity)) :
    sourceFiles.map SourceFile.sourceKey = sources.map AdapterSourceFile.sourceKey := by
  unfold hashSources at h
  obtain ⟨hashed, hhashed, h⟩ := bind_eq_ok_iff.mp h
  cases h
  rw [List.map_map]
  exact map_eq_of_mapM_eq_ok hhashed fun _ _ => hashSource_sourceKey

/-- The records of the sources are sorted by their keys, which are distinct where those of
the sources are. -/
theorem hashSources_ordered {enumerated : List AdapterSourceFile}
    (hkeys : (enumerated.map AdapterSourceFile.sourceKey).Nodup)
    (h : hashSources platform sourceChunks chunkBytes (orderedSources enumerated) =
      .ok (sourceFiles, sourceIdentity)) :
    (sourceFiles.map SourceFile.sourceKey).Nodup ∧
      sortedBy SourceFile.sourceKey sourceFiles = sourceFiles := by
  have hsame := hashSources_sourceKeys h
  have hperm := (sortedBy_perm AdapterSourceFile.sourceKey enumerated).map
    AdapterSourceFile.sourceKey
  constructor
  · rw [hsame]
    exact hperm.nodup_iff.mpr hkeys
  · apply sortedBy_of_pairwise
    have hsorted := sortedBy_pairwise AdapterSourceFile.sourceKey enumerated
    rw [← List.pairwise_map (R := (· ≤ ·))] at hsorted ⊢
    rw [hsame]
    exact hsorted

end Sources

/-! ## Identifiers of distinct payloads -/

/-- No two of the payloads have one hash and different bytes. -/
def CollisionFree (platform : Platform) (payloads : List (JsonValue String)) : Prop :=
  ∀ left ∈ payloads, ∀ right ∈ payloads, ∀ bytes bytes',
    canonicalJsonBytes platform left = .ok bytes → canonicalJsonBytes platform right = .ok bytes' →
      platform.sha256 bytes = platform.sha256 bytes' → bytes = bytes'

section Identifiers

variable {platform : Platform} {payloads : List (JsonValue String)}

/-- Objects of plain texts with one hash are equal. -/
theorem CollisionFree.eq_of_hash (hfree : CollisionFree platform payloads)
    {left right : List (String × String)} (hleftMem : textObject left ∈ payloads)
    (hrightMem : textObject right ∈ payloads) (hkeys : left.map Prod.fst = right.map Prod.fst)
    (hsorted : (left.map Prod.fst).Pairwise (· ≤ ·)) (hleft : ∀ field ∈ left, Plain field.2)
    (hright : ∀ field ∈ right, Plain field.2) {digest : Sha256}
    (hleftHash : canonicalSha256 platform (textObject left) = .ok digest)
    (hrightHash : canonicalSha256 platform (textObject right) = .ok digest) : left = right := by
  obtain ⟨bytes, hbytes, hdigest⟩ := bind_eq_ok_iff.mp hleftHash
  obtain ⟨bytes', hbytes', hdigest'⟩ := bind_eq_ok_iff.mp hrightHash
  have hhash := Except.ok.inj (hdigest.trans hdigest'.symm)
  have hsame := hfree _ hleftMem _ hrightMem bytes bytes' hbytes hbytes' hhash
  rw [← hsame] at hbytes'
  exact textObject_inj hkeys hsorted hleft hright hbytes hbytes'

theorem ofIdentity_eq_ok_iff {A : Type} {outcome : Except IdentityError A} {value : A} :
    ofIdentity outcome = .ok value ↔ outcome = .ok value := by
  cases outcome with
  | error e => exact iff_of_false (fun h => by cases h) (fun h => by cases h)
  | ok result => exact ⟨fun h => by cases h; rfl, fun h => by cases h; rfl⟩

/-- An identifier of a kind ends in the hash of its payload. -/
theorem identifier_eq_ok {kind : Patterned isKind} {payload : JsonValue String} {id : StableId}
    (h : identifier platform kind payload = .ok id) :
    ∃ digest, canonicalSha256 platform payload = .ok digest ∧
      id.text = kind.text ++ "-sha256-" ++ digest.text := by
  obtain ⟨digest, hdigest, hid⟩ := bind_eq_ok_iff.mp h
  cases hid
  exact ⟨digest, hdigest, rfl⟩

theorem makeStreamId_eq_ok {sequenceId : StableId} {modality sensorId : String} {id : StreamId}
    (h : makeStreamId platform sequenceId modality sensorId = .ok id) :
    ∃ digest, canonicalSha256 platform (streamPayload sequenceId modality sensorId) = .ok digest ∧
      digestOf id.text.toList = digest.text.toList := by
  obtain ⟨digest, hdigest, h⟩ := bind_eq_ok_iff.mp h
  obtain ⟨modalitySlug, _, h⟩ := bind_eq_ok_iff.mp h
  obtain ⟨sensorSlug, _, h⟩ := bind_eq_ok_iff.mp h
  cases h
  refine ⟨digest, hdigest, ?_⟩
  rw [String.toList_append]
  exact digestOf_append digest.length_eq

/-! ### Calibrations -/

/-- What identifies a calibration. -/
def CalibrationView.key (view : CalibrationView) : Sha256 × FrameId × FrameId :=
  (view.sourceSha256, view.sourceFrame, view.targetFrame)

def CalibrationView.fields (view : CalibrationView) : List (String × String) :=
  [("sha256", view.sourceSha256.text), ("source_frame", view.sourceFrame.text),
    ("target_frame", view.targetFrame.text)]

theorem CalibrationView.fields_sorted (view : CalibrationView) :
    (view.fields.map Prod.fst).Pairwise (· ≤ ·) := by
  change ["sha256", "source_frame", "target_frame"].Pairwise (· ≤ ·)
  decide

theorem CalibrationView.fields_plain (view : CalibrationView) :
    ∀ field ∈ view.fields, Plain field.2 := by
  unfold CalibrationView.fields
  simp only [List.forall_mem_cons, List.not_mem_nil, false_implies, implies_true, and_true]
  exact ⟨Sha256.plain _, FrameId.plain _, FrameId.plain _⟩

theorem calibrationIdentity_eq_ok {view : CalibrationView} {calibration : CalibrationIdentity}
    (h : calibrationIdentity platform view = .ok calibration) :
    makeCalibrationId platform (calibrationPayload view) = .ok calibration.calibrationId := by
  obtain ⟨id, hid, h⟩ := bind_eq_ok_iff.mp h
  cases h
  exact ofIdentity_eq_ok_iff.mp hid

/-- Distinct calibrations have distinct identifiers. -/
theorem nodup_calibrationIds {views : List CalibrationView}
    {calibrations : List CalibrationIdentity}
    (hcalibrations : views.mapM (calibrationIdentity platform) = .ok calibrations)
    (hkeys : (views.map CalibrationView.key).Nodup)
    (hfree : CollisionFree platform (views.map calibrationPayload)) :
    (calibrations.map CalibrationIdentity.calibrationId).Nodup := by
  apply nodup_map_of_mapM_eq_ok hcalibrations hkeys
  intro left hleft right hright calibration calibration' hresult hresult' hid
  obtain ⟨digest, hdigest, htext⟩ := identifier_eq_ok (calibrationIdentity_eq_ok hresult)
  obtain ⟨digest', hdigest', htext'⟩ := identifier_eq_ok (calibrationIdentity_eq_ok hresult')
  have hsame : digest = digest' := by
    apply Patterned.eq_of_text
    rw [hid, htext'] at htext
    exact (String.append_right_inj _).mp htext.symm
  rw [← hsame] at hdigest'
  have hfields : left.fields = right.fields := hfree.eq_of_hash
    (List.mem_map_of_mem hleft) (List.mem_map_of_mem hright) rfl left.fields_sorted
    left.fields_plain right.fields_plain hdigest hdigest'
  simp only [CalibrationView.fields, List.cons.injEq, Prod.mk.injEq, true_and, and_true] at hfields
  exact Prod.ext (Patterned.eq_of_text hfields.1)
    (Prod.ext (Patterned.eq_of_text hfields.2.1) (Patterned.eq_of_text hfields.2.2))

/-! ### Streams -/

def AdapterSensorDescriptor.fields (sequenceId : StableId) (sensor : AdapterSensorDescriptor) :
    List (String × String) :=
  [("modality", sensor.modality.value), ("sensor_id", sensor.sensorId.text),
    ("sequence_id", sequenceId.text)]

/-- The payload of the stream of a sensor. -/
def sensorPayload (sequenceId : StableId) (sensor : AdapterSensorDescriptor) : JsonValue String :=
  streamPayload sequenceId sensor.modality.value sensor.sensorId.text

theorem AdapterSensorDescriptor.fields_sorted (sequenceId : StableId)
    (sensor : AdapterSensorDescriptor) :
    ((sensor.fields sequenceId).map Prod.fst).Pairwise (· ≤ ·) := by
  change ["modality", "sensor_id", "sequence_id"].Pairwise (· ≤ ·)
  decide

theorem AdapterModality.value_plain (modality : AdapterModality) : Plain modality.value := by
  cases modality
  · exact plain_of_all _ (by decide)
  · exact plain_of_all _ (by decide)

theorem AdapterModality.eq_of_value {left right : AdapterModality}
    (h : left.value = right.value) : left = right := by
  cases left <;> cases right
  · rfl
  · exact absurd h (by decide)
  · exact absurd h (by decide)
  · rfl

theorem AdapterSensorDescriptor.fields_plain (sequenceId : StableId)
    (sensor : AdapterSensorDescriptor) : ∀ field ∈ sensor.fields sequenceId, Plain field.2 := by
  unfold AdapterSensorDescriptor.fields
  simp only [List.forall_mem_cons, List.not_mem_nil, false_implies, implies_true, and_true]
  exact ⟨AdapterModality.value_plain _, Identifier.plain _, StableId.plain _⟩

/-- The sensor and the timestamp entry of a stream. -/
theorem describeStream_eq_ok {byKey : String → Except Raised StableId} {sequenceId : StableId}
    {sensor : AdapterSensorDescriptor} {stream : SensorDescriptor × TimestampMetadata}
    (h : describeStream platform byKey sequenceId sensor = .ok stream) :
    makeStreamId platform sequenceId sensor.modality.value sensor.sensorId.text =
        .ok stream.1.streamId ∧
      requiredCalibrations byKey sensor = .ok stream.1.calibrationIds ∧
      stream.2.streamId = stream.1.streamId ∧
      sensorIdentity byKey sensor = .ok (stream.1.sortKey, .object stream.1.identityFields) ∧
      sensorTimestampIdentity sensor = (stream.1.sortKey, timestampIdentity stream.2 stream.1) ∧
      stream.1.modality.value = sensor.modality.value ∧ stream.1.sensorId = sensor.sensorId := by
  obtain ⟨streamId, hstreamId, h⟩ := bind_eq_ok_iff.mp h
  obtain ⟨calibrationIds, hcalibrationIds, h⟩ := bind_eq_ok_iff.mp h
  cases h
  refine ⟨ofIdentity_eq_ok_iff.mp hstreamId, hcalibrationIds, rfl, ?_, rfl, rfl, rfl⟩
  unfold sensorIdentity
  rw [hcalibrationIds]
  rfl

/-- Distinct sensors have distinct streams. -/
theorem nodup_streamIds {byKey : String → Except Raised StableId} {sequenceId : StableId}
    {sensors : List AdapterSensorDescriptor} {streams : List (SensorDescriptor × TimestampMetadata)}
    (hstreams : sensors.mapM (describeStream platform byKey sequenceId) = .ok streams)
    (hkeys : (sensors.map fun sensor => (sensor.modality, sensor.sensorId)).Nodup)
    (hfree : CollisionFree platform (sensors.map (sensorPayload sequenceId))) :
    (streams.map fun stream => stream.1.streamId).Nodup := by
  apply nodup_map_of_mapM_eq_ok hstreams hkeys
  intro left hleft right hright stream stream' hresult hresult' hid
  obtain ⟨digest, hdigest, hend⟩ := makeStreamId_eq_ok (describeStream_eq_ok hresult).1
  obtain ⟨digest', hdigest', hend'⟩ := makeStreamId_eq_ok (describeStream_eq_ok hresult').1
  have hsame : digest = digest' := by
    apply Patterned.eq_of_text
    apply String.toList_inj.mp
    rw [← hend, ← hend', hid]
  rw [← hsame] at hdigest'
  have hfields : left.fields sequenceId = right.fields sequenceId := hfree.eq_of_hash
    (List.mem_map_of_mem hleft) (List.mem_map_of_mem hright) rfl (left.fields_sorted sequenceId)
    (left.fields_plain sequenceId) (right.fields_plain sequenceId) hdigest hdigest'
  simp only [AdapterSensorDescriptor.fields, List.cons.injEq, Prod.mk.injEq, true_and,
    and_true] at hfields
  exact Prod.ext (AdapterModality.eq_of_value hfields.1) (Patterned.eq_of_text hfields.2)

end Identifiers

/-! ## What is assembled -/

section Assembled

variable {platform : Platform} {adapter : ManifestAdapter} {sourceFiles : List SourceFile}
  {sourceIdentity : Sha256} {manifest : SequenceManifest}
  {streamByKey : List (Identifier × StreamId)}

/-- What `_build_manifest` went through to a manifest. -/
structure Assembled (platform : Platform) (adapter : ManifestAdapter)
    (sourceFiles : List SourceFile) (sourceIdentity : Sha256) (manifest : SequenceManifest)
    (views : List CalibrationView) (sensors : List AdapterSensorDescriptor)
    (identity : JsonValue String) : Prop where
  named : makeSequenceId platform identity = .ok manifest.sequenceId
  built : ∃ metadata calibrations sensorIdentities streams,
    views.mapM (calibrationIdentity platform) = .ok calibrations ∧
      sensors.mapM (sensorIdentity (calibrationByKey views calibrations)) = .ok sensorIdentities ∧
      identity = manifestIdentity metadata
        (sortedBy (fun item => item.calibrationId.text) calibrations) sensorIdentities
        (sensors.map sensorTimestampIdentity) sourceFiles sourceIdentity ∧
      sensors.mapM (describeStream platform (calibrationByKey views calibrations)
        manifest.sequenceId) = .ok streams ∧
      manifest = manifestOf metadata (sortedBy (fun item => item.calibrationId.text) calibrations)
        streams manifest.sequenceId sourceFiles sourceIdentity

theorem assembled_of_eq_ok {views : List CalibrationView} {sensors : List AdapterSensorDescriptor}
    (hviews : adapter.calibrations.collect = .ok views) (hsensors : adapter.sensors = .ok sensors)
    (h : assembleManifest platform adapter sourceFiles sourceIdentity =
      .ok (manifest, streamByKey)) :
    ∃ draft, draftManifest platform adapter sourceFiles sourceIdentity = .ok draft ∧
      Assembled platform adapter sourceFiles sourceIdentity manifest views sensors
        draft.identity := by
  obtain ⟨draft, hdraft, h⟩ := bind_eq_ok_iff.mp h
  obtain ⟨sequenceId, hsequence, h⟩ := bind_eq_ok_iff.mp h
  obtain ⟨streams, hstreams, h⟩ := bind_eq_ok_iff.mp h
  cases h
  refine ⟨draft, hdraft, ofIdentity_eq_ok_iff.mp hsequence, ?_⟩
  obtain ⟨metadata, hmetadata, hdraft⟩ := bind_eq_ok_iff.mp hdraft
  obtain ⟨views', hviews', hdraft⟩ := bind_eq_ok_iff.mp hdraft
  obtain ⟨calibrations, hcalibrations, hdraft⟩ := bind_eq_ok_iff.mp hdraft
  obtain ⟨sensors', hsensors', hdraft⟩ := bind_eq_ok_iff.mp hdraft
  obtain ⟨sensorIdentities, hidentities, hdraft⟩ := bind_eq_ok_iff.mp hdraft
  cases hdraft
  cases Except.ok.inj (hviews.symm.trans hviews')
  cases Except.ok.inj (hsensors.symm.trans hsensors')
  exact ⟨metadata, calibrations, sensorIdentities, streams, hcalibrations, hidentities, rfl,
    hstreams, rfl⟩

/-- A calibration that a sensor refers to is one of those built. -/
theorem mem_of_requiredCalibrations {views : List CalibrationView}
    {calibrations : List CalibrationIdentity} {sensor : AdapterSensorDescriptor}
    {ids : List StableId}
    (h : requiredCalibrations (calibrationByKey views calibrations) sensor = .ok ids)
    {id : StableId} (hid : id ∈ ids) :
    id ∈ calibrations.map CalibrationIdentity.calibrationId := by
  obtain ⟨unsorted, hunsorted, h⟩ := bind_eq_ok_iff.mp h
  cases h
  have hmem := (sortedBy_perm Patterned.text unsorted).mem_iff.mp hid
  obtain ⟨key, _, hkey⟩ := exists_left_of_mem (forall₂_of_mapM_eq_ok hunsorted) hmem
  unfold calibrationByKey at hkey
  split at hkey
  · rename_i calibration hlookup
    cases hkey
    obtain ⟨before, after, hsplit, _⟩ := List.lookup_eq_some_iff.mp hlookup
    have hpair : (key, calibration) ∈ (views.map CalibrationView.calibrationKey).zip calibrations := by
      rw [← List.mem_reverse, hsplit]
      simp
    exact List.mem_map_of_mem (List.of_mem_zip hpair).2
  · cases hkey

/-- The keys of distinct sensors differ as the pairs of modality and sensor do. -/
theorem nodup_sortKeys {byKey : String → Except Raised StableId} {sequenceId : StableId}
    {sensors : List AdapterSensorDescriptor} {streams : List (SensorDescriptor × TimestampMetadata)}
    (hstreams : sensors.mapM (describeStream platform byKey sequenceId) = .ok streams)
    (hkeys : (sensors.map fun sensor => (sensor.modality, sensor.sensorId)).Nodup) :
    (streams.map fun stream => stream.1.sortKey).Nodup := by
  apply nodup_map_of_mapM_eq_ok hstreams hkeys
  intro left _ right _ stream stream' hresult hresult' hkey
  obtain ⟨-, -, -, -, -, hmodality, hsensor⟩ := describeStream_eq_ok hresult
  obtain ⟨-, -, -, -, -, hmodality', hsensor'⟩ := describeStream_eq_ok hresult'
  obtain ⟨hvalue, htext⟩ := Prod.ext_iff.mp (toLex.injective hkey)
  dsimp only at hvalue htext
  rw [hmodality, hmodality'] at hvalue
  rw [hsensor, hsensor'] at htext
  exact Prod.ext (AdapterModality.eq_of_value hvalue) (Patterned.eq_of_text htext)

/-- The timestamp entries of a built manifest, with their sensors. -/
theorem placedTimestamps_perm {streams : List (SensorDescriptor × TimestampMetadata)}
    (hstreams : manifest.streamIds.Nodup)
    (hsensors : manifest.sensors.Perm (streams.map Prod.fst))
    (htimestamps : manifest.timestampMetadata.Perm (streams.map Prod.snd))
    (hsame : ∀ stream ∈ streams, stream.2.streamId = stream.1.streamId) :
    manifest.placedTimestamps.Perm (streams.map Prod.swap) := by
  have hplaced : ∀ stream ∈ streams, (manifest.sensorByStream stream.2.streamId).map
      (fun sensor => (stream.2, sensor)) = some stream.swap := by
    intro stream hstream
    have hsensor : manifest.sensorByStream stream.2.streamId = some stream.1 :=
      (SequenceManifest.sensorByStream_eq_some_iff hstreams).mpr
        ⟨hsensors.mem_iff.mpr (List.mem_map_of_mem hstream), (hsame stream hstream).symm⟩
    rw [hsensor]
    rfl
  unfold SequenceManifest.placedTimestamps
  apply (htimestamps.filterMap _).trans
  rw [List.filterMap_map, List.filterMap_congr (g := fun stream => some stream.swap) hplaced,
    List.filterMap_eq_map']

/-- The builder's identity payload is that of the manifest. -/
theorem identityPayload_manifestOf {byKey : String → Except Raised StableId}
    {metadata : AdapterSequenceMetadata} {calibrations : List CalibrationIdentity}
    {sensors : List AdapterSensorDescriptor}
    {sensorIdentities : List ((String ×ₗ String) × JsonValue String)}
    {streams : List (SensorDescriptor × TimestampMetadata)} {sequenceId : StableId}
    (hmanifest : manifest = manifestOf metadata
      (sortedBy (fun item => item.calibrationId.text) calibrations) streams sequenceId sourceFiles
      sourceIdentity)
    (hidentities : sensors.mapM (sensorIdentity byKey) = .ok sensorIdentities)
    (hstreams : sensors.mapM (describeStream platform byKey sequenceId) = .ok streams)
    (hkeys : (sensors.map fun sensor => (sensor.modality, sensor.sensorId)).Nodup)
    (hids : manifest.streamIds.Nodup)
    (hfiles : sortedBy SourceFile.sourceKey sourceFiles = sourceFiles) :
    manifest.identityPayload = manifestIdentity metadata
      (sortedBy (fun item => item.calibrationId.text) calibrations) sensorIdentities
      (sensors.map sensorTimestampIdentity) sourceFiles sourceIdentity := by
  have hsortKeys := nodup_sortKeys hstreams hkeys
  have hdescribed := forall₂_of_mapM_eq_ok hstreams
  have hsensors : manifest.sensors.Perm (streams.map Prod.fst) := by
    rw [hmanifest]
    exact sortedBy_perm _ _
  have htimestamps : manifest.timestampMetadata.Perm (streams.map Prod.snd) := by
    rw [hmanifest]
    exact sortedBy_perm _ _
  have hplaced := placedTimestamps_perm hids hsensors htimestamps (by
    intro stream hstream
    obtain ⟨sensor, _, hsensor⟩ := exists_left_of_mem hdescribed hstream
    exact (describeStream_eq_ok hsensor).2.2.1)
  have hsortedSensors : (sortedBy SensorDescriptor.sortKey manifest.sensors).map
      (fun sensor => JsonValue.object sensor.identityFields) =
        (sortedBy Prod.fst sensorIdentities).map Prod.snd := by
    have hpairs : sensorIdentities = (streams.map Prod.fst).map fun sensor =>
        (sensor.sortKey, JsonValue.object sensor.identityFields) := by
      have hboth := mapM_eq_ok_map hstreams fun _ _ hstream =>
        (describeStream_eq_ok hstream).2.2.2.1
      rw [List.map_map, ← Except.ok.inj (hboth.symm.trans hidentities)]
      rfl
    rw [sortedBy_eq_of_perm (by rw [List.map_map]; exact hsortKeys) hsensors, map_sortedBy, hpairs]
  have hsortedTimestamps : (sortedBy (fun placed => placed.2.sortKey)
      manifest.placedTimestamps).map (fun placed => timestampIdentity placed.1 placed.2) =
        (sortedBy Prod.fst (sensors.map sensorTimestampIdentity)).map Prod.snd := by
    have hpairs : sensors.map sensorTimestampIdentity = (streams.map Prod.swap).map fun placed =>
        (placed.2.sortKey, timestampIdentity placed.1 placed.2) := by
      rw [List.map_map]
      exact (map_eq_of_mapM_eq_ok hstreams fun _ _ hstream =>
        (describeStream_eq_ok hstream).2.2.2.2.1.symm).symm
    rw [sortedBy_eq_of_perm (by rw [List.map_map]; exact hsortKeys) hplaced, map_sortedBy, hpairs]
  unfold SequenceManifest.identityPayload manifestIdentity
  rw [hsortedSensors, hsortedTimestamps, hmanifest]
  unfold manifestOf
  dsimp only
  rw [sortedBy_sortedBy, hfiles]

/-! ### Portability -/

theorem forbidden_keys {unicode : UnicodeLower} : ∀ key ∈ ["schema_version", "sequence_id",
    "source_group_id", "partition", "declared_gaps", "stream_id"],
    forbiddenKey unicode key = false := by
  intro key hkey
  apply forbiddenKey_eq_false
  revert key
  decide +kernel

/-- A manifest without gaps is portable where its identity payload is: it adds
identifiers and literals only. -/
theorem portable_dump {unicode : UnicodeLower} (hgaps : manifest.declaredGaps = [])
    (hpartition : manifest.partition = .development) (hstreams : manifest.streamIds.Nodup)
    (hcovered : ∀ id ∈ manifest.metadataStreams, id ∈ manifest.streamIds)
    (h : Portable pathLeak (forbiddenKey unicode) manifest.identityPayload) :
    Portable pathLeak (forbiddenKey unicode) manifest.dump := by
  have hkeys := @forbidden_keys unicode
  simp only [List.forall_mem_cons] at hkeys
  obtain ⟨hschema, hsequence, hgroup, hpart, hdeclared, hstream, -⟩ := hkeys
  unfold SequenceManifest.identityPayload at h
  simp only [Portable.object_iff, List.forall_mem_cons] at h
  obtain ⟨hadapter, ⟨hcalibrationsKey, hcalibrations⟩, hcoordinates, ⟨hsensorsKey, hsensors⟩,
    ⟨hfilesKey, hfiles⟩, hsource, ⟨htimestampsKey, htimestamps⟩, -⟩ := h
  have hstreamField : ∀ id : StreamId, forbiddenKey unicode "stream_id" = false ∧
      Portable pathLeak (forbiddenKey unicode) (.string id.text) :=
    fun id => ⟨hstream, .string _ (StreamId.pathLeak id)⟩
  have hsensorDumps : Portable pathLeak (forbiddenKey unicode)
      (.array (manifest.sensors.map SensorDescriptor.dump)) := by
    rw [Portable.array_iff] at hsensors ⊢
    intro item hitem
    obtain ⟨sensor, hsensor, rfl⟩ := List.mem_map.mp hitem
    have hidentity := hsensors _ (List.mem_map_of_mem ((sortedBy_perm _ _).mem_iff.mpr hsensor))
    unfold SensorDescriptor.dump
    rw [Portable.object_iff] at hidentity ⊢
    exact List.forall_mem_cons.mpr ⟨hstreamField _, hidentity⟩
  have htimestampDumps : Portable pathLeak (forbiddenKey unicode)
      (.array (manifest.timestampMetadata.map TimestampMetadata.dump)) := by
    rw [Portable.array_iff] at htimestamps ⊢
    intro item hitem
    obtain ⟨entry, hentry, rfl⟩ := List.mem_map.mp hitem
    obtain ⟨sensor, hsensor, hsame⟩ :=
      List.mem_map.mp (hcovered _ (List.mem_map_of_mem (f := TimestampMetadata.streamId) hentry))
    have hfound := (SequenceManifest.sensorByStream_eq_some_iff hstreams).mpr ⟨hsensor, hsame⟩
    have hplaced : (entry, sensor) ∈ manifest.placedTimestamps :=
      List.mem_filterMap.mpr ⟨entry, hentry, by rw [hfound]; rfl⟩
    have hidentity := htimestamps _ (List.mem_map_of_mem ((sortedBy_perm _ _).mem_iff.mpr hplaced))
    unfold timestampIdentity at hidentity
    unfold TimestampMetadata.dump
    rw [Portable.object_iff] at hidentity ⊢
    exact List.forall_mem_cons.mpr ⟨hstreamField _,
      fun field hfield => hidentity field (List.mem_append_left _ hfield)⟩
  unfold SequenceManifest.dump
  simp only [Portable.object_iff, List.forall_mem_cons]
  refine ⟨⟨hschema, .string _ (by decide)⟩, ⟨hsequence, .string _ (StableId.pathLeak _)⟩, hsource,
    ⟨hgroup, .string _ (Identifier.pathLeak _)⟩, ⟨hpart, .string _ ?_⟩, hadapter,
    ⟨hsensorsKey, hsensorDumps⟩,
    ⟨hfilesKey, SequenceManifest.portable_array_of_perm (sortedBy_perm _ _).symm hfiles⟩,
    ⟨hcalibrationsKey, SequenceManifest.portable_array_of_perm (sortedBy_perm _ _).symm hcalibrations⟩,
    ⟨htimestampsKey, htimestampDumps⟩, hcoordinates, ⟨hdeclared, ?_⟩, List.forall_mem_nil _⟩
  · rw [hpartition]
    decide
  · rw [hgaps]
    exact .array _ (List.forall_mem_nil _)

theorem portable_of_makeSequenceId {payload : JsonValue String} {id : StableId}
    (h : makeSequenceId platform payload = .ok id) :
    Portable pathLeak (forbiddenKey platform.unicode) payload := by
  obtain ⟨digest, hdigest, -⟩ := identifier_eq_ok h
  obtain ⟨bytes, hbytes, -⟩ := bind_eq_ok_iff.mp hdigest
  exact checkPortable_eq_ok_iff.mp (bind_unit_eq_ok_iff.mp hbytes).1

/-! ### The validator -/

/-- A built manifest is valid, its sources, calibrations and sensors being distinct. -/
theorem Assembled.valid {views : List CalibrationView} {sensors : List AdapterSensorDescriptor}
    {identity : JsonValue String}
    (h : Assembled platform adapter sourceFiles sourceIdentity manifest views sensors identity)
    (hkeys : (sourceFiles.map SourceFile.sourceKey).Nodup)
    (hfiles : sortedBy SourceFile.sourceKey sourceFiles = sourceFiles)
    (hviews : (views.map CalibrationView.key).Nodup)
    (hsensors : (sensors.map fun sensor => (sensor.modality, sensor.sensorId)).Nodup)
    (hviewsFree : CollisionFree platform (views.map calibrationPayload))
    (hsensorsFree : CollisionFree platform (sensors.map (sensorPayload manifest.sequenceId))) :
    SequenceManifest.Valid platform manifest ∧ manifest.identityPayload = identity := by
  obtain ⟨metadata, calibrations, sensorIdentities, streams, hcalibrations, hidentities, hpayload,
    hstreams, hmanifest⟩ := h.built
  have hdescribed := forall₂_of_mapM_eq_ok hstreams
  have hcalibrationIds : (manifest.calibrations.map CalibrationIdentity.calibrationId).Perm
      (calibrations.map CalibrationIdentity.calibrationId) := by
    rw [hmanifest]
    exact (sortedBy_perm _ _).map _
  have hsensorsPerm : manifest.sensors.Perm (streams.map Prod.fst) := by
    rw [hmanifest]
    exact sortedBy_perm _ _
  have htimestampsPerm : manifest.timestampMetadata.Perm (streams.map Prod.snd) := by
    rw [hmanifest]
    exact sortedBy_perm _ _
  have hstreamIds : manifest.streamIds.Perm (streams.map fun stream => stream.1.streamId) := by
    have hperm := hsensorsPerm.map SensorDescriptor.streamId
    rwa [List.map_map] at hperm
  have hmetadataStreams : manifest.metadataStreams.Perm
      (streams.map fun stream => stream.1.streamId) := by
    have hperm := htimestampsPerm.map TimestampMetadata.streamId
    rw [List.map_map] at hperm
    apply hperm.trans
    apply List.Perm.of_eq
    apply List.map_congr_left
    intro stream hstream
    obtain ⟨sensor, _, hsensor⟩ := exists_left_of_mem hdescribed hstream
    exact (describeStream_eq_ok hsensor).2.2.1
  have hnodup : manifest.streamIds.Nodup :=
    hstreamIds.nodup_iff.mpr (nodup_streamIds hstreams hsensors hsensorsFree)
  have hcovered : ∀ id, id ∈ manifest.metadataStreams ↔ id ∈ manifest.streamIds :=
    fun id => by rw [hmetadataStreams.mem_iff, hstreamIds.mem_iff]
  have hsame : manifest.identityPayload = identity := by
    rw [hpayload]
    exact identityPayload_manifestOf hmanifest hidentities hstreams hsensors hnodup hfiles
  have hidentity : makeSequenceId platform manifest.identityPayload = .ok manifest.sequenceId := by
    rw [hsame]
    exact h.named
  have hgaps : manifest.declaredGaps = [] := by rw [hmanifest]; rfl
  have hsource : ∀ sensor ∈ manifest.sensors, ∃ source timestamp, describeStream platform
      (calibrationByKey views calibrations) manifest.sequenceId source = .ok (sensor, timestamp) := by
    intro sensor hsensor
    obtain ⟨stream, hstream, rfl⟩ := List.mem_map.mp (hsensorsPerm.mem_iff.mp hsensor)
    obtain ⟨source, _, hsource⟩ := exists_left_of_mem hdescribed hstream
    exact ⟨source, stream.2, hsource⟩
  refine ⟨{
    portable := portable_dump hgaps (by rw [hmanifest]; rfl) hnodup (fun id => (hcovered id).mp)
      (portable_of_makeSequenceId hidentity)
    streams := hnodup
    calibrations := hcalibrationIds.nodup_iff.mpr
      (nodup_calibrationIds hcalibrations hviews hviewsFree)
    bound := fun sensor hsensor => by
      obtain ⟨source, timestamp, hdescribe⟩ := hsource sensor hsensor
      obtain ⟨hmake, -, -, -, -, hmodality, hsensorId⟩ := describeStream_eq_ok hdescribe
      rw [hmodality, hsensorId]
      exact hmake
    references := fun sensor hsensor id hid => by
      obtain ⟨source, timestamp, hdescribe⟩ := hsource sensor hsensor
      have hrequired := (describeStream_eq_ok hdescribe).2.1
      exact hcalibrationIds.mem_iff.mpr (mem_of_requiredCalibrations hrequired hid)
    covered := hcovered
    gaps := fun gap hgap => by
      rw [hgaps] at hgap
      cases hgap
    sourceKeys := by
      rw [hmanifest]
      exact hkeys
    identity := hidentity }, hsame⟩

end Assembled

end CartoSentry.Ingestion
