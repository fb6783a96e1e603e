import CartoSentry.Artifacts.SequenceManifest

set_option autoImplicit false

/-!
# Artifacts: the identity of a sequence manifest

What the validators of a manifest accept, and that a rearrangement of its lists keeps
the identity payload as long as no two timestamp entries name one stream.
-/

namespace CartoSentry.Artifacts

open Foundation (JsonValue bind_unit_eq_ok_iff bind_eq_ok_iff)

/-! ## Sorting by a key -/

section Sorted

variable {A K : Type} [LinearOrder K] {key : A → K} {left right : List A}

theorem sortedBy_perm (key : A → K) (items : List A) : (sortedBy key items).Perm items :=
  List.perm_insertionSort _ items

theorem sortedBy_pairwise (key : A → K) (items : List A) :
    (sortedBy key items).Pairwise fun left right => key left ≤ key right :=
  List.pairwise_insertionSort _ items

theorem sortedBy_of_pairwise {items : List A}
    (h : items.Pairwise fun left right => key left ≤ key right) : sortedBy key items = items :=
  h.insertionSort_eq

theorem sortedBy_sortedBy (key : A → K) (items : List A) :
    sortedBy key (sortedBy key items) = sortedBy key items :=
  sortedBy_of_pairwise (sortedBy_pairwise key items)

/-- With distinct keys the order before sorting does not matter. -/
theorem sortedBy_eq_of_perm (hkeys : (left.map key).Nodup) (hperm : right.Perm left) :
    sortedBy key right = sortedBy key left := by
  have hsame := (sortedBy_perm key right).trans (hperm.trans (sortedBy_perm key left).symm)
  have hinjective : ∀ a ∈ left, ∀ b ∈ left, key a = key b → a = b :=
    fun a ha b hb heq => List.inj_on_of_nodup_map hkeys ha hb heq
  apply hsame.eq_of_pairwise _ (sortedBy_pairwise key right) (sortedBy_pairwise key left)
  intro a b ha hb hle hge
  exact hinjective a (hperm.mem_iff.mp ((sortedBy_perm key right).mem_iff.mp ha)) b
    ((sortedBy_perm key left).mem_iff.mp hb) (le_antisymm hle hge)

end Sorted

/-! ## What is accepted -/

theorem require_eq_ok_iff {condition : Prop} [Decidable condition] {message : String} :
    require condition message = .ok () ↔ condition := by
  unfold require
  split_ifs with h
  · exact iff_of_true rfl h
  · exact iff_of_false (fun heq => by cases heq) h

theorem checkPortable_eq_ok_iff {platform : Platform} {value : JsonValue String}
    {location : String} : checkPortable platform value location = .ok () ↔
      Portable pathLeak (forbiddenKey platform.unicode) value := by
  rw [← assertPortable_ok_iff platform.unicode value location]
  unfold checkPortable
  cases assertPortable platform.unicode value location with
  | error e => exact iff_of_false (fun h => by cases h) (fun h => by cases h)
  | ok result => exact iff_of_true rfl rfl

theorem forM_eq_ok_iff {A E : Type} {check : A → Except E Unit} {items : List A} :
    items.forM check = .ok () ↔ ∀ item ∈ items, check item = .ok () := by
  induction items with
  | nil => exact iff_of_true rfl (by simp)
  | cons item items ih =>
    change (check item >>= fun _ => items.forM check) = .ok () ↔ _
    rw [bind_unit_eq_ok_iff, ih, List.forall_mem_cons]

namespace SequenceManifest

/-- What the validators accept. -/
structure Valid (platform : Platform) (manifest : SequenceManifest) : Prop where
  portable : Portable pathLeak (forbiddenKey platform.unicode) manifest.dump
  streams : manifest.streamIds.Nodup
  calibrations : (manifest.calibrations.map CalibrationIdentity.calibrationId).Nodup
  bound : ∀ sensor ∈ manifest.sensors, makeStreamId platform manifest.sequenceId
    sensor.modality.value sensor.sensorId.text = .ok sensor.streamId
  references : ∀ sensor ∈ manifest.sensors, ∀ id ∈ sensor.calibrationIds,
    id ∈ manifest.calibrations.map CalibrationIdentity.calibrationId
  covered : ∀ id, id ∈ manifest.metadataStreams ↔ id ∈ manifest.streamIds
  gaps : ∀ gap ∈ manifest.declaredGaps, gap.streamId ∈ manifest.streamIds
  sourceKeys : (manifest.sourceFiles.map SourceFile.sourceKey).Nodup
  identity : makeSequenceId platform manifest.identityPayload = .ok manifest.sequenceId

theorem validateSensor_eq_ok_iff {platform : Platform} {manifest : SequenceManifest}
    {sensor : SensorDescriptor} : manifest.validateSensor platform sensor = .ok () ↔
      makeStreamId platform manifest.sequenceId sensor.modality.value sensor.sensorId.text =
          .ok sensor.streamId ∧
        ∀ id ∈ sensor.calibrationIds,
          id ∈ manifest.calibrations.map CalibrationIdentity.calibrationId := by
  unfold validateSensor
  rw [bind_eq_ok_iff]
  simp only [bind_unit_eq_ok_iff, require_eq_ok_iff]
  constructor
  · rintro ⟨expected, hexpected, rfl, hknown⟩
    exact ⟨hexpected, hknown⟩
  · rintro ⟨hexpected, hknown⟩
    exact ⟨_, hexpected, rfl, hknown⟩

theorem validate_eq_ok_iff {platform : Platform} {manifest : SequenceManifest} :
    manifest.validate platform = .ok () ↔ Valid platform manifest := by
  unfold validate validateIdentityAndReferences
  rw [bind_unit_eq_ok_iff, bind_unit_eq_ok_iff, bind_unit_eq_ok_iff, bind_unit_eq_ok_iff,
    bind_unit_eq_ok_iff, bind_unit_eq_ok_iff, bind_unit_eq_ok_iff, bind_eq_ok_iff]
  simp only [require_eq_ok_iff, checkPortable_eq_ok_iff, forM_eq_ok_iff, validateSensor_eq_ok_iff]
  constructor
  · rintro ⟨hportable, hstreams, hcalibrations, hsensors, ⟨hknown, hall⟩, hgaps, hkeys, expected,
      hidentity, rfl⟩
    exact ⟨hportable, hstreams, hcalibrations, fun sensor hsensor => (hsensors sensor hsensor).1,
      fun sensor hsensor => (hsensors sensor hsensor).2, fun id => ⟨hknown id, hall id⟩, hgaps,
      hkeys, hidentity⟩
  · intro h
    exact ⟨h.portable, h.streams, h.calibrations,
      fun sensor hsensor => ⟨h.bound sensor hsensor, h.references sensor hsensor⟩,
      ⟨fun id => (h.covered id).mp, fun id => (h.covered id).mpr⟩, h.gaps, h.sourceKeys,
      manifest.sequenceId, h.identity, rfl⟩

/-! ## Rearranging -/

/-- The same manifest with its sensors, source files, calibrations and timestamp entries
in another order. -/
structure Rearranged (manifest other : SequenceManifest) : Prop where
  sensors : other.sensors.Perm manifest.sensors
  sourceFiles : other.sourceFiles.Perm manifest.sourceFiles
  calibrations : other.calibrations.Perm manifest.calibrations
  timestampMetadata : other.timestampMetadata.Perm manifest.timestampMetadata
  rest : other = { manifest with
    sensors := other.sensors, sourceFiles := other.sourceFiles,
    calibrations := other.calibrations, timestampMetadata := other.timestampMetadata }

section Payload

variable {platform : Platform} {manifest other : SequenceManifest}

theorem portable_array_of_perm {leaks forbidden : String → Bool} {A : Type} {dump : A → JsonValue String}
    {left right : List A} (hperm : right.Perm left)
    (h : Portable leaks forbidden (.array (left.map dump))) :
    Portable leaks forbidden (.array (right.map dump)) := by
  rw [Portable.array_iff] at h ⊢
  intro item hitem
  exact h item ((hperm.map dump).mem_iff.mp hitem)

theorem Rearranged.portable (h : Rearranged manifest other) {leaks forbidden : String → Bool}
    (hportable : Portable leaks forbidden manifest.dump) :
    Portable leaks forbidden other.dump := by
  rw [h.rest]
  unfold dump at hportable ⊢
  simp only [Portable.object_iff, List.forall_mem_cons] at hportable ⊢
  obtain ⟨hschema, hsequence, hsource, hgroup, hpartition, hadapter, ⟨hsensorsKey, hsensors⟩,
    ⟨hfilesKey, hfiles⟩, ⟨hcalibrationsKey, hcalibrations⟩, ⟨htimestampsKey, htimestamps⟩,
    hrest⟩ := hportable
  exact ⟨hschema, hsequence, hsource, hgroup, hpartition, hadapter,
    ⟨hsensorsKey, portable_array_of_perm h.sensors hsensors⟩,
    ⟨hfilesKey, portable_array_of_perm h.sourceFiles hfiles⟩,
    ⟨hcalibrationsKey, portable_array_of_perm h.calibrations hcalibrations⟩,
    ⟨htimestampsKey, portable_array_of_perm h.timestampMetadata htimestamps⟩, hrest⟩

/-- The sensors of a valid manifest have distinct sort keys: the key determines the
stream. -/
theorem Valid.stream_of_sortKey (h : Valid platform manifest) {left right : SensorDescriptor}
    (hleft : left ∈ manifest.sensors) (hright : right ∈ manifest.sensors)
    (hkey : left.sortKey = right.sortKey) : left.streamId = right.streamId := by
  obtain ⟨hmodality, hsensor⟩ := Prod.ext_iff.mp (toLex.injective hkey)
  have hbound := h.bound left hleft
  dsimp only at hmodality hsensor
  rw [hmodality, hsensor, h.bound right hright] at hbound
  exact (Except.ok.inj hbound).symm

theorem Valid.nodup_sortKey (h : Valid platform manifest) :
    (manifest.sensors.map SensorDescriptor.sortKey).Nodup := by
  have hstreams := h.streams
  unfold streamIds at hstreams
  rw [List.Nodup, List.pairwise_map] at hstreams ⊢
  apply hstreams.imp_of_mem
  intro left right hleft hright hne hkey
  exact hne (h.stream_of_sortKey hleft hright hkey)

/-- With distinct streams `sensor_by_stream` finds the sensor of a stream. -/
theorem sensorByStream_eq_some_iff (h : manifest.streamIds.Nodup) {streamId : StreamId}
    {sensor : SensorDescriptor} : manifest.sensorByStream streamId = some sensor ↔
      sensor ∈ manifest.sensors ∧ sensor.streamId = streamId := by
  unfold sensorByStream
  constructor
  · intro hfound
    have hstream := List.find?_some hfound
    exact ⟨List.mem_reverse.mp (List.mem_of_find?_eq_some hfound), of_decide_eq_true hstream⟩
  · rintro ⟨hsensor, rfl⟩
    cases hfound : manifest.sensors.reverse.find? (fun item => item.streamId = sensor.streamId) with
    | none =>
      have hnone := List.find?_eq_none.mp hfound sensor (List.mem_reverse.mpr hsensor)
      exact absurd (decide_eq_true rfl) hnone
    | some found =>
      have hmem := List.mem_reverse.mp (List.mem_of_find?_eq_some hfound)
      have hstream := List.find?_some hfound
      rw [List.inj_on_of_nodup_map h hmem hsensor (of_decide_eq_true hstream)]

theorem Rearranged.streamIds (h : Rearranged manifest other) :
    other.streamIds.Perm manifest.streamIds :=
  h.sensors.map _

theorem Rearranged.metadataStreams (h : Rearranged manifest other) :
    other.metadataStreams.Perm manifest.metadataStreams :=
  h.timestampMetadata.map _

theorem Rearranged.sensorByStream (h : Rearranged manifest other)
    (hstreams : manifest.streamIds.Nodup) (streamId : StreamId) :
    other.sensorByStream streamId = manifest.sensorByStream streamId := by
  have hother : other.streamIds.Nodup := h.streamIds.nodup_iff.mpr hstreams
  apply Option.ext
  intro sensor
  rw [sensorByStream_eq_some_iff hother, sensorByStream_eq_some_iff hstreams, h.sensors.mem_iff]

theorem Rearranged.placedTimestamps (h : Rearranged manifest other)
    (hstreams : manifest.streamIds.Nodup) :
    other.placedTimestamps.Perm manifest.placedTimestamps := by
  unfold SequenceManifest.placedTimestamps
  simp only [h.sensorByStream hstreams]
  exact h.timestampMetadata.filterMap _

theorem mem_placedTimestamps (h : manifest.streamIds.Nodup)
    {placed : TimestampMetadata × SensorDescriptor} (hplaced : placed ∈ manifest.placedTimestamps) :
    placed.1 ∈ manifest.timestampMetadata ∧ placed.2 ∈ manifest.sensors ∧
      placed.2.streamId = placed.1.streamId := by
  obtain ⟨entry, hentry, hsome⟩ := List.mem_filterMap.mp hplaced
  obtain ⟨sensor, hsensor, rfl⟩ := Option.map_eq_some_iff.mp hsome
  obtain ⟨hmem, hstream⟩ := (sensorByStream_eq_some_iff h).mp hsensor
  exact ⟨hentry, hmem, hstream⟩

/-- The first components of what is placed are timestamp entries in their order. -/
theorem placedTimestamps_sublist :
    (manifest.placedTimestamps.map fun placed => placed.1.streamId).Sublist
      manifest.metadataStreams := by
  unfold placedTimestamps SequenceManifest.metadataStreams
  induction manifest.timestampMetadata with
  | nil => exact .slnil
  | cons entry rest ih =>
    rw [List.filterMap_cons, List.map_cons]
    cases manifest.sensorByStream entry.streamId with
    | none => exact ih.cons _
    | some sensor => exact ih.cons_cons _

/-- With one entry for a stream, what is placed has distinct sort keys. -/
theorem Valid.nodup_placed (h : Valid platform manifest)
    (hentries : manifest.metadataStreams.Nodup) :
    (manifest.placedTimestamps.map fun placed => placed.2.sortKey).Nodup := by
  have hstreams := hentries.sublist placedTimestamps_sublist
  rw [List.Nodup, List.pairwise_map] at hstreams ⊢
  apply hstreams.imp_of_mem
  intro left right hleft hright hne hkey
  obtain ⟨_, hleftSensor, hleftStream⟩ := mem_placedTimestamps h.streams hleft
  obtain ⟨_, hrightSensor, hrightStream⟩ := mem_placedTimestamps h.streams hright
  apply hne
  rw [← hleftStream, ← hrightStream]
  exact h.stream_of_sortKey hleftSensor hrightSensor hkey

/-- A rearrangement keeps the identity payload. -/
theorem Valid.identityPayload_eq (h : Valid platform manifest)
    (hentries : manifest.metadataStreams.Nodup) (hother : Rearranged manifest other) :
    other.identityPayload = manifest.identityPayload := by
  have hids : (manifest.calibrations.map fun item => item.calibrationId.text).Nodup := by
    have hcalibrations := h.calibrations
    rw [List.Nodup, List.pairwise_map] at hcalibrations ⊢
    apply hcalibrations.imp
    intro left right hne htext
    apply hne
    cases hleft : left.calibrationId with
    | mk text valid =>
      cases hright : right.calibrationId with
      | mk text' valid' =>
        rw [hleft, hright] at htext
        cases htext
        rfl
  have hcalibrations := sortedBy_eq_of_perm hids hother.calibrations
  have hsensors := sortedBy_eq_of_perm h.nodup_sortKey hother.sensors
  have hfiles := sortedBy_eq_of_perm h.sourceKeys hother.sourceFiles
  have hplaced := sortedBy_eq_of_perm (h.nodup_placed hentries)
    (hother.placedTimestamps h.streams)
  unfold identityPayload
  rw [hcalibrations, hsensors, hfiles, hplaced, hother.rest]

/-- A rearrangement of a valid manifest is valid, under the same identifier. -/
theorem Valid.rearranged (h : Valid platform manifest)
    (hentries : manifest.metadataStreams.Nodup) (hother : Rearranged manifest other) :
    Valid platform other ∧ other.sequenceId = manifest.sequenceId := by
  have hsequence : other.sequenceId = manifest.sequenceId := by rw [hother.rest]
  have hgaps : other.declaredGaps = manifest.declaredGaps := by rw [hother.rest]
  have hcalibrations := hother.calibrations.map CalibrationIdentity.calibrationId
  have hstreamIds := hother.streamIds
  refine ⟨{
    portable := hother.portable h.portable
    streams := hstreamIds.nodup_iff.mpr h.streams
    calibrations := hcalibrations.nodup_iff.mpr h.calibrations
    bound := fun sensor hsensor => ?_
    references := fun sensor hsensor id hid => ?_
    covered := fun id => ?_
    gaps := fun gap hgap => ?_
    sourceKeys := (hother.sourceFiles.map _).nodup_iff.mpr h.sourceKeys
    identity := ?_ }, hsequence⟩
  · rw [hsequence]
    exact h.bound sensor (hother.sensors.mem_iff.mp hsensor)
  · exact hcalibrations.mem_iff.mpr (h.references sensor (hother.sensors.mem_iff.mp hsensor) id hid)
  · rw [hother.metadataStreams.mem_iff, hstreamIds.mem_iff]
    exact h.covered id
  · rw [hgaps] at hgap
    exact hstreamIds.mem_iff.mpr (h.gaps gap hgap)
  · rw [h.identityPayload_eq hentries hother, hsequence]
    exact h.identity

/-- Each stream of a valid manifest has one timestamp entry exactly when no two entries
name one stream. -/
theorem Valid.count_eq_one_iff (h : Valid platform manifest) :
    (∀ sensor ∈ manifest.sensors, manifest.metadataStreams.count sensor.streamId = 1) ↔
      manifest.metadataStreams.Nodup := by
  rw [List.nodup_iff_count_le_one]
  constructor
  · intro hone streamId
    cases Nat.eq_zero_or_pos (manifest.metadataStreams.count streamId) with
    | inl hzero => omega
    | inr hpos =>
      have hstream := (h.covered streamId).mp (List.count_pos_iff.mp hpos)
      obtain ⟨sensor, hsensor, rfl⟩ := List.mem_map.mp hstream
      exact (hone sensor hsensor).le
  · intro hle sensor hsensor
    have hmem := (h.covered sensor.streamId).mpr (List.mem_map_of_mem hsensor)
    have hpos := List.count_pos_iff.mpr hmem
    have hbound := hle sensor.streamId
    omega

end Payload

end SequenceManifest

end CartoSentry.Artifacts
