import CartoSentry.LidarIntegrity.FailureRuns

set_option autoImplicit false

/-!
# Lidar integrity: reported runs

Every run of failures that is reported has one event, with the frames, the times, the
severity and the measurements of the run.
-/

namespace CartoSentry.LidarIntegrity

open Artifacts (Platform Sha256 sortedBy sortedBy_perm jsonText DigestsApart integer_append_inj
  append_separator_inj)
open Contracts (Raised raiseIf raiseIf_bind raiseIf_eq_ok_iff)
open Foundation (Double JsonValue ok_bind bind_eq_ok_iff bind_unit_eq_ok_iff exists_mapM_forall₂
  mapM_eq_ok
  map_eq_of_mapM_eq_ok exists_left_of_mem exists_right_of_mem pairwise_of_forall₂)
open TrajectoryIntegrity (Severity minimumOf_spec maximumOf_spec)

/-! ## Greatest values -/

section Greatest

variable {A : Type} {below : A → A → Bool}

/-- The scan ends at a value that none of the others exceeds. -/
theorem maximumBy_spec (hirrefl : ∀ a, below a a = false)
    (htrans : ∀ a b c, below a b = true → below b c = true → below a c = true)
    {values : List A} (h : values ≠ []) : ∃ greatest, maximumBy below values = .ok greatest ∧
      greatest ∈ values ∧ ∀ value ∈ values, below greatest value = false := by
  obtain ⟨first, rest, rfl⟩ := List.exists_cons_of_ne_nil h
  refine ⟨_, rfl, ?_⟩
  clear h
  induction rest using List.reverseRecOn with
  | nil => exact ⟨List.mem_cons_self, List.forall_mem_singleton.mpr (hirrefl first)⟩
  | append_singleton rest next ih =>
    obtain ⟨hmem, hgreatest⟩ := ih
    rw [List.foldl_append, List.foldl_cons, List.foldl_nil, ← List.cons_append]
    split_ifs with hexceeded
    · refine ⟨List.mem_append_right _ List.mem_cons_self, List.forall_mem_append.mpr
        ⟨fun value hvalue => ?_, List.forall_mem_singleton.mpr (hirrefl next)⟩⟩
      by_contra habove
      rw [Bool.not_eq_false] at habove
      have hbefore := hgreatest value hvalue
      rw [htrans _ _ _ hexceeded habove] at hbefore
      cases hbefore
    · rw [Bool.not_eq_true] at hexceeded
      exact ⟨List.mem_append_left _ hmem, List.forall_mem_append.mpr
        ⟨hgreatest, List.forall_mem_singleton.mpr hexceeded⟩⟩

end Greatest

theorem lt_irrefl_double (value : Double) : value.lt value = false := by
  unfold Double.lt
  simp

theorem lt_trans_double (a b c : Double) (hab : a.lt b = true) (hbc : b.lt c = true) :
    a.lt c = true := by
  unfold Double.lt at hab hbc ⊢
  simp only [Bool.and_eq_true, decide_eq_true_eq] at hab hbc ⊢
  exact ⟨⟨hab.1.1, hbc.1.2⟩, hab.2.trans hbc.2⟩

theorem maximumBy_severity_spec {severities : List Severity} (h : severities ≠ []) :
    ∃ severity, maximumBy lessSevere severities = .ok severity ∧ severity ∈ severities ∧
      ∀ other ∈ severities, other.order ≤ severity.order := by
  have hirrefl : ∀ own, lessSevere own own = false := fun own => decide_eq_false (lt_irrefl _)
  have htrans : ∀ a b c, lessSevere a b = true → lessSevere b c = true → lessSevere a c = true :=
    fun a b c hab hbc => decide_eq_true ((of_decide_eq_true hab).trans (of_decide_eq_true hbc))
  obtain ⟨severity, hseverity, hmem, hgreatest⟩ := maximumBy_spec hirrefl htrans h
  exact ⟨severity, hseverity, hmem, fun other hother =>
    not_lt.mp (of_decide_eq_false (hgreatest other hother))⟩

/-! ## Measurements -/

section Measurements

variable {group : List RawFailure}

theorem mem_measurementKeys {key : String} :
    key ∈ measurementKeys group ↔ ∃ failure ∈ group, ∃ value, failure.measured key = some value := by
  rw [measurementKeys, (sortedBy_perm _ _).mem_iff, List.mem_dedup, List.mem_flatMap]
  refine exists_congr fun failure => and_congr_right fun _ => ?_
  rw [RawFailure.measured, List.mem_map]
  constructor
  · rintro ⟨⟨own, value⟩, hmem, rfl⟩
    obtain ⟨entry, hentry⟩ : ∃ entry, failure.measurements.find? (fun entry => entry.1 = own) =
        some entry := by
      rw [← Option.isSome_iff_exists, List.find?_isSome]
      exact ⟨_, hmem, decide_eq_true rfl⟩
    exact ⟨entry.2, by rw [hentry]; rfl⟩
  · rintro ⟨value, hvalue⟩
    obtain ⟨entry, hentry, -⟩ := Option.map_eq_some_iff.mp hvalue
    have hown := List.find?_some hentry
    exact ⟨entry, List.mem_of_find?_eq_some hentry, of_decide_eq_true hown⟩

theorem nodup_measurementKeys : (measurementKeys group).Nodup :=
  (sortedBy_perm _ _).nodup_iff.mpr (List.nodup_dedup _)

/-- The measurements of an event are the greatest ones of its failures. -/
structure Measured (run : List RawFailure) (measurements : List (String × Double)) : Prop where
  once : (measurements.map Prod.fst).Nodup
  keys : ∀ key, (∃ value, (key, value) ∈ measurements) ↔
    ∃ failure ∈ run, ∃ value, failure.measured key = some value
  met : ∀ key value, (key, value) ∈ measurements →
    ∃ failure ∈ run, failure.measured key = some value
  greatest : ∀ key value, (key, value) ∈ measurements → ∀ failure ∈ run, ∀ other,
    failure.measured key = some other → value.lt other = false

theorem exists_measured (group : List RawFailure) :
    ∃ measurements, (measurementKeys group).mapM (greatestMeasurement group) = .ok measurements ∧
      Measured group measurements := by
  have hkey : ∀ key ∈ measurementKeys group, ∃ entry, greatestMeasurement group key = .ok entry ∧
      (entry.1 = key ∧ (∃ failure ∈ group, failure.measured key = some entry.2) ∧
        ∀ failure ∈ group, ∀ other, failure.measured key = some other →
          entry.2.lt other = false) := by
    intro key hmem
    obtain ⟨failure, hfailure, value, hvalue⟩ := mem_measurementKeys.mp hmem
    have hvalues : group.filterMap (fun item => item.measured key) ≠ [] :=
      List.ne_nil_of_mem (List.mem_filterMap.mpr ⟨failure, hfailure, hvalue⟩)
    obtain ⟨greatest, hgreatest, hmet, hnone⟩ :=
      maximumBy_spec lt_irrefl_double lt_trans_double hvalues
    refine ⟨(key, greatest), ?_, rfl, List.mem_filterMap.mp hmet, fun failure hfailure other hother =>
      hnone other (List.mem_filterMap.mpr ⟨failure, hfailure, hother⟩)⟩
    rw [greatestMeasurement, hgreatest]
    rfl
  obtain ⟨measurements, hmeasurements, hall⟩ := exists_mapM_forall₂ hkey
  have hfst : measurements.map Prod.fst = measurementKeys group := by
    rw [← List.map_id (measurementKeys group)]
    refine map_eq_of_mapM_eq_ok hmeasurements fun key entry hentry => ?_
    obtain ⟨value, -, hvalue⟩ := bind_eq_ok_iff.mp hentry
    cases hvalue
    rfl
  have hentry : ∀ key value, (key, value) ∈ measurements →
      (∃ failure ∈ group, failure.measured key = some value) ∧ ∀ failure ∈ group, ∀ other,
        failure.measured key = some other → value.lt other = false := by
    intro key value hmem
    obtain ⟨own, -, rfl, hown⟩ := exists_left_of_mem hall hmem
    exact hown
  refine ⟨measurements, hmeasurements, ?_, fun key => ?_, fun key value hmem => (hentry key value hmem).1,
    fun key value hmem => (hentry key value hmem).2⟩
  · rw [hfst]
    exact nodup_measurementKeys
  · rw [← mem_measurementKeys, ← hfst, List.mem_map]
    constructor
    · rintro ⟨value, hmem⟩
      exact ⟨(key, value), hmem, rfl⟩
    · rintro ⟨⟨own, value⟩, hmem, rfl⟩
      exact ⟨value, hmem⟩

end Measurements

/-! ## Identifiers -/

section Identifiers

variable {platform : Platform} {sourceSha256 : Sha256}

/-- The text of an identity in front of the end of its run. -/
def identityStart : List Char :=
  '{' :: (Artifacts.quoted "detector_id" ++ ':' :: (Artifacts.quoted "lidar-integrity-v1" ++
    ',' :: (Artifacts.quoted "detector_version" ++ ':' :: (Artifacts.quoted "1.0.0" ++
      ',' :: (Artifacts.quoted "end_frame_index_exclusive" ++ [':'])))))

/-- The fields of an identity in the order of their names. -/
theorem insertionSort_identity (detector version source rule start finish : List Char) :
    ([("detector_id", detector), ("detector_version", version), ("source_sha256", source),
      ("rule", rule), ("start_frame_index", start), ("end_frame_index_exclusive", finish)] :
        List (String × List Char)).insertionSort (fun left right => left.1 ≤ right.1) =
    [("detector_id", detector), ("detector_version", version),
      ("end_frame_index_exclusive", finish), ("rule", rule), ("source_sha256", source),
      ("start_frame_index", start)] := by
  simp [List.insertionSort, List.orderedInsert]

/-- The text of an identity: the end of the run and the rule stand in front of the rest. -/
theorem jsonText_identityPayload (platform : Platform) (sourceSha256 : Sha256) (rule : LidarRule)
    (startFrame endFrame : Int) : ∃ rest,
      jsonText platform (identityPayload sourceSha256 rule startFrame endFrame) =
        .ok (identityStart ++ ((toString endFrame).toList ++ ',' :: (Artifacts.quoted "rule" ++
          ':' :: (Artifacts.quoted rule.value ++ ',' :: rest)))) := by
  have hentries : Artifacts.jsonEntries platform
      [("detector_id", .string "lidar-integrity-v1"), ("detector_version", .string "1.0.0"),
        ("source_sha256", .string sourceSha256.text), ("rule", .string rule.value),
        ("start_frame_index", .integer startFrame),
        ("end_frame_index_exclusive", .integer endFrame)] =
      .ok [("detector_id", Artifacts.quoted "lidar-integrity-v1"),
        ("detector_version", Artifacts.quoted "1.0.0"),
        ("source_sha256", Artifacts.quoted sourceSha256.text),
        ("rule", Artifacts.quoted rule.value),
        ("start_frame_index", (toString startFrame).toList),
        ("end_frame_index_exclusive", (toString endFrame).toList)] := by
    simp only [Artifacts.jsonEntries, jsonText, ok_bind]
    rfl
  refine ⟨Artifacts.separated ([("source_sha256", Artifacts.quoted sourceSha256.text),
    ("start_frame_index", (toString startFrame).toList)].map
      fun entry : String × List Char => Artifacts.quoted entry.1 ++ ':' :: entry.2) ++ ['}'], ?_⟩
  rw [identityPayload, jsonText, hentries, ok_bind]
  dsimp only
  rw [insertionSort_identity]
  simp only [identityStart, List.map_cons, List.map_nil, Artifacts.separated, List.append_assoc,
    List.cons_append, List.nil_append]
  rfl

/-- The identity under which an event is named. -/
def LidarEvent.identity (sourceSha256 : Sha256) (event : LidarEvent) : JsonValue String :=
  identityPayload sourceSha256 event.rule event.startFrameIndex event.endFrameIndexExclusive

theorem eventId_eq {payload : JsonValue String} {text : List Char}
    (h : jsonText platform payload = .ok text) : eventId platform payload =
      .ok ("lidar-event-sha256-" ++
        (platform.sha256 (text.flatMap String.utf8EncodeChar)).text) := by
  unfold eventId
  rw [h]

theorem quoted_value_inj {left right : LidarRule}
    (h : Artifacts.quoted left.value = Artifacts.quoted right.value) : left = right := by
  revert h
  cases left <;> cases right <;> decide

theorem comma_notMem_value (rule : LidarRule) : ',' ∉ Artifacts.quoted rule.value := by
  cases rule <;> decide

/-- Events with one identifier end together and have one rule. -/
theorem same_of_eventId {events : List LidarEvent}
    (hapart : DigestsApart platform (events.map (LidarEvent.identity sourceSha256)))
    {left right : LidarEvent} (hleft : left ∈ events) (hright : right ∈ events)
    (hleftId : eventId platform (left.identity sourceSha256) = .ok left.eventId)
    (hrightId : eventId platform (right.identity sourceSha256) = .ok right.eventId)
    (h : left.eventId = right.eventId) :
    left.rule = right.rule ∧ left.endFrameIndexExclusive = right.endFrameIndexExclusive := by
  obtain ⟨rest, hleftText⟩ := jsonText_identityPayload platform sourceSha256 left.rule
    left.startFrameIndex left.endFrameIndexExclusive
  obtain ⟨rest', hrightText⟩ := jsonText_identityPayload platform sourceSha256 right.rule
    right.startFrameIndex right.endFrameIndexExclusive
  have hleftName := Except.ok.inj (hleftId.symm.trans (eventId_eq hleftText))
  have hrightName := Except.ok.inj (hrightId.symm.trans (eventId_eq hrightText))
  rw [hleftName, hrightName, String.append_right_inj] at h
  have htexts := hapart _ (List.mem_map_of_mem hleft) _ (List.mem_map_of_mem hright) _ _
    hleftText hrightText (Artifacts.Patterned.eq_of_text h)
  obtain ⟨hends, hrests⟩ := integer_append_inj (List.append_cancel_left htexts)
  have hrules := (List.cons.inj (List.append_cancel_left hrests)).2
  exact ⟨quoted_value_inj (append_separator_inj (comma_notMem_value _) (comma_notMem_value _)
    hrules).1, hends⟩

end Identifiers

/-! ## Events -/

/-- An event and the run of failures that it stands for. -/
structure Describes (run : List RawFailure) (first last : Int) (event : LidarEvent) : Prop where
  startFrame : event.startFrameIndex = first
  endFrame : event.endFrameIndexExclusive = last + 1
  startTime : ∃ failure ∈ run, failure.startTimeNs = event.startTimeNs
  startLeast : ∀ failure ∈ run, event.startTimeNs ≤ failure.startTimeNs
  endTime : ∃ failure ∈ run, failure.endTimeNs = event.endTimeNs
  endGreatest : ∀ failure ∈ run, failure.endTimeNs ≤ event.endTimeNs
  severityMet : ∃ failure ∈ run, failure.severity = event.severity
  severityHighest : ∀ failure ∈ run, failure.severity.order ≤ event.severity.order
  measured : Measured run event.measurements
  offsets : ∀ offset ∈ event.representativeSourceOffsets,
    ∃ failure ∈ run, offset ∈ failure.sourceOffsets

section Events

variable {platform : Platform} {profile : LidarIntegrityProfile} {sourceSha256 : Sha256}
  {raw group : List RawFailure} {rule : LidarRule} {first last : Int}

theorem Measured.of_perm {run : List RawFailure} {measurements : List (String × Double)}
    (h : Measured group measurements) (hperm : group.Perm run) : Measured run measurements := by
  refine ⟨h.once, fun key => ?_, fun key value hmem => ?_, fun key value hmem failure hfailure => ?_⟩
  · simp only [← hperm.mem_iff]
    exact h.keys key
  · simp only [← hperm.mem_iff]
    exact h.met key value hmem
  · exact h.greatest key value hmem failure (hperm.symm.subset hfailure)

variable (platform profile sourceSha256) in
theorem eventOf_describes (hrun : MaximalRun raw rule first last)
    (hperm : group.Perm (runOf raw rule first last)) : ∃ event,
      eventOf platform profile sourceSha256 group = event.validate ∧ event.rule = rule ∧
        Describes (runOf raw rule first last) first last event ∧
        eventId platform (event.identity sourceSha256) = .ok event.eventId := by
  obtain ⟨failure, hfailure, hrule, hframe⟩ := hrun.fails first le_rfl hrun.nonempty
  obtain ⟨final, hfinal, hfinalRule, hfinalFrame⟩ := hrun.fails last hrun.nonempty le_rfl
  have hnonempty := hrun.nonempty
  have hmem : failure ∈ group := hperm.symm.subset (mem_runOf.mpr ⟨hfailure, hrule, by omega⟩)
  have hfinalMem : final ∈ group :=
    hperm.symm.subset (mem_runOf.mpr ⟨hfinal, hfinalRule, by omega⟩)
  have hgroup : group ≠ [] := List.ne_nil_of_mem hmem
  have hwithin : ∀ item ∈ group, first ≤ item.frameIndex ∧ item.frameIndex ≤ last :=
    fun item hitem => (mem_runOf.mp (hperm.subset hitem)).2.2
  obtain ⟨measurements, hmeasurements, hmeasured⟩ := exists_measured group
  obtain ⟨startFrame, hstartFrame, ⟨lowest, hlowest, hlowestFrame⟩, hstartLeast⟩ :=
    minimumOf_spec RawFailure.frameIndex hgroup
  obtain ⟨lastFrame, hlastFrame, ⟨highest, hhighest, hhighestFrame⟩, hlastGreatest⟩ :=
    maximumOf_spec RawFailure.frameIndex hgroup
  obtain ⟨startTimeNs, hstartTime, ⟨earliest, hearliest, hearliestTime⟩, htimeLeast⟩ :=
    minimumOf_spec RawFailure.startTimeNs hgroup
  obtain ⟨endTimeNs, hendTime, ⟨latest, hlatest, hlatestTime⟩, htimeGreatest⟩ :=
    maximumOf_spec RawFailure.endTimeNs hgroup
  have hseverities : group.map RawFailure.severity ≠ [] := mt List.map_eq_nil_iff.mp hgroup
  obtain ⟨severity, hseverity, hmet, hhighestSeverity⟩ := maximumBy_severity_spec hseverities
  obtain rfl : startFrame = first := by
    have hle := hstartLeast failure hmem
    have hge := (hwithin lowest hlowest).1
    omega
  obtain rfl : lastFrame = last := by
    have hle := hlastGreatest final hfinalMem
    have hge := (hwithin highest hhighest).2
    omega
  obtain ⟨rest, htext⟩ :=
    jsonText_identityPayload platform sourceSha256 rule startFrame (lastFrame + 1)
  have hidentifier := eventId_eq htext
  obtain ⟨head, tail, rfl⟩ := List.exists_cons_of_ne_nil hgroup
  obtain rfl : head.rule = rule := (mem_runOf.mp (hperm.subset List.mem_cons_self)).2.1
  unfold eventOf
  dsimp only
  rw [hmeasurements, ok_bind, hstartFrame, ok_bind, hlastFrame, ok_bind, hstartTime, ok_bind,
    hendTime, ok_bind, hidentifier, ok_bind, hseverity, ok_bind]
  refine ⟨_, rfl, rfl, ?_, hidentifier⟩
  exact {
    startFrame := rfl
    endFrame := rfl
    startTime := ⟨earliest, hperm.subset hearliest, hearliestTime⟩
    startLeast := fun item hitem => htimeLeast item (hperm.symm.subset hitem)
    endTime := ⟨latest, hperm.subset hlatest, hlatestTime⟩
    endGreatest := fun item hitem => htimeGreatest item (hperm.symm.subset hitem)
    severityMet := by
      obtain ⟨item, hitem, heq⟩ := List.mem_map.mp hmet
      exact ⟨item, hperm.subset hitem, heq⟩
    severityHighest := fun item hitem =>
      hhighestSeverity _ (List.mem_map_of_mem (hperm.symm.subset hitem))
    measured := hmeasured.of_perm hperm
    offsets := fun offset hoffset => by
      have hall := (sortedBy_perm _ _).subset (List.mem_of_mem_take hoffset)
      obtain ⟨item, hitem, hown⟩ := List.mem_flatMap.mp (List.mem_dedup.mp hall)
      exact ⟨item, hperm.subset hitem, hown⟩ }

/-! ## Reported runs -/

variable (profile) in
/-- A run of a coverage rule is reported when it has enough frames, any other is. -/
def Persists (rule : LidarRule) (first last : Int) : Prop :=
  rule.isCoverage = true →
    (profile.thresholds.minimumConsecutiveCoverageFrames : Int) ≤ last + 1 - first

theorem isReported_iff (hrun : MaximalRun raw rule first last)
    (hperm : group.Perm (runOf raw rule first last)) :
    isReported profile group = true ↔ Persists profile rule first last := by
  have hframes : distinctFrames group = (last + 1 - first).toNat := by
    rw [distinctFrames, ← List.card_toFinset, List.toFinset_eq_of_perm _ _ (hperm.map _),
      hrun.toFinset_frames, Int.card_Icc]
  obtain ⟨failure, hfailure, hrule, hframe⟩ := hrun.fails first le_rfl hrun.nonempty
  have hnonempty := hrun.nonempty
  have hmem : failure ∈ group := hperm.symm.subset (mem_runOf.mpr ⟨hfailure, hrule, by omega⟩)
  obtain ⟨head, tail, rfl⟩ := List.exists_cons_of_ne_nil (List.ne_nil_of_mem hmem)
  obtain rfl : head.rule = rule := (mem_runOf.mp (hperm.subset List.mem_cons_self)).2.1
  rw [isReported, List.head?_cons, Option.any_some, hframes, Bool.not_eq_true', Persists]
  cases head.rule.isCoverage with
  | false => simp
  | true =>
    simp only [Bool.true_and, decide_eq_false_iff_not, forall_const]
    omega

variable (profile raw) in
/-- The events of the runs that are reported, and no others. -/
structure Reports (events : List LidarEvent) : Prop where
  complete : ∀ rule first last, MaximalRun raw rule first last → Persists profile rule first last →
    ∃ event ∈ events, event.rule = rule ∧ Describes (runOf raw rule first last) first last event
  sound : ∀ event ∈ events, ∃ first last, MaximalRun raw event.rule first last ∧
    Persists profile event.rule first last ∧
      Describes (runOf raw event.rule first last) first last event
  once : events.Pairwise fun left right =>
    (left.rule, left.startFrameIndex) ≠ (right.rule, right.startFrameIndex)

/-- Two groups of the sweep are different runs. -/
theorem groups_apart : (groupFailures profile raw).Pairwise fun group other =>
    ∀ rule first last, MaximalRun raw rule first last → group.Perm (runOf raw rule first last) →
      ¬ other.Perm (runOf raw rule first last) := by
  refine List.pairwise_iff_forall_sublist.mpr fun {group other} hpair rule first last hrun hgroup
    hother => ?_
  obtain ⟨failure, hfailure, hrule, hframe⟩ := hrun.fails first le_rfl hrun.nonempty
  have hnonempty := hrun.nonempty
  have hmem : failure ∈ runOf raw rule first last := mem_runOf.mpr ⟨hfailure, hrule, by omega⟩
  -- a failure of both groups would be counted twice
  have hflatten : (group ++ other).Sublist (groupFailures profile raw).flatten := by
    have hsublist := hpair.flatten
    rwa [List.flatten_cons, List.flatten_singleton] at hsublist
  rw [groupFailures, List.flatten_splitBy] at hflatten
  have hcount := hflatten.count_le failure
  rw [List.count_append, hgroup.count_eq, hother.count_eq,
    (orderedFailures_perm profile raw).count_eq] at hcount
  have hrunCount := (List.filter_sublist (p := fun item : RawFailure => decide (item.rule = rule ∧
    first ≤ item.frameIndex ∧ item.frameIndex ≤ last)) (l := raw)).count_le failure
  have hpositive := List.count_pos_iff.mpr hmem
  have hall : (runOf raw rule first last).count failure = raw.count failure :=
    List.count_filter (decide_eq_true (mem_runOf.mp hmem).2)
  omega

variable (raw) in
/-- The event of a group, before it is validated. -/
def Stands (platform : Platform) (profile : LidarIntegrityProfile) (sourceSha256 : Sha256)
    (group : List RawFailure) (event : LidarEvent) : Prop :=
  ∃ first last, MaximalRun raw event.rule first last ∧ Persists profile event.rule first last ∧
    group.Perm (runOf raw event.rule first last) ∧
      Describes (runOf raw event.rule first last) first last event ∧
        eventId platform (event.identity sourceSha256) = .ok event.eventId

variable (platform profile sourceSha256 raw) in
theorem exists_made : ∃ made : List LidarEvent,
    ((groupFailures profile raw).filter (isReported profile)).mapM
        (eventOf platform profile sourceSha256) = made.mapM LidarEvent.validate ∧
      List.Forall₂ (Stands raw platform profile sourceSha256)
        ((groupFailures profile raw).filter (isReported profile)) made := by
  have hevent : ∀ group ∈ (groupFailures profile raw).filter (isReported profile), ∃ event,
      eventOf platform profile sourceSha256 group = event.validate ∧
        Stands raw platform profile sourceSha256 group event := by
    intro group hgroup
    obtain ⟨hmem, hreported⟩ := List.mem_filter.mp hgroup
    obtain ⟨rule, first, last, hrun, hperm⟩ := run_of_group hmem
    obtain ⟨event, hmade, rfl, hdescribes, hidentifier⟩ :=
      eventOf_describes platform profile sourceSha256 hrun hperm
    exact ⟨event, hmade, first, last, hrun, (isReported_iff hrun hperm).mp hreported, hperm,
      hdescribes, hidentifier⟩
  generalize (groupFailures profile raw).filter (isReported profile) = groups at hevent
  induction groups with
  | nil => exact ⟨[], rfl, .nil⟩
  | cons group groups ih =>
    obtain ⟨⟨event, hmade, hstands⟩, hrest⟩ := List.forall_mem_cons.mp hevent
    obtain ⟨made, hmadeRest, hall⟩ := ih hrest
    refine ⟨event :: made, ?_, .cons hstands hall⟩
    rw [List.mapM_cons, List.mapM_cons, hmade, hmadeRest]

theorem validate_eq_ok_iff {event : LidarEvent} : event.validate = .ok event ↔
    0 ≤ event.startFrameIndex ∧ 0 < event.endFrameIndexExclusive ∧
      ∀ offset ∈ event.representativeSourceOffsets, 0 ≤ offset := by
  unfold LidarEvent.validate
  rw [bind_unit_eq_ok_iff, bind_unit_eq_ok_iff, bind_unit_eq_ok_iff, raiseIf_eq_ok_iff,
    raiseIf_eq_ok_iff, raiseIf_eq_ok_iff, not_lt, not_le]
  simp only [not_exists, not_and, not_lt]
  exact and_congr_right fun _ => and_congr_right fun _ => and_iff_left rfl

theorem eq_of_validate {event result : LidarEvent} (h : event.validate = .ok result) :
    result = event := by
  unfold LidarEvent.validate at h
  obtain ⟨-, h⟩ := bind_unit_eq_ok_iff.mp h
  obtain ⟨-, h⟩ := bind_unit_eq_ok_iff.mp h
  obtain ⟨-, h⟩ := bind_unit_eq_ok_iff.mp h
  cases h
  rfl

theorem reports_of_stands {made : List LidarEvent}
    (h : List.Forall₂ (Stands raw platform profile sourceSha256)
      ((groupFailures profile raw).filter (isReported profile)) made) : Reports profile raw made := by
  refine ⟨fun rule first last hrun hpersists => ?_, fun event hevent => ?_, ?_⟩
  · obtain ⟨group, hgroup, hperm⟩ := group_of_run profile hrun
    have hreported : group ∈ (groupFailures profile raw).filter (isReported profile) :=
      List.mem_filter.mpr ⟨hgroup, (isReported_iff hrun hperm).mpr hpersists⟩
    obtain ⟨event, hevent, begins, ends, hownRun, -, hownPerm, hdescribes, -⟩ :=
      exists_right_of_mem h hreported
    -- the group is the run of its event and this one, so they are the same
    have hnonempty := hrun.nonempty
    have hownNonempty := hownRun.nonempty
    obtain ⟨failure, hfailure, hrule, hframe⟩ := hrun.fails first le_rfl hnonempty
    have hmem : failure ∈ runOf raw rule first last := mem_runOf.mpr ⟨hfailure, hrule, by omega⟩
    obtain ⟨-, hownRule, hbegins, hends⟩ :=
      mem_runOf.mp (hownPerm.subset (hperm.symm.subset hmem))
    obtain rfl : rule = event.rule := hrule.symm.trans hownRule
    obtain ⟨rfl, rfl⟩ := hrun.eq_of_overlap hownRun (by omega) (by omega)
    exact ⟨event, hevent, rfl, hdescribes⟩
  · obtain ⟨group, -, first, last, hrun, hpersists, -, hdescribes, -⟩ := exists_left_of_mem h hevent
    exact ⟨first, last, hrun, hpersists, hdescribes⟩
  · refine pairwise_of_forall₂ h (groups_apart.filter _) fun group other left right hleft hright
      hapart hsame => ?_
    obtain ⟨first, last, hrun, -, hperm, hdescribes, -⟩ := hleft
    obtain ⟨first', last', hrun', -, hperm', hdescribes', -⟩ := hright
    obtain ⟨hrule, hstart⟩ := Prod.mk.inj hsame
    rw [hdescribes.startFrame, hdescribes'.startFrame] at hstart
    rw [← hrule] at hrun' hperm'
    subst hstart
    obtain ⟨-, rfl⟩ := hrun.eq_of_overlap hrun' hrun.nonempty hrun'.nonempty
    exact hapart _ _ _ hrun hperm hperm'

variable (profile) in
/-- The key by which the events are sorted. -/
def eventKey (event : LidarEvent) : Int ×ₗ Nat :=
  toLex (event.startFrameIndex, priority profile event.rule)

theorem Reports.of_perm {made sorted : List LidarEvent} (h : Reports profile raw made)
    (hperm : sorted.Perm made) : Reports profile raw sorted := by
  refine ⟨fun rule first last hrun hpersists => ?_, fun event hevent => ?_, ?_⟩
  · obtain ⟨event, hevent, hdescribes⟩ := h.complete rule first last hrun hpersists
    exact ⟨event, hperm.symm.subset hevent, hdescribes⟩
  · exact h.sound event (hperm.subset hevent)
  · exact (hperm.pairwise_iff fun {_ _} hne heq => hne heq.symm).mpr h.once

/-- Events of different runs have different identifiers. -/
theorem Reports.nodup_ids {events : List LidarEvent} (h : Reports profile raw events)
    (hids : ∀ event ∈ events, eventId platform (event.identity sourceSha256) = .ok event.eventId)
    (hapart : DigestsApart platform (events.map (LidarEvent.identity sourceSha256))) :
    (events.map LidarEvent.eventId).Nodup := by
  rw [List.Nodup, List.pairwise_map]
  refine h.once.imp_of_mem fun {left right} hleft hright hne hsame => hne ?_
  obtain ⟨hrule, hends⟩ := same_of_eventId hapart hleft hright (hids left hleft)
    (hids right hright) hsame
  obtain ⟨first, last, hrun, -, hdescribes⟩ := h.sound left hleft
  obtain ⟨first', last', hrun', -, hdescribes'⟩ := h.sound right hright
  rw [hdescribes.endFrame, hdescribes'.endFrame] at hends
  rw [← hrule] at hrun'
  have hnonempty := hrun.nonempty
  have hnonempty' := hrun'.nonempty
  obtain ⟨hfirst, -⟩ := hrun.eq_of_overlap hrun' (by omega) (by omega)
  rw [hrule, hdescribes.startFrame, hdescribes'.startFrame, hfirst]

/-- **Failures are reported in runs.**  The groups of the sweep are the maximal runs of
frames at which a rule fails.  What is returned has one event for each run that is reported,
with different identifiers as far as their digests are apart.  Only a negative frame or
offset or the budget stops the sweep. -/
theorem failures_reported_in_runs (platform : Platform) (profile : LidarIntegrityProfile)
    (sourceSha256 : Sha256) (raw : List RawFailure) :
    (groupFailures profile raw).flatten.Perm raw ∧
    (∀ group ∈ groupFailures profile raw, ∃ rule first last,
      MaximalRun raw rule first last ∧ group.Perm (runOf raw rule first last)) ∧
    (∀ rule first last, MaximalRun raw rule first last →
      ∃ group ∈ groupFailures profile raw, group.Perm (runOf raw rule first last)) ∧
    (∀ reported, events platform profile sourceSha256 raw = .ok reported →
      Reports profile raw reported ∧
        (DigestsApart platform (reported.map (LidarEvent.identity sourceSha256)) →
          (reported.map LidarEvent.eventId).Nodup)) ∧
    ((∀ failure ∈ raw, 0 ≤ failure.frameIndex ∧ ∀ offset ∈ failure.sourceOffsets, 0 ≤ offset) →
      (((groupFailures profile raw).filter (isReported profile)).length ≤
          profile.budgets.maximumEvents →
        ∃ reported, events platform profile sourceSha256 raw = .ok reported) ∧
      (profile.budgets.maximumEvents <
          ((groupFailures profile raw).filter (isReported profile)).length →
        events platform profile sourceSha256 raw =
          .error (.valueError "lidar event count exceeds the frozen budget"))) := by
  obtain ⟨made, hmade, hstands⟩ := exists_made platform profile sourceSha256 raw
  have hlength := hstands.length_eq
  refine ⟨?_, fun group => run_of_group, fun rule first last => group_of_run profile, ?_, ?_⟩
  · rw [groupFailures, List.flatten_splitBy]
    exact orderedFailures_perm profile raw
  · intro reported hreported
    unfold events at hreported
    rw [hmade] at hreported
    obtain ⟨validated, hvalidated, hrest⟩ := bind_eq_ok_iff.mp hreported
    obtain ⟨-, hsorted⟩ := bind_unit_eq_ok_iff.mp hrest
    have hsame := map_eq_of_mapM_eq_ok hvalidated (g := id) (k := id) fun event result hevent =>
      eq_of_validate hevent
    rw [List.map_id, List.map_id] at hsame
    subst hsame
    obtain rfl := Except.ok.inj hsorted
    have hperm := sortedBy_perm (eventKey profile) validated
    refine ⟨(reports_of_stands hstands).of_perm hperm,
      ((reports_of_stands hstands).of_perm hperm).nodup_ids fun event hevent => ?_⟩
    obtain ⟨group, -, first, last, -, -, -, -, hidentifier⟩ :=
      exists_left_of_mem hstands (hperm.subset hevent)
    exact hidentifier
  · intro hnonnegative
    have hvalid : made.mapM LidarEvent.validate = .ok made := by
      rw [mapM_eq_ok (g := id) fun event hevent => ?_, List.map_id]
      obtain ⟨group, -, first, last, hrun, -, -, hdescribes, -⟩ := exists_left_of_mem hstands hevent
      have hnonempty := hrun.nonempty
      obtain ⟨failure, hfailure, -, hframe⟩ := hrun.fails first le_rfl hnonempty
      have hfirst := (hnonnegative failure hfailure).1
      rw [id, validate_eq_ok_iff, hdescribes.startFrame, hdescribes.endFrame]
      refine ⟨by omega, by omega, fun offset hoffset => ?_⟩
      obtain ⟨item, hitem, hown⟩ := hdescribes.offsets offset hoffset
      exact (hnonnegative item (mem_runOf.mp hitem).1).2 offset hown
    unfold events
    rw [hmade, hvalid, ok_bind, hlength]
    refine ⟨fun hwithin => ?_, fun hexceeded => ?_⟩
    · rw [raiseIf_bind (not_lt.mpr hwithin)]
      exact ⟨_, rfl⟩
    · rw [raiseIf, if_pos hexceeded]
      rfl

end Events

end CartoSentry.LidarIntegrity
