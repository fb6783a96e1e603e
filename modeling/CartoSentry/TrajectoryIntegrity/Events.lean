import CartoSentry.Artifacts.IdentityText
import CartoSentry.Artifacts.SequenceIdentity
import CartoSentry.Ingestion.AcceptedManifests
import CartoSentry.TrajectoryIntegrity.Consolidation
import Mathlib.Data.List.MinMax

set_option autoImplicit false

/-!
# Trajectory integrity: events

The events of the raw failures: one for each chain of failures that are near each other,
with the rules, the severity and a part of the interval of its group.
-/

namespace CartoSentry.TrajectoryIntegrity

open Artifacts (Platform Sha256 sortedBy sortedBy_perm sortedBy_pairwise jsonText DigestsApart
  integer_append_inj utf8_inj)
open Contracts (Raised raiseIf raiseIf_bind)
open Foundation (JsonValue ok_bind
  exists_mapM_forall₂ exists_left_of_mem pairwise_of_forall₂ Chained Grouped sweepGroups sweepGroups_grouped)

/-! ## Least and greatest -/

section Extremes

variable {A N : Type} [LinearOrder N] {items : List A}

theorem minimumOf_spec (f : A → N) (h : items ≠ []) :
    ∃ least, minimumOf (items.map f) = .ok least ∧ (∃ item ∈ items, f item = least) ∧
      ∀ item ∈ items, least ≤ f item := by
  cases items with
  | nil => exact absurd rfl h
  | cons first rest =>
    obtain ⟨hmem, hleast⟩ := List.min?_eq_some_iff.mp
      (rfl : ((first :: rest).map f).min? = some ((rest.map f).foldl min (f first)))
    exact ⟨_, rfl, List.mem_map.mp hmem, List.forall_mem_map.mp hleast⟩

theorem maximumOf_spec (f : A → N) (h : items ≠ []) :
    ∃ greatest, maximumOf (items.map f) = .ok greatest ∧ (∃ item ∈ items, f item = greatest) ∧
      ∀ item ∈ items, f item ≤ greatest := by
  cases items with
  | nil => exact absurd rfl h
  | cons first rest =>
    obtain ⟨hmem, hgreatest⟩ := List.max?_eq_some_iff.mp
      (rfl : ((first :: rest).map f).max? = some ((rest.map f).foldl max (f first)))
    exact ⟨_, rfl, List.mem_map.mp hmem, List.forall_mem_map.mp hgreatest⟩

end Extremes

/-- The scan keeps a severity that it has met, and none that it has met is higher. -/
theorem foldl_severity_spec (rest : List RawFailure) (best : Severity) :
    let highest := rest.foldl (fun best item =>
      if best.order < item.severity.order then item.severity else best) best
    (highest = best ∨ ∃ item ∈ rest, item.severity = highest) ∧ best.order ≤ highest.order ∧
      ∀ item ∈ rest, item.severity.order ≤ highest.order := by
  induction rest generalizing best with
  | nil => exact ⟨Or.inl rfl, le_rfl, fun item hitem => absurd hitem List.not_mem_nil⟩
  | cons first rest ih =>
    dsimp only [List.foldl_cons]
    split_ifs with hhigher
    · obtain ⟨hmet, hbest, hrest⟩ := ih first.severity
      refine ⟨Or.inr ?_, hhigher.le.trans hbest, List.forall_mem_cons.mpr ⟨hbest, hrest⟩⟩
      rcases hmet with heq | ⟨item, hitem, heq⟩
      · exact ⟨first, List.mem_cons_self, heq.symm⟩
      · exact ⟨item, List.mem_cons_of_mem _ hitem, heq⟩
    · obtain ⟨hmet, hbest, hrest⟩ := ih best
      refine ⟨?_, hbest, List.forall_mem_cons.mpr ⟨(not_lt.mp hhigher).trans hbest, hrest⟩⟩
      rcases hmet with heq | ⟨item, hitem, heq⟩
      · exact Or.inl heq
      · exact Or.inr ⟨item, List.mem_cons_of_mem _ hitem, heq⟩

theorem highestSeverity_spec {group : List RawFailure} (h : group ≠ []) :
    ∃ severity, highestSeverity group = .ok severity ∧ (∃ item ∈ group, item.severity = severity) ∧
      ∀ item ∈ group, item.severity.order ≤ severity.order := by
  cases group with
  | nil => exact absurd rfl h
  | cons first rest =>
    obtain ⟨hmet, hfirst, hrest⟩ := foldl_severity_spec rest first.severity
    refine ⟨_, rfl, ?_, List.forall_mem_cons.mpr ⟨hfirst, hrest⟩⟩
    rcases hmet with heq | ⟨item, hitem, heq⟩
    · exact ⟨first, List.mem_cons_self, heq.symm⟩
    · exact ⟨item, List.mem_cons_of_mem _ hitem, heq⟩

/-! ## Measurements -/

/-- The key under which a measurement is kept. -/
def RuleMeasurement.key (measurement : RuleMeasurement) : TrajectoryRule × String :=
  (measurement.rule, measurement.thresholdKey)

/-- A measurement that is kept comes from one of the two, and no key is lost. -/
theorem keepGreater_spec (selected : List RuleMeasurement) (measurement : RuleMeasurement) :
    (∀ kept ∈ keepGreater selected measurement, kept ∈ selected ∨ kept = measurement) ∧
      (∀ other, other ∈ selected ∨ other = measurement →
        ∃ kept ∈ keepGreater selected measurement, kept.key = other.key) := by
  unfold keepGreater
  dsimp only
  split
  · refine ⟨fun kept hkept => ?_, fun other hother => ?_⟩
    · rwa [List.mem_append, List.mem_singleton] at hkept
    · exact ⟨other, by rwa [List.mem_append, List.mem_singleton], rfl⟩
  · rename_i previous hfound
    have hsame : previous.rule = measurement.rule ∧
        previous.thresholdKey = measurement.thresholdKey := by
      simpa using List.find?_some hfound
    have hprevious := List.mem_of_find?_eq_some hfound
    have hkey : previous.key = measurement.key := Prod.ext hsame.1 hsame.2
    split_ifs with hgreater
    · refine ⟨fun kept hkept => ?_, fun other hother => ?_⟩
      · obtain ⟨old, hold, rfl⟩ := List.mem_map.mp hkept
        split_ifs
        · exact Or.inr rfl
        · exact Or.inl hold
      · have hplaced : ∀ old ∈ selected, ∃ kept ∈ selected.map (fun old =>
            if decide (old.rule = measurement.rule ∧ old.thresholdKey = measurement.thresholdKey) =
              true then measurement else old), kept.key = old.key := by
          intro old hold
          refine ⟨_, List.mem_map.mpr ⟨old, hold, rfl⟩, ?_⟩
          split_ifs with hreplaced
          · exact (Prod.ext (of_decide_eq_true hreplaced).1 (of_decide_eq_true hreplaced).2).symm
          · rfl
        rcases hother with hold | rfl
        · exact hplaced other hold
        · rw [← hkey]
          exact hplaced previous hprevious
    · refine ⟨fun kept hkept => Or.inl hkept, fun other hother => ?_⟩
      rcases hother with hold | rfl
      · exact ⟨other, hold, rfl⟩
      · exact ⟨previous, hprevious, hkey⟩

theorem deduplicateMeasurements_spec (measurements : List RuleMeasurement) :
    (∀ kept ∈ deduplicateMeasurements measurements, kept ∈ measurements) ∧
      ∀ measurement ∈ measurements,
        ∃ kept ∈ deduplicateMeasurements measurements, kept.key = measurement.key := by
  have hfold : (∀ kept ∈ measurements.foldl keepGreater [], kept ∈ measurements) ∧
      ∀ measurement ∈ measurements,
        ∃ kept ∈ measurements.foldl keepGreater [], kept.key = measurement.key := by
    induction measurements using List.reverseRecOn with
    | nil => exact ⟨fun _ h => h, fun _ h => absurd h List.not_mem_nil⟩
    | append_singleton measurements last ih =>
      rw [List.foldl_append, List.foldl_cons, List.foldl_nil]
      obtain ⟨hkept, hcovered⟩ := keepGreater_spec (measurements.foldl keepGreater []) last
      refine ⟨fun kept hmem => ?_, fun measurement hmem => ?_⟩
      · rw [List.mem_append, List.mem_singleton]
        exact (hkept kept hmem).imp_left (ih.1 kept)
      · rw [List.mem_append, List.mem_singleton] at hmem
        rcases hmem with hold | rfl
        · obtain ⟨old, hmemOld, hkeyOld⟩ := ih.2 measurement hold
          obtain ⟨kept, hmemKept, hkeyKept⟩ := hcovered old (Or.inl hmemOld)
          exact ⟨kept, hmemKept, hkeyKept.trans hkeyOld⟩
        · exact hcovered measurement (Or.inr rfl)
  have hmem : ∀ kept, kept ∈ deduplicateMeasurements measurements ↔
      kept ∈ measurements.foldl keepGreater [] := fun kept => (sortedBy_perm _ _).mem_iff
  simp only [hmem]
  exact hfold

/-! ## Rules -/

section Rules

variable {profile : TrajectoryIntegrityProfile} {strideNs : Int} {group : List RawFailure}

theorem mem_groupRules {rule : TrajectoryRule} :
    rule ∈ groupRules profile group ↔ ∃ item ∈ group, item.rule = rule := by
  rw [groupRules, (sortedBy_perm _ _).mem_iff, List.mem_dedup, List.mem_map]

theorem nodup_groupRules : (groupRules profile group).Nodup :=
  (sortedBy_perm _ _).nodup_iff.mpr (List.nodup_dedup _)

/-- The first rule of a group is the one of its event. -/
theorem groupRules_eq_cons (h : group ≠ []) :
    ∃ rest, groupRules profile group =
      (groupRules profile group).headD .timestampRegression :: rest := by
  obtain ⟨item, hitem⟩ := List.exists_mem_of_ne_nil group h
  have hrule : item.rule ∈ groupRules profile group := mem_groupRules.mpr ⟨item, hitem, rfl⟩
  cases hrules : groupRules profile group with
  | nil =>
    rw [hrules] at hrule
    cases hrule
  | cons first rest => exact ⟨rest, rfl⟩

variable (strideNs) in
/-- Whatever bounds the event is a rule of its group. -/
theorem boundaryRule_mem {primary : TrajectoryRule}
    (hprimary : primary ∈ groupRules profile group) :
    boundaryRule strideNs group (groupRules profile group) primary ∈ groupRules profile group := by
  unfold boundaryRule
  dsimp only
  split_ifs with _ hfreeze hlong hresidual hvelocity
  · exact hprimary
  · exact hfreeze
  · obtain ⟨item, hitem, hstep⟩ := List.any_eq_true.mp hlong
    exact mem_groupRules.mpr ⟨item, hitem, (of_decide_eq_true hstep).1⟩
  · exact hresidual
  · exact hvelocity
  · exact hprimary

end Rules

/-! ## Identities -/

/-- The text of a payload in front of the end of its interval. -/
def eventTextStart : List Char :=
  '{' :: (Artifacts.quoted "detector_id" ++ ':' :: (Artifacts.quoted "trajectory-integrity-v1" ++
    ',' :: (Artifacts.quoted "detector_version" ++ ':' :: (Artifacts.quoted "1.0.0" ++
      ',' :: (Artifacts.quoted "end_time_ns" ++ [':'])))))

theorem jsonItems_strings (platform : Platform) (texts : List String) :
    Artifacts.jsonItems platform (texts.map JsonValue.string) = .ok (texts.map Artifacts.quoted) := by
  induction texts with
  | nil => rfl
  | cons text texts ih =>
    rw [List.map_cons, Artifacts.jsonItems, Artifacts.jsonText, ih]
    rfl

/-- The fields of a payload in the order of their names. -/
theorem insertionSort_fields (detector version source start finish primary rules : List Char) :
    ([("detector_id", detector), ("detector_version", version), ("source_sha256", source),
      ("start_time_ns", start), ("end_time_ns", finish), ("primary_rule", primary),
      ("triggered_rules", rules)] : List (String × List Char)).insertionSort
        (fun left right => left.1 ≤ right.1) =
    [("detector_id", detector), ("detector_version", version), ("end_time_ns", finish),
      ("primary_rule", primary), ("source_sha256", source), ("start_time_ns", start),
      ("triggered_rules", rules)] := by
  simp [List.insertionSort, List.orderedInsert]

/-- The text of a payload: its fields in the order of their names, the end of the interval
in front of what the rules say. -/
theorem jsonText_eventPayload (platform : Platform) (sourceSha256 : Sha256)
    (startTimeNs endTimeNs : Int) (primary : TrajectoryRule) (rules : List TrajectoryRule) :
    ∃ rest, jsonText platform (eventPayload sourceSha256 startTimeNs endTimeNs primary rules) =
      .ok (eventTextStart ++ ((toString endTimeNs).toList ++ ',' :: rest)) := by
  have hrules : Artifacts.jsonItems platform (rules.map fun rule => JsonValue.string rule.value) =
      .ok ((rules.map TrajectoryRule.value).map Artifacts.quoted) := by
    rw [← jsonItems_strings, List.map_map]
    rfl
  let rulesText : List Char := '[' ::
    (Artifacts.separated ((rules.map TrajectoryRule.value).map Artifacts.quoted) ++ [']'])
  have hentries : Artifacts.jsonEntries platform
      [("detector_id", .string "trajectory-integrity-v1"),
        ("detector_version", .string "1.0.0"), ("source_sha256", .string sourceSha256.text),
        ("start_time_ns", .integer startTimeNs), ("end_time_ns", .integer endTimeNs),
        ("primary_rule", .string primary.value),
        ("triggered_rules", .array (rules.map fun rule => .string rule.value))] =
      .ok [("detector_id", Artifacts.quoted "trajectory-integrity-v1"),
        ("detector_version", Artifacts.quoted "1.0.0"),
        ("source_sha256", Artifacts.quoted sourceSha256.text),
        ("start_time_ns", (toString startTimeNs).toList),
        ("end_time_ns", (toString endTimeNs).toList),
        ("primary_rule", Artifacts.quoted primary.value), ("triggered_rules", rulesText)] := by
    simp only [Artifacts.jsonEntries, jsonText, hrules, ok_bind]
    rfl
  refine ⟨Artifacts.separated ([("primary_rule", Artifacts.quoted primary.value),
    ("source_sha256", Artifacts.quoted sourceSha256.text),
    ("start_time_ns", (toString startTimeNs).toList), ("triggered_rules", rulesText)].map
      fun entry : String × List Char => Artifacts.quoted entry.1 ++ ':' :: entry.2) ++ ['}'], ?_⟩
  rw [eventPayload, jsonText, hentries, ok_bind]
  dsimp only
  rw [insertionSort_fields]
  simp only [eventTextStart, List.map_cons, List.map_nil, Artifacts.separated, List.append_assoc,
    List.cons_append, List.nil_append]
  rfl

section EventIds

variable {platform : Platform} {sourceSha256 : Sha256}

/-- The payload under which an event is named. -/
def TrajectoryIntegrityEvent.identity (sourceSha256 : Sha256) (event : TrajectoryIntegrityEvent) :
    JsonValue String :=
  eventPayload sourceSha256 event.startTimeNs event.endTimeNs event.primaryRule event.triggeredRules

theorem eventId_eq {payload : JsonValue String} {text : List Char}
    (h : jsonText platform payload = .ok text) : eventId platform payload =
      .ok ("trajectory-event-sha256-" ++
        (platform.sha256 (text.flatMap String.utf8EncodeChar)).text) := by
  unfold eventId
  rw [h]

/-- Events that end at different times have different identifiers. -/
theorem end_eq_of_eventId {events : List TrajectoryIntegrityEvent}
    (hapart : DigestsApart platform (events.map (TrajectoryIntegrityEvent.identity sourceSha256)))
    {left right : TrajectoryIntegrityEvent} (hleft : left ∈ events) (hright : right ∈ events)
    (hleftId : eventId platform (left.identity sourceSha256) = .ok left.eventId)
    (hrightId : eventId platform (right.identity sourceSha256) = .ok right.eventId)
    (h : left.eventId = right.eventId) : left.endTimeNs = right.endTimeNs := by
  obtain ⟨rest, hleftText⟩ := jsonText_eventPayload platform sourceSha256 left.startTimeNs
    left.endTimeNs left.primaryRule left.triggeredRules
  obtain ⟨rest', hrightText⟩ := jsonText_eventPayload platform sourceSha256 right.startTimeNs
    right.endTimeNs right.primaryRule right.triggeredRules
  have hleftName := Except.ok.inj (hleftId.symm.trans (eventId_eq hleftText))
  have hrightName := Except.ok.inj (hrightId.symm.trans (eventId_eq hrightText))
  rw [hleftName, hrightName, String.append_right_inj] at h
  have hdigest := Artifacts.Patterned.eq_of_text h
  have htexts := hapart _ (List.mem_map_of_mem hleft) _ (List.mem_map_of_mem hright) _ _
    hleftText hrightText hdigest
  exact (integer_append_inj (List.append_cancel_left htexts)).1

end EventIds

/-! ## Events -/

/-- The failures have what the validator of an event asks for. -/
structure Proper (failure : RawFailure) : Prop where
  times : failure.startTimeNs < failure.endTimeNs
  samples : failure.startIndex < failure.endIndexExclusive
  measured : failure.measurements ≠ []

/-- An event and the failures that it stands for. -/
structure Describes (profile : TrajectoryIntegrityProfile) (strideNs : Int) (group : List RawFailure)
    (event : TrajectoryIntegrityEvent) : Prop where
  rules : ∀ rule, rule ∈ event.triggeredRules ↔ ∃ item ∈ group, item.rule = rule
  rulesOnce : event.triggeredRules.Nodup
  rulesOrder : event.triggeredRules.Pairwise fun left right =>
    priority profile left ≤ priority profile right
  primary : event.triggeredRules.head? = some event.primaryRule
  severityMet : ∃ item ∈ group, item.severity = event.severity
  severityHighest : ∀ item ∈ group, item.severity.order ≤ event.severity.order
  start : ∃ item ∈ group, item.startTimeNs = event.startTimeNs
  finish : ∃ item ∈ group, item.endTimeNs = event.endTimeNs
  bounds : ∀ item ∈ group,
    item.rule = boundaryRule strideNs group event.triggeredRules event.primaryRule →
      event.startTimeNs ≤ item.startTimeNs ∧ item.endTimeNs ≤ event.endTimeNs ∧
        event.startSampleIndex ≤ item.startIndex ∧
          item.endIndexExclusive ≤ event.endSampleIndexExclusive
  measurementsMet : ∀ measurement ∈ event.measurements,
    ∃ item ∈ group, measurement ∈ item.measurements
  measurementsKept : ∀ item ∈ group, ∀ measurement ∈ item.measurements,
    ∃ kept ∈ event.measurements, kept.key = measurement.key
  forward : event.startTimeNs < event.endTimeNs
  valid : event.validateInterval = .ok event

theorem validateInterval_eq_ok {event : TrajectoryIntegrityEvent}
    (htimes : event.startTimeNs < event.endTimeNs)
    (hsamples : event.startSampleIndex < event.endSampleIndexExclusive)
    (hprimary : event.primaryRule ∈ event.triggeredRules) (hmeasured : event.measurements ≠ []) :
    event.validateInterval = .ok event := by
  unfold TrajectoryIntegrityEvent.validateInterval
  rw [raiseIf_bind (Nat.pos_iff_ne_zero.mp (Nat.zero_lt_of_lt hsamples)),
    raiseIf_bind (not_le.mpr htimes), raiseIf_bind (not_le.mpr hsamples), raiseIf_bind,
    raiseIf_bind hmeasured]
  · rfl
  · rw [not_or, not_not]
    exact ⟨List.ne_nil_of_mem hprimary, hprimary⟩

section Groups

variable {platform : Platform} {profile : TrajectoryIntegrityProfile} {sourceSha256 : Sha256}
  {strideNs : Int} {group : List RawFailure}

variable (platform profile sourceSha256 strideNs) in
theorem eventOf_describes (hgroup : group ≠ []) (hproper : ∀ item ∈ group, Proper item) :
    ∃ event, eventOf platform profile sourceSha256 strideNs group = .ok event ∧
      Describes profile strideNs group event ∧
      eventId platform (event.identity sourceSha256) = .ok event.eventId := by
  obtain ⟨rest, hrules⟩ : ∃ rest, groupRules profile group = _ :: rest :=
    groupRules_eq_cons hgroup
  generalize hprimary : (groupRules profile group).headD .timestampRegression = primary at hrules
  have hprimaryMem : primary ∈ groupRules profile group := by
    rw [hrules]
    exact List.mem_cons_self
  have hboundary := boundaryRule_mem strideNs hprimaryMem
  generalize hbounding : boundaryRule strideNs group (groupRules profile group) primary = boundary
    at hboundary
  obtain ⟨bounding, hboundingMem, hboundingRule⟩ := mem_groupRules.mp hboundary
  let items := group.filter fun item => item.rule = boundary
  have hitem : ∀ item, item ∈ items ↔ item ∈ group ∧ item.rule = boundary := by
    intro item
    rw [List.mem_filter, decide_eq_true_eq]
  have hnonempty : items ≠ [] :=
    List.ne_nil_of_mem ((hitem bounding).mpr ⟨hboundingMem, hboundingRule⟩)
  obtain ⟨start, hstart, ⟨first, hfirst, hfirstStart⟩, hstartLeast⟩ :=
    minimumOf_spec RawFailure.startTimeNs hnonempty
  obtain ⟨finish, hfinish, ⟨last, hlast, hlastEnd⟩, hfinishGreatest⟩ :=
    maximumOf_spec RawFailure.endTimeNs hnonempty
  obtain ⟨startIndex, hstartIndex, -, hstartIndexLeast⟩ :=
    minimumOf_spec RawFailure.startIndex hnonempty
  obtain ⟨endIndex, hendIndex, -, hendIndexGreatest⟩ :=
    maximumOf_spec RawFailure.endIndexExclusive hnonempty
  obtain ⟨severity, hseverity, hmet, hhighest⟩ := highestSeverity_spec hgroup
  obtain ⟨text, htext⟩ := jsonText_eventPayload platform sourceSha256 start finish primary
    (groupRules profile group)
  obtain ⟨hkept, hcovered⟩ :=
    deduplicateMeasurements_spec (group.flatMap RawFailure.measurements)
  -- the bounding failure lies within the interval, so the interval is not empty
  have hfirstProper := hproper first ((hitem first).mp hfirst).1
  have htimes : start < finish := by
    have hends := hfinishGreatest first hfirst
    have hforward := hfirstProper.times
    omega
  have hsamples : startIndex < endIndex := by
    have hbegins := hstartIndexLeast first hfirst
    have hends := hendIndexGreatest first hfirst
    have hforward := hfirstProper.samples
    omega
  have hmeasured : deduplicateMeasurements (group.flatMap RawFailure.measurements) ≠ [] := by
    obtain ⟨measurement, hmeasurement⟩ := List.exists_mem_of_ne_nil _ hfirstProper.measured
    obtain ⟨kept, hkeptMem, -⟩ := hcovered measurement
      (List.mem_flatMap.mpr ⟨first, ((hitem first).mp hfirst).1, hmeasurement⟩)
    exact List.ne_nil_of_mem hkeptMem
  unfold eventOf
  dsimp only
  rw [hprimary, hbounding, hstart, ok_bind, hfinish, ok_bind, hstartIndex, ok_bind, hendIndex,
    ok_bind, hseverity, ok_bind, eventId_eq htext, ok_bind]
  refine ⟨_, validateInterval_eq_ok htimes hsamples hprimaryMem hmeasured, ?_, eventId_eq htext⟩
  exact {
    rules := fun rule => mem_groupRules
    rulesOnce := nodup_groupRules
    rulesOrder := sortedBy_pairwise _ _
    primary := by rw [hrules]; rfl
    severityMet := hmet
    severityHighest := hhighest
    start := ⟨first, ((hitem first).mp hfirst).1, hfirstStart⟩
    finish := ⟨last, ((hitem last).mp hlast).1, hlastEnd⟩
    bounds := fun item hmem hrule => by
      rw [hbounding] at hrule
      have hbounds := (hitem item).mpr ⟨hmem, hrule⟩
      exact ⟨hstartLeast item hbounds, hfinishGreatest item hbounds, hstartIndexLeast item hbounds,
        hendIndexGreatest item hbounds⟩
    measurementsMet := fun measurement hmem => List.mem_flatMap.mp (hkept measurement hmem)
    measurementsKept := fun item hmem measurement hmeasurement =>
      hcovered measurement (List.mem_flatMap.mpr ⟨item, hmem, hmeasurement⟩)
    forward := htimes
    valid := validateInterval_eq_ok htimes hsamples hprimaryMem hmeasured }

/-- The failures in the order of the sweep have their starts in order. -/
theorem orderedFailures_pairwise (raw : List RawFailure) :
    (orderedFailures profile raw).Pairwise fun left right =>
      left.startTimeNs ≤ right.startTimeNs := by
  refine (sortedBy_pairwise _ raw).imp fun {left right} hle => ?_
  rcases Prod.Lex.le_iff.mp hle with hlt | ⟨heq, -⟩
  · exact hlt.le
  · exact heq.le

theorem adjacency_nonneg (profile : TrajectoryIntegrityProfile) (strideNs : Int) :
    0 ≤ adjacency profile strideNs :=
  (Int.natCast_nonneg _).trans (le_max_left _ _)

/-- The groups of the sweep. -/
def eventGroups (profile : TrajectoryIntegrityProfile) (raw : List RawFailure) (strideNs : Int) :
    List (List RawFailure) :=
  sweepGroups (adjacency profile strideNs) RawFailure.startTimeNs RawFailure.endTimeNs
    (orderedFailures profile raw)

section Sweep

variable {raw : List RawFailure} (hproper : ∀ failure ∈ raw, Proper failure)

include hproper

theorem eventGroups_grouped : Grouped (adjacency profile strideNs) RawFailure.startTimeNs
    RawFailure.endTimeNs (orderedFailures profile raw) (eventGroups profile raw strideNs) := by
  have hordered : (orderedFailures profile raw).Perm raw := sortedBy_perm _ _
  refine sweepGroups_grouped (adjacency_nonneg profile strideNs) ?_ (orderedFailures_pairwise raw)
  exact fun failure hfailure => (hproper failure (hordered.subset hfailure)).times.le

variable (platform profile sourceSha256 strideNs) in
/-- Within the budget every group has its event, and only the budget stops the sweep. -/
theorem consolidateEvents_cases :
    (profile.budgets.maximumEvents < (eventGroups profile raw strideNs).length ∧
        consolidateEvents platform profile raw sourceSha256 strideNs =
          .error (.valueError "trajectory event count exceeds the frozen budget")) ∨
      ((eventGroups profile raw strideNs).length ≤ profile.budgets.maximumEvents ∧
        ∃ events, consolidateEvents platform profile raw sourceSha256 strideNs = .ok events ∧
          List.Forall₂ (fun group event => Describes profile strideNs group event ∧
              eventId platform (event.identity sourceSha256) = .ok event.eventId)
            (eventGroups profile raw strideNs) events) := by
  have hordered : (orderedFailures profile raw).Perm raw := sortedBy_perm _ _
  have hgrouped : Grouped (adjacency profile strideNs) _ _ _ (eventGroups profile raw strideNs) :=
    eventGroups_grouped hproper
  obtain ⟨events, hevents, hdescribed⟩ := exists_mapM_forall₂ fun group hmem =>
    eventOf_describes platform profile sourceSha256 strideNs (hgrouped.nonempty group hmem)
      fun item hitem => hproper item (hordered.subset (hgrouped.mem hmem hitem))
  have hrun : consolidateEvents platform profile raw sourceSha256 strideNs =
      (raiseIf (profile.budgets.maximumEvents < (eventGroups profile raw strideNs).length)
        "trajectory event count exceeds the frozen budget" >>= fun _ =>
          (eventGroups profile raw strideNs).mapM
            (eventOf platform profile sourceSha256 strideNs)) := rfl
  rw [hrun]
  rcases lt_or_ge profile.budgets.maximumEvents (eventGroups profile raw strideNs).length
    with hexceeded | hwithin
  · rw [raiseIf, if_pos hexceeded]
    exact Or.inl ⟨hexceeded, rfl⟩
  · rw [raiseIf_bind (not_lt.mpr hwithin)]
    exact Or.inr ⟨hwithin, events, hevents, hdescribed⟩

end Sweep

/-- **Consolidation loses nothing.**  The failures fall into groups, one for each chain of
failures that are near each other; within the budget every group becomes one valid event
with the rules and the highest severity of its group, bounded by two of its failures, and
the events follow each other with more than the adjacency between them. -/
theorem events_consolidated (platform : Platform) (profile : TrajectoryIntegrityProfile)
    (raw : List RawFailure) (sourceSha256 : Sha256) (strideNs : Int)
    (hproper : ∀ failure ∈ raw, Proper failure) :
    ∃ groups : List (List RawFailure), groups.flatten.Perm raw ∧ (∀ group ∈ groups, group ≠ []) ∧
      (∀ (i j : Nat) (group other : List RawFailure), groups[i]? = some group →
        groups[j]? = some other → ∀ a ∈ group, ∀ b ∈ other, i = j ↔
          Chained (adjacency profile strideNs) RawFailure.startTimeNs RawFailure.endTimeNs raw a b) ∧
      (profile.budgets.maximumEvents < groups.length →
        consolidateEvents platform profile raw sourceSha256 strideNs =
          .error (.valueError "trajectory event count exceeds the frozen budget")) ∧
      (groups.length ≤ profile.budgets.maximumEvents →
        ∃ events, consolidateEvents platform profile raw sourceSha256 strideNs = .ok events ∧
          List.Forall₂ (Describes profile strideNs) groups events ∧
          events.Pairwise (fun left right =>
            left.endTimeNs + adjacency profile strideNs < right.startTimeNs) ∧
          (DigestsApart platform (events.map (TrajectoryIntegrityEvent.identity sourceSha256)) →
            (events.map TrajectoryIntegrityEvent.eventId).Nodup)) := by
  have hordered : (orderedFailures profile raw).Perm raw := sortedBy_perm _ _
  have hforward : ∀ failure ∈ orderedFailures profile raw,
      failure.startTimeNs ≤ failure.endTimeNs := fun failure hfailure =>
    (hproper failure (hordered.subset hfailure)).times.le
  have hgrouped : Grouped (adjacency profile strideNs) _ _ _ (eventGroups profile raw strideNs) :=
    eventGroups_grouped hproper
  have hcases := consolidateEvents_cases platform profile sourceSha256 strideNs hproper
  refine ⟨eventGroups profile raw strideNs, ?_, hgrouped.nonempty, ?_, ?_, ?_⟩
  · rw [hgrouped.flatten]
    exact hordered
  · intro i j group other hi hj a ha b hb
    rw [hgrouped.same_iff (adjacency_nonneg profile strideNs) hforward hi hj ha hb]
    exact ⟨fun h => h.mono hordered.subset, fun h => h.mono hordered.symm.subset⟩
  · intro hbudget
    rcases hcases with ⟨-, hexceeded⟩ | ⟨hwithin, -⟩
    · exact hexceeded
    · omega
  · intro hbudget
    rcases hcases with ⟨hexceeded, -⟩ | ⟨-, events, hevents, hdescribed⟩
    · omega
    have hseparated : events.Pairwise fun left right =>
        left.endTimeNs + adjacency profile strideNs < right.startTimeNs := by
      refine pairwise_of_forall₂ hdescribed hgrouped.apart
        fun group group' left right hleft hright hapart => ?_
      obtain ⟨last, hlast, hend⟩ := hleft.1.finish
      obtain ⟨first, hfirst, hstart⟩ := hright.1.start
      rw [← hend, ← hstart]
      exact hapart last hlast first hfirst
    refine ⟨events, hevents, hdescribed.imp fun _ _ h => h.1, hseparated, fun hdigests => ?_⟩
    rw [List.Nodup, List.pairwise_map]
    refine hseparated.imp_of_mem fun {left right} hleft hright hlt hsame => ?_
    obtain ⟨group, hgroup, hleftGroup⟩ := exists_left_of_mem hdescribed hleft
    obtain ⟨group', hgroup', hrightGroup⟩ := exists_left_of_mem hdescribed hright
    have hends := end_eq_of_eventId hdigests hleft hright hleftGroup.2 hrightGroup.2 hsame
    have hforwardRight := hrightGroup.1.forward
    have hnonneg := adjacency_nonneg profile strideNs
    omega

end Groups

/-! ## Two gaps -/

def sampleGap (startTimeNs : Int) : RawFailure where
  rule := .timestampGap
  startTimeNs := startTimeNs
  endTimeNs := startTimeNs + 1000000000
  startIndex := 0
  endIndexExclusive := 1
  measurements := [measurement profileV1 .timestampGap .maximumGapNs (.finite 1000000000)]
  severity := .critical

theorem events_consolidated_gaps : ∃ events,
    consolidateEvents Ingestion.samplePlatform profileV1 [sampleGap 0, sampleGap 9000000000]
      (Ingestion.samplePlatform.sha256 []) 50000000 = .ok events ∧
    events.Pairwise fun left right => left.endTimeNs + 500000000 < right.startTimeNs := by
  have hproper : ∀ failure ∈ [sampleGap 0, sampleGap 9000000000], Proper failure := by
    have hgap : ∀ startTimeNs, Proper (sampleGap startTimeNs) := fun startTimeNs =>
      ⟨Int.lt_add_of_pos_right startTimeNs (by omega), Nat.zero_lt_one, List.cons_ne_nil _ _⟩
    simp [hgap]
  obtain ⟨groups, hflatten, hnonempty, -, -, hwithin⟩ := events_consolidated
    Ingestion.samplePlatform profileV1 [sampleGap 0, sampleGap 9000000000]
    (Ingestion.samplePlatform.sha256 []) 50000000 hproper
  have hlength : groups.length ≤ 2 := by
    have hsum := List.length_le_sum_of_one_le (groups.map List.length)
      (List.forall_mem_map.mpr fun group hgroup =>
        List.length_pos_iff.mpr (hnonempty group hgroup))
    rw [List.length_map, ← List.length_flatten, hflatten.length_eq] at hsum
    exact hsum
  obtain ⟨events, hevents, -, hseparated, -⟩ := hwithin (hlength.trans (by decide))
  exact ⟨events, hevents, hseparated.imp fun {left right} h => h⟩

end CartoSentry.TrajectoryIntegrity
