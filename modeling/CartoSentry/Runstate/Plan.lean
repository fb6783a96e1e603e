import CartoSentry.Runstate.AttemptNames

set_option autoImplicit false

/-!
# Run state: what a run is meant to produce

The inputs and the definitions determine a cache key and a list of artifacts for
every stage: the key follows from what is planned upstream, and the artifacts
from executing the stage on it.  A plan says nothing about attempts, processes or
crashes.  It is what the run root is compared with.
-/

namespace CartoSentry.Runstate

open CartoSentry.Foundation RunEngine

variable {Bytes : Type}

/-- The cache key and the artifacts planned for a stage. -/
structure StagePlan where
  key : Sha256
  artifacts : List ArtifactManifestEntry

/-- The hashes that `artifact_hashes` reads off the rows of these entries. -/
def entryHashes (entries : List ArtifactManifestEntry) : List (String × Sha256) :=
  (entries.insertionSort (fun left right => left.artifactKey ≤ right.artifactKey)).map
    (fun item => (item.artifactKey, item.sha256))

/-- The upstream hashes of a stage whose dependencies produced what is planned. -/
def plannedUpstream (plan : StageId → StagePlan) (dependencies : List StageId) :
    List (String × Sha256) :=
  dependencies.flatMap (fun upstream => (entryHashes (plan upstream).artifacts).map
    (fun item => (upstream ++ ":" ++ item.1, item.2)))

section Planned

variable (platform : Platform Bytes) (inputs : RunInputs)

/-- The plan of a stage follows from the plans of its dependencies. -/
structure Planned (plan : StageId → StagePlan) (definition : StageDefinition Bytes) : Prop where
  key : ∃ relevant, relevantConfiguration inputs definition.stageId
      definition.relevantConfigurationKeys = .ok relevant ∧
    (plan definition.stageId).key = buildStageCacheKey platform inputs.workflowId
      definition.stageId inputs.sourceHashes (plannedUpstream plan definition.dependencies)
      relevant definition.algorithmVersion inputs.numericalBackend
  artifacts : ∃ payloads, executeValidated definition ⟨inputs, definition.stageId,
      (plan definition.stageId).key, plannedUpstream plan definition.dependencies⟩ =
        .ok payloads ∧
    List.Forall₂ (fun payload entry => manifestEntry platform payload = .ok entry)
      (sortedPayloads payloads) (plan definition.stageId).artifacts

end Planned

section Facts

variable {platform : Platform Bytes} {inputs : RunInputs} {plan other : StageId → StagePlan}
  {definition : StageDefinition Bytes} {definitions : List (StageDefinition Bytes)}

theorem plannedUpstream_congr {dependencies : List StageId}
    (h : ∀ upstream ∈ dependencies, plan upstream = other upstream) :
    plannedUpstream plan dependencies = plannedUpstream other dependencies := by
  unfold plannedUpstream
  refine List.flatMap_congr (fun upstream hmem => ?_)
  rw [h upstream hmem]

theorem Planned.congr (h : Planned platform inputs plan definition)
    (hself : plan definition.stageId = other definition.stageId)
    (hupstream : ∀ upstream ∈ definition.dependencies, plan upstream = other upstream) :
    Planned platform inputs other definition := by
  obtain ⟨hkey, hartifacts⟩ := h
  rw [hself, plannedUpstream_congr hupstream] at hkey hartifacts
  exact ⟨hkey, hartifacts⟩

/-- Payloads that can be described one by one can be described together. -/
theorem exists_described {payloads : List (ArtifactPayload Bytes)}
    (h : ∀ payload ∈ payloads, ∃ entry, manifestEntry platform payload = .ok entry) :
    ∃ entries, List.Forall₂ (fun payload entry => manifestEntry platform payload = .ok entry)
      payloads entries := by
  induction payloads with
  | nil => exact ⟨[], .nil⟩
  | cons payload rest ih =>
    obtain ⟨entry, hentry⟩ := h payload List.mem_cons_self
    obtain ⟨entries, hentries⟩ := ih (fun item hitem => h item (List.mem_cons_of_mem _ hitem))
    exact ⟨entry :: entries, .cons hentry hentries⟩

theorem described_unique {payloads : List (ArtifactPayload Bytes)}
    {left right : List ArtifactManifestEntry}
    (hleft : List.Forall₂ (fun payload entry => manifestEntry platform payload = .ok entry)
      payloads left)
    (hright : List.Forall₂ (fun payload entry => manifestEntry platform payload = .ok entry)
      payloads right) : left = right := by
  induction hleft generalizing right with
  | nil => cases hright; rfl
  | cons hentry _ ih =>
    cases hright with
    | cons hother hrest =>
      rw [ih hrest, Except.ok.inj (hentry.symm.trans hother)]

/-- Every stage with its configuration and with valid outputs can be planned. -/
theorem exists_planned (hordered : OrderedAfter [] (topologyOf definitions))
    (hconfigured : ∀ definition ∈ definitions, ∃ relevant, relevantConfiguration inputs
      definition.stageId definition.relevantConfigurationKeys = .ok relevant)
    (houtputs : ∀ definition ∈ definitions, ValidOutputs platform inputs definition) :
    ∃ plan, ∀ definition ∈ definitions, Planned platform inputs plan definition := by
  have hsolution := OrderedAfter.exists_solution (R := Planned platform inputs)
    (fun f g definition hself hupstream h => h.congr hself hupstream) hordered ?_
    (fun _ => ⟨"", []⟩)
  · obtain ⟨plan, _, hplan⟩ := hsolution
    exact ⟨plan, hplan⟩
  · intro definition hmem hself plan
    obtain ⟨relevant, hrelevant⟩ := hconfigured definition hmem
    let key := buildStageCacheKey platform inputs.workflowId definition.stageId
      inputs.sourceHashes (plannedUpstream plan definition.dependencies) relevant
      definition.algorithmVersion inputs.numericalBackend
    obtain ⟨payloads, hpayloads, hwritable⟩ := (houtputs definition hmem).2 key
      (plannedUpstream plan definition.dependencies)
    have hdescribed : ∀ payload ∈ sortedPayloads payloads, ∃ entry,
        manifestEntry platform payload = .ok entry := fun payload hp =>
      hwritable.described payload ((perm_sortedPayloads payloads).mem_iff.mp hp)
    obtain ⟨entries, hentries⟩ := exists_described hdescribed
    have hupstream : ∀ entry, plannedUpstream
        (Function.update plan definition.stageId entry) definition.dependencies =
          plannedUpstream plan definition.dependencies := by
      intro entry
      refine plannedUpstream_congr (fun upstream hmem => ?_)
      have hne : upstream ≠ definition.stageId := fun heq => hself (heq ▸ hmem)
      exact Function.update_of_ne hne _ _
    refine ⟨⟨key, entries⟩, ⟨relevant, hrelevant, ?_⟩, payloads, ?_, ?_⟩
    · rw [hupstream, Function.update_self]
    · rw [hupstream, Function.update_self]
      exact hpayloads
    · rw [Function.update_self]
      exact hentries

/-! ## Rows that carry out the plan -/

/-- The artifact rows of a stage are those planned, in some published directory. -/
def RowsPlanned (database : RunDatabase) (stageId : StageId) (plan : StagePlan) : Prop :=
  ∃ directory, database.artifact stageId =
    plan.artifacts.map (RunDatabase.artifactRowOf directory)

theorem artifactHashes_planned {database : RunDatabase} {stageId : StageId} {plan : StagePlan}
    (h : RowsPlanned database stageId plan) :
    database.artifactHashes stageId = entryHashes plan.artifacts := by
  obtain ⟨directory, hrows⟩ := h
  unfold RunDatabase.artifactHashes RunDatabase.sortedArtifacts entryHashes
  rw [hrows, ← List.map_insertionSort (fun left right => left.artifactKey ≤ right.artifactKey) _
    (RunDatabase.artifactRowOf directory) _ (fun _ _ _ _ => Iff.rfl), List.map_map]
  rfl

theorem upstreamHashes_planned {database : RunDatabase} : ∀ {dependencies : List StageId},
    (∀ upstream ∈ dependencies, (database.stage upstream).state = .complete ∧
      RowsPlanned database upstream (plan upstream)) →
    upstreamHashes database dependencies = .ok (plannedUpstream plan dependencies) := by
  intro dependencies
  induction dependencies with
  | nil => intro _; rfl
  | cons first rest ih =>
    intro h
    obtain ⟨hcomplete, hrows⟩ := h first List.mem_cons_self
    have hrest := ih (fun u hu => h u (List.mem_cons_of_mem _ hu))
    unfold upstreamHashes
    rw [if_neg (by simp [hcomplete]), hrest, artifactHashes_planned hrows]
    rfl

/-- A stage whose dependencies carry out the plan has its planned key. -/
theorem cacheKey_planned {database : RunDatabase} (h : Planned platform inputs plan definition)
    (hupstream : ∀ upstream ∈ definition.dependencies,
      (database.stage upstream).state = .complete ∧ RowsPlanned database upstream (plan upstream)) :
    cacheKey platform database inputs definition = .ok (plan definition.stageId).key := by
  obtain ⟨relevant, hrelevant, hkey⟩ := h.key
  unfold cacheKey
  rw [hrelevant, upstreamHashes_planned hupstream, hkey]

/-- What an attempt produces on planned dependencies is what is planned. -/
theorem Produced.planned {engine : RunEngine Bytes} {root : RunRoot Bytes} {key : Sha256}
    {attemptId : AttemptId} {files : AttemptFiles Bytes} {manifest : AttemptManifest}
    (hproduced : Produced platform engine root definition key attemptId files manifest)
    (h : Planned platform engine.inputs plan definition)
    (hkey : key = (plan definition.stageId).key)
    (hupstream : ∀ upstream ∈ definition.dependencies,
      (root.database.stage upstream).state = .complete ∧
        RowsPlanned root.database upstream (plan upstream)) :
    manifest.artifacts = (plan definition.stageId).artifacts := by
  obtain ⟨upstream, payloads, entries, hhashes, hpayloads, hentries, hmanifest, _⟩ :=
    hproduced.produced
  obtain ⟨planned, hplanned, hartifacts⟩ := h.artifacts
  rw [upstreamHashes_planned hupstream] at hhashes
  obtain rfl := Except.ok.inj hhashes
  rw [hkey, hplanned] at hpayloads
  obtain rfl := Except.ok.inj hpayloads
  rw [(attemptManifest_eq_ok hmanifest).2.2.2.2.2]
  exact described_unique hentries hartifacts

/-- What an attempt produces is published in a directory that verifies. -/
theorem Produced.verified {engine : RunEngine Bytes} {root : RunRoot Bytes} {key : Sha256}
    {attemptId : AttemptId} {files : AttemptFiles Bytes} {manifest : AttemptManifest}
    (hproduced : Produced platform engine root definition key attemptId files manifest)
    (houtputs : ValidOutputs platform engine.inputs definition)
    (hread : files.lookup attemptManifestFile = some (platform.manifests.encode manifest)) :
    ∃ attempt, verifyCandidate platform engine.inputs.workflowId definition key attemptId
      (.directory files) = .ok attempt ∧ attempt.manifest = manifest := by
  obtain ⟨upstream, payloads, entries, _, hpayloads, hentries, hmanifest, rfl⟩ :=
    hproduced.produced
  obtain ⟨found, hfound, hwritable⟩ := houtputs.2 key upstream
  rw [hpayloads] at hfound
  obtain rfl := Except.ok.inj hfound
  obtain ⟨hworkflow, hstage, hname, _, hkey, rfl⟩ := attemptManifest_eq_ok hmanifest
  have hdelivered := executeValidated_eq_ok hpayloads
  have hpaths : ((sortedPayloads payloads).map ArtifactPayload.relativePath).Nodup := by
    rw [((perm_sortedPayloads payloads).map _).nodup_iff]
    exact hdelivered.paths
  have hverified := verifyAttemptDirectory_of_written ⟨definition.stageId, key, attemptId⟩
    hentries hpaths hread hname.symm (hwritable.small manifest hentries)
  have hkeys : manifest.artifacts.map ArtifactManifestEntry.artifactKey =
      sortedOutputKeys definition := by
    rw [map_eq_of_described ArtifactManifestEntry.artifactKey ArtifactPayload.artifactKey
      (fun _ _ h => h.key) hentries, ← hdelivered.keys]
    unfold sortedPayloads
    exact List.map_insertionSort (fun left right => left.artifactKey ≤ right.artifactKey) _
      ArtifactPayload.artifactKey payloads (fun _ _ _ _ => Iff.rfl)
  exact ⟨_, verifyCandidate_of_verified hverified hworkflow hstage hkey hkeys, rfl⟩

end Facts

end CartoSentry.Runstate
