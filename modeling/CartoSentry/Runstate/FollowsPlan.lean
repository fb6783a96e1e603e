import CartoSentry.Runstate.Plan

set_option autoImplicit false

/-!
# Run state: run roots that follow a plan

`FollowsPlan` ties the database, the published tree and the plan together: what is
complete has the planned key and rows, and whatever is published under a planned
key verifies with the planned artifacts.  Every effect of an engine keeps a root to
its plan, also one that forces a stage.
-/

namespace CartoSentry.Runstate

open CartoSentry.Foundation RunEngine

variable {Bytes : Type}

/-- An entry of a cache root that verifies with the planned artifacts, and whose
attempt the table knows. -/
def Faithful (platform : Platform Bytes) (engine : RunEngine Bytes) (database : RunDatabase)
    (definition : StageDefinition Bytes) (plan : StagePlan)
    (entry : AttemptId × CacheEntry Bytes) : Prop :=
  ∃ attempt, verifyCandidate platform engine.inputs.workflowId definition plan.key entry.1
      entry.2 = .ok attempt ∧
    attempt.manifest.artifacts = plan.artifacts ∧
    ∃ row ∈ database.attempt, row.attemptId = attempt.manifest.attemptId

/-- A complete stage that has carried out its plan. -/
structure Fulfilled (root : RunRoot Bytes) (definition : StageDefinition Bytes)
    (plan : StagePlan) : Prop where
  dependencies : ∀ upstream ∈ definition.dependencies, IsComplete root upstream
  cacheKey : (root.database.stage definition.stageId).cacheKey = some plan.key
  rows : RowsPlanned root.database definition.stageId plan
  published : (root.artifacts definition.stageId plan.key).entries ≠ []

/-- What is complete and what is published below the run root is as planned. -/
structure FollowsPlan (platform : Platform Bytes) (engine : RunEngine Bytes)
    (plan : StageId → StagePlan) (root : RunRoot Bytes) : Prop where
  opened : Opened engine root
  named : Named root
  state : ∀ stageId, (root.database.stage stageId).state ≠ .failedFinal
  idle : ∀ stageId, ¬ IsComplete root stageId → root.database.artifact stageId = []
  running : ∀ stageId attemptId, (root.database.stage stageId).state = .running →
    (root.database.stage stageId).attemptId = some attemptId →
    ∃ row ∈ root.database.attempt, row.attemptId = attemptId
  complete : ∀ definition ∈ engine.definitions, IsComplete root definition.stageId →
    Fulfilled root definition (plan definition.stageId)
  cacheRoot : ∀ stageId cacheKey, root.artifacts stageId cacheKey ≠ .notDirectory
  published : ∀ definition ∈ engine.definitions,
    ∀ entry ∈ (root.artifacts definition.stageId (plan definition.stageId).key).entries,
      Faithful platform engine root.database definition (plan definition.stageId) entry

section Select

variable {platform : Platform Bytes} {workflowId : String} {definition : StageDefinition Bytes}
  {cacheKey : Sha256} {tree : ArtifactTree Bytes}

theorem verifyCandidates_of_all {P : PublishedAttempt → Prop} :
    ∀ {entries : List (AttemptId × CacheEntry Bytes)},
      (∀ entry ∈ entries, ∃ attempt,
        verifyCandidate platform workflowId definition cacheKey entry.1 entry.2 = .ok attempt ∧
          P attempt) →
      ∃ attempts, verifyCandidates platform workflowId definition cacheKey entries =
        .ok attempts ∧ attempts.length = entries.length ∧ ∀ attempt ∈ attempts, P attempt := by
  intro entries
  induction entries with
  | nil => intro _; exact ⟨[], rfl, rfl, by simp⟩
  | cons entry rest ih =>
    intro h
    obtain ⟨attempt, hattempt, hP⟩ := h entry List.mem_cons_self
    obtain ⟨attempts, hattempts, hlength, hall⟩ :=
      ih (fun item hitem => h item (List.mem_cons_of_mem _ hitem))
    refine ⟨attempt :: attempts, ?_, by simp [hlength], fun item hitem => ?_⟩
    · obtain ⟨name, files⟩ := entry
      unfold verifyCandidates
      rw [hattempt]
      dsimp only
      rw [hattempts]
    · rcases List.mem_cons.mp hitem with rfl | hitem
      · exact hP
      · exact hall item hitem

/-- A cache root whose entries all verify with the same artifacts is read without
complaint, and yields one of them unless it is empty. -/
theorem selectPublished_of_all {artifacts : List ArtifactManifestEntry}
    (hroot : tree definition.stageId cacheKey ≠ .notDirectory)
    (h : ∀ entry ∈ (tree definition.stageId cacheKey).entries, ∃ attempt,
      verifyCandidate platform workflowId definition cacheKey entry.1 entry.2 = .ok attempt ∧
        attempt.manifest.artifacts = artifacts) :
    ∃ published, selectPublished platform workflowId definition cacheKey tree = .ok published ∧
      ((tree definition.stageId cacheKey).entries ≠ [] → published ≠ none) := by
  unfold selectPublished
  cases hentries : tree definition.stageId cacheKey with
  | missing => exact ⟨none, rfl, fun hne => absurd rfl hne⟩
  | notDirectory => exact absurd hentries hroot
  | directory entries =>
    rw [hentries] at h
    have hsorted : ∀ entry ∈ sortedEntries entries, ∃ attempt,
        verifyCandidate platform workflowId definition cacheKey entry.1 entry.2 = .ok attempt ∧
          attempt.manifest.artifacts = artifacts :=
      fun entry hmem => h entry ((List.mem_insertionSort _).mp hmem)
    obtain ⟨attempts, hattempts, hlength, hall⟩ := verifyCandidates_of_all hsorted
    dsimp only
    rw [hattempts]
    cases attempts with
    | nil =>
      refine ⟨none, rfl, fun hne => ?_⟩
      have hzero : entries.length = 0 := by
        rw [← List.length_insertionSort (r := fun left right => left.1.text ≤ right.1.text) entries]
        exact hlength.symm
      exact absurd (List.length_eq_zero_iff.mp hzero) hne
    | cons first rest =>
      have hsame : rest.any (fun attempt => fingerprint attempt != fingerprint first) = false := by
        rw [List.any_eq_false]
        intro attempt hmem
        unfold fingerprint
        rw [hall attempt (List.mem_cons_of_mem _ hmem), hall first List.mem_cons_self]
        simp
      exact ⟨some (newest first rest), by simp [hsame], fun _ => by simp⟩

end Select

section Step

variable {platform : Platform Bytes} {engine : RunEngine Bytes} {plan : StageId → StagePlan}
  {root next : RunRoot Bytes} {database : RunDatabase} {definition : StageDefinition Bytes}

theorem Opened.definition_eq (hopened : Opened engine root) {other : StageDefinition Bytes}
    (hmem : definition ∈ engine.definitions) (hother : other ∈ engine.definitions)
    (hid : definition.stageId = other.stageId) : definition = other := by
  have hnodup := hopened.valid.ordered.nodup
  rw [nodes_topologyOf] at hnodup
  exact List.inj_on_of_nodup_map hnodup hmem hother hid

/-- What a definition depends on is defined too. -/
theorem Opened.exists_definition (hopened : Opened engine root)
    (hmem : definition ∈ engine.definitions) {upstream : StageId}
    (hdep : upstream ∈ definition.dependencies) :
    ∃ other ∈ engine.definitions, other.stageId = upstream := by
  have hnode := hopened.valid.ordered.dependency_mem (mem_topologyOf hmem) hdep
  rw [nodes_topologyOf] at hnode
  exact List.mem_map.mp hnode

/-- Complete dependencies carry out their plan. -/
theorem FollowsPlan.upstream (h : FollowsPlan platform engine plan root)
    (hmem : definition ∈ engine.definitions)
    (hcomplete : ∀ upstream ∈ definition.dependencies, IsComplete root upstream) :
    ∀ upstream ∈ definition.dependencies, (root.database.stage upstream).state = .complete ∧
      RowsPlanned root.database upstream (plan upstream) := by
  intro upstream hdep
  obtain ⟨other, hother, rfl⟩ := h.opened.exists_definition hmem hdep
  exact ⟨hcomplete _ hdep, (h.complete other hother (hcomplete _ hdep)).rows⟩

/-- A stage that has a key has the planned one. -/
theorem FollowsPlan.hasKey (h : FollowsPlan platform engine plan root)
    (hplan : ∀ definition ∈ engine.definitions, Planned platform engine.inputs plan definition)
    (hmem : definition ∈ engine.definitions) {key : Sha256}
    (hkey : HasKey platform engine root definition key) :
    key = (plan definition.stageId).key := by
  have hupstream := h.upstream hmem (cacheKey_complete hkey)
  unfold HasKey at hkey
  rw [cacheKey_planned (hplan definition hmem) hupstream] at hkey
  exact (Except.ok.inj hkey).symm

/-- Whatever is published for a stage can be read, and adopted unless there is nothing. -/
theorem FollowsPlan.selection (h : FollowsPlan platform engine plan root)
    (hmem : definition ∈ engine.definitions) :
    ∃ published, Runstate.selection platform engine root definition
        (plan definition.stageId).key = .ok published ∧
      ((root.artifacts definition.stageId (plan definition.stageId).key).entries ≠ [] →
        published ≠ none) := by
  have hall : ∀ entry ∈
      (root.artifacts definition.stageId (plan definition.stageId).key).entries, ∃ attempt,
      verifyCandidate platform engine.inputs.workflowId definition
          (plan definition.stageId).key entry.1 entry.2 = .ok attempt ∧
        attempt.manifest.artifacts = (plan definition.stageId).artifacts := by
    intro entry hentry
    obtain ⟨attempt, hverify, hartifacts, _⟩ := h.published definition hmem entry hentry
    exact ⟨attempt, hverify, hartifacts⟩
  exact selectPublished_of_all (h.cacheRoot _ _) hall

/-- An attempt that can be adopted is one of the plan's. -/
theorem FollowsPlan.adoptable (h : FollowsPlan platform engine plan root)
    (hplan : ∀ definition ∈ engine.definitions, Planned platform engine.inputs plan definition)
    (hmem : definition ∈ engine.definitions) {key : Sha256} {attempt : PublishedAttempt}
    (hadoptable : Adoptable platform engine root definition key attempt) :
    attempt.manifest.stageId = definition.stageId ∧
      attempt.manifest.cacheKey = (plan definition.stageId).key ∧
      attempt.manifest.artifacts = (plan definition.stageId).artifacts ∧
      (root.artifacts definition.stageId (plan definition.stageId).key).entries ≠ [] ∧
      ∃ row ∈ root.database.attempt, row.attemptId = attempt.manifest.attemptId := by
  obtain rfl := h.hasKey hplan hmem hadoptable.hasKey
  obtain ⟨_, _, hverified⟩ := hadoptable.verified
  obtain ⟨entries, hselected⟩ := selectPublished_eq_some hadoptable.selected
  obtain ⟨entry, hentry, hverify⟩ := hselected.mem
  have hin : entry ∈
      (root.artifacts definition.stageId (plan definition.stageId).key).entries := by
    rw [hselected.root]
    exact hentry
  obtain ⟨found, hfound, hartifacts, hrow⟩ := h.published definition hmem entry hin
  obtain rfl : found = attempt := Except.ok.inj (hfound.symm.trans hverify)
  exact ⟨hverified.stage, hverified.key, hartifacts, List.ne_nil_of_mem hin, hrow⟩

/-- A transaction on the row of one stage, which it leaves incomplete or completes
as planned. -/
theorem FollowsPlan.commit_row (h : FollowsPlan platform engine plan root)
    (hmem : definition ∈ engine.definitions) {row : StageRow}
    (hinputs : database.inputs = root.database.inputs)
    (htopology : database.topology = root.database.topology)
    (hnamed : Named { root with database := database })
    (hstage : database.stage = Function.update root.database.stage definition.stageId row)
    (hartifact : ∀ other ≠ definition.stageId,
      database.artifact other = root.database.artifact other)
    (htable : ∀ before ∈ root.database.attempt, ∃ after ∈ database.attempt,
      after.attemptId = before.attemptId)
    (hstate : row.state ≠ .failedFinal)
    (hrunning : ∀ attemptId, row.state = .running → row.attemptId = some attemptId →
      ∃ after ∈ database.attempt, after.attemptId = attemptId)
    (hcase : (row.state ≠ .complete ∧ ¬ IsComplete root definition.stageId ∧
        database.artifact definition.stageId = []) ∨
      (row.state = .complete ∧ row.cacheKey = some (plan definition.stageId).key ∧
        (∀ upstream ∈ definition.dependencies, IsComplete root upstream) ∧
        RowsPlanned database definition.stageId (plan definition.stageId) ∧
        (root.artifacts definition.stageId (plan definition.stageId).key).entries ≠ [])) :
    FollowsPlan platform engine plan { root with database := database } := by
  have hself : database.stage definition.stageId = row := by
    rw [hstage, Function.update_self]
  have hother : ∀ other ≠ definition.stageId, database.stage other = root.database.stage other :=
    fun other hne => by rw [hstage, Function.update_of_ne hne]
  -- a complete stage stays complete
  have hkept : ∀ stageId, IsComplete root stageId → (database.stage stageId).state = .complete := by
    intro stageId hcomplete
    by_cases hsame : stageId = definition.stageId
    · subst hsame
      rw [hself]
      rcases hcase with ⟨_, hnot, _⟩ | ⟨hdone, _⟩
      · exact absurd hcomplete hnot
      · exact hdone
    · rw [hother stageId hsame]
      exact hcomplete
  have hattempts : ∀ {attemptId : AttemptId},
      (∃ before ∈ root.database.attempt, before.attemptId = attemptId) →
      ∃ after ∈ database.attempt, after.attemptId = attemptId := by
    rintro attemptId ⟨before, hbefore, rfl⟩
    exact htable before hbefore
  refine {
    opened := h.opened.keep hinputs htopology, named := hnamed, state := fun stageId => ?_,
    idle := fun stageId hincomplete => ?_,
    running := fun stageId attemptId hstate hname => ?_,
    complete := fun other hmemOther hcomplete => ?_, cacheRoot := h.cacheRoot,
    published := fun other hmemOther entry hentry => ?_ }
  · by_cases hsame : stageId = definition.stageId
    · subst hsame
      rw [hself]
      exact hstate
    · rw [hother stageId hsame]
      exact h.state stageId
  · by_cases hsame : stageId = definition.stageId
    · subst hsame
      rcases hcase with ⟨_, _, hnone⟩ | ⟨hdone, _⟩
      · exact hnone
      · exact absurd ((congrArg StageRow.state hself).trans hdone) hincomplete
    · unfold IsComplete at hincomplete
      rw [hother stageId hsame] at hincomplete
      rw [hartifact stageId hsame]
      exact h.idle stageId hincomplete
  · by_cases hsame : stageId = definition.stageId
    · subst hsame
      rw [hself] at hstate hname
      exact hrunning attemptId hstate hname
    · rw [hother stageId hsame] at hstate hname
      exact hattempts (h.running stageId attemptId hstate hname)
  · by_cases hsame : other.stageId = definition.stageId
    · obtain rfl := h.opened.definition_eq hmemOther hmem hsame
      rcases hcase with ⟨hnot, _⟩ | ⟨_, hkey, hclear, hrows, hentries⟩
      · exact absurd ((congrArg StageRow.state hself).symm.trans hcomplete) hnot
      · exact ⟨fun u hu => hkept u (hclear u hu), by rw [hself]; exact hkey, hrows, hentries⟩
    · unfold IsComplete at hcomplete
      rw [hother _ hsame] at hcomplete
      obtain ⟨hclear, hkey, ⟨directory, hrows⟩, hentries⟩ := h.complete other hmemOther hcomplete
      refine ⟨fun u hu => hkept u (hclear u hu), by rw [hother _ hsame]; exact hkey,
        ⟨directory, ?_⟩, hentries⟩
      rw [hartifact _ hsame]
      exact hrows
  · obtain ⟨attempt, hverify, hartifacts, hrow⟩ := h.published other hmemOther entry hentry
    exact ⟨attempt, hverify, hartifacts, hattempts hrow⟩

/-- A completion by an attempt of the plan. -/
theorem FollowsPlan.completed (h : FollowsPlan platform engine plan root)
    (hmem : definition ∈ engine.definitions) {manifest : AttemptManifest}
    {directory : PublishedDirectory}
    (hcompleted : RunDatabase.Completed root.database manifest directory database)
    (hnamed : Named { root with database := database })
    (hid : manifest.stageId = definition.stageId)
    (hkey : manifest.cacheKey = (plan definition.stageId).key)
    (hartifacts : manifest.artifacts = (plan definition.stageId).artifacts)
    (hclear : ∀ upstream ∈ definition.dependencies, IsComplete root upstream)
    (hentries : (root.artifacts definition.stageId (plan definition.stageId).key).entries ≠ []) :
    FollowsPlan platform engine plan { root with database := database } := by
  have hstage := hcompleted.stage
  have hartifact := hcompleted.artifact
  rw [hid] at hstage hartifact
  obtain ⟨sha, hupsert⟩ := hcompleted.attempt
  refine h.commit_row hmem hcompleted.inputs hcompleted.topology hnamed hstage ?_ ?_
    (by simp [RunDatabase.completedRow]) ?_
    (.inr ⟨rfl, congrArg some hkey, hclear, ⟨directory, ?_⟩, hentries⟩)
  · intro other hne
    rw [hartifact, Function.update_of_ne hne]
  · exact (upsertAttempt_names hupsert).2.2
  · intro _ hrunning
    exact absurd hrunning (by simp [RunDatabase.completedRow])
  · rw [hartifact, Function.update_self, hartifacts]

/-- Only the database, the published tree and the names count. -/
theorem FollowsPlan.same (h : FollowsPlan platform engine plan root) (hnamed : Named next)
    (hdatabase : next.database = root.database) (hartifacts : next.artifacts = root.artifacts) :
    FollowsPlan platform engine plan next := by
  obtain ⟨database, attempts, artifacts, completions, runArtifact⟩ := next
  dsimp only at hdatabase hartifacts
  subst hdatabase hartifacts
  refine ⟨h.opened.keep rfl rfl, hnamed, h.state, h.idle, h.running,
    fun definition hmem hcomplete => ?_, h.cacheRoot, h.published⟩
  obtain ⟨hclear, hkey, hrows, hentries⟩ := h.complete definition hmem hcomplete
  exact ⟨hclear, hkey, hrows, hentries⟩

/-- Replacing a cache root by one whose entries on a planned key are faithful. -/
theorem FollowsPlan.setTree (h : FollowsPlan platform engine plan root) {stageId : StageId} {key : Sha256}
    {entries : List (AttemptId × CacheEntry Bytes)}
    {attempts : List (AttemptId × AttemptFiles Bytes)}
    (hnamed : Named { root with
      attempts := attempts, artifacts := root.artifacts.set stageId key (.directory entries) })
    (hgrow : ∀ entry ∈ (root.artifacts stageId key).entries, entry ∈ entries)
    (hfaithful : ∀ definition ∈ engine.definitions, definition.stageId = stageId →
      (plan definition.stageId).key = key → ∀ entry ∈ entries,
        Faithful platform engine root.database definition (plan definition.stageId) entry) :
    FollowsPlan platform engine plan { root with
      attempts := attempts, artifacts := root.artifacts.set stageId key (.directory entries) } where
  opened := h.opened.keep rfl rfl
  named := hnamed
  state := h.state
  idle := h.idle
  running := h.running
  complete := by
    intro definition hmem hcomplete
    obtain ⟨hclear, hkey, hrows, hentries⟩ := h.complete definition hmem hcomplete
    refine ⟨hclear, hkey, hrows, ?_⟩
    obtain ⟨entry, hentry⟩ := List.exists_mem_of_ne_nil _ hentries
    refine List.ne_nil_of_mem (a := entry) ?_
    by_cases hsame : definition.stageId = stageId ∧ (plan definition.stageId).key = key
    · obtain ⟨rfl, rfl⟩ := hsame
      dsimp only
      rw [ArtifactTree.set_self]
      exact hgrow entry hentry
    · dsimp only
      rw [ArtifactTree.set_of_ne _ _ hsame]
      exact hentry
  cacheRoot := by
    intro other otherKey
    dsimp only
    by_cases hsame : other = stageId ∧ otherKey = key
    · obtain ⟨rfl, rfl⟩ := hsame
      rw [ArtifactTree.set_self]
      simp
    · rw [ArtifactTree.set_of_ne _ _ hsame]
      exact h.cacheRoot other otherKey
  published := by
    intro definition hmem entry hentry
    rcases ArtifactTree.mem_set hentry with ⟨hstage, hkey, hin⟩ | hin
    · exact hfaithful definition hmem hstage hkey entry hin
    · exact h.published definition hmem entry hin

/-- An invalidated scope that contains all that depends on it. -/
theorem FollowsPlan.invalidated (h : FollowsPlan platform engine plan root)
    (hnamed : Named { root with database := database }) {first : StageId} {force : Bool}
    (hinvalidated : RunDatabase.Invalidated root.database (closure root.database.topology first)
      force database) :
    FollowsPlan platform engine plan { root with database := database } := by
  have hin : ∀ stageId ∈ closure root.database.topology first,
      (database.stage stageId).state = .invalidated := by
    intro stageId hmem
    rw [hinvalidated.stage_of_mem stageId hmem]
    rfl
  refine {
    opened := h.opened.keep hinvalidated.inputs hinvalidated.topology, named := hnamed,
    state := fun stageId => ?_, idle := fun stageId hincomplete => ?_,
    running := fun stageId attemptId hstate hname => ?_,
    complete := fun definition hmem hcomplete => ?_, cacheRoot := h.cacheRoot,
    published := fun definition hmem entry hentry => ?_ }
  · by_cases hmem : stageId ∈ closure root.database.topology first
    · rw [hin stageId hmem]
      simp
    · rw [hinvalidated.stage_of_not_mem stageId hmem]
      exact h.state stageId
  · by_cases hmem : stageId ∈ closure root.database.topology first
    · exact hinvalidated.artifact_of_mem stageId hmem
    · unfold IsComplete at hincomplete
      rw [hinvalidated.stage_of_not_mem stageId hmem] at hincomplete
      rw [hinvalidated.artifact_of_not_mem stageId hmem]
      exact h.idle stageId hincomplete
  · by_cases hmem : stageId ∈ closure root.database.topology first
    · rw [hin stageId hmem] at hstate
      cases hstate
    · rw [hinvalidated.stage_of_not_mem stageId hmem] at hstate hname
      rw [hinvalidated.attempt]
      exact h.running stageId attemptId hstate hname
  · -- what it depends on is outside the scope too
    have hout : definition.stageId ∉ closure root.database.topology first := by
      intro hscope
      rw [IsComplete, hin _ hscope] at hcomplete
      cases hcomplete
    have hdependencies : ∀ upstream ∈ definition.dependencies,
        upstream ∉ closure root.database.topology first :=
      fun upstream hdep hscope => hout (closure_closed (definition.stageId, definition.dependencies)
        (h.opened.mem_topology hmem) upstream hdep hscope)
    rw [IsComplete, hinvalidated.stage_of_not_mem _ hout] at hcomplete
    obtain ⟨hclear, hkey, ⟨directory, hrows⟩, hentries⟩ := h.complete definition hmem hcomplete
    refine ⟨fun upstream hdep => ?_, ?_, ⟨directory, ?_⟩, hentries⟩
    · rw [IsComplete, hinvalidated.stage_of_not_mem _ (hdependencies upstream hdep)]
      exact hclear upstream hdep
    · rw [hinvalidated.stage_of_not_mem _ hout]
      exact hkey
    · rw [hinvalidated.artifact_of_not_mem _ hout]
      exact hrows
  · obtain ⟨attempt, hverify, hartifacts, hrow⟩ := h.published definition hmem entry hentry
    rw [← hinvalidated.attempt] at hrow
    exact ⟨attempt, hverify, hartifacts, hrow⟩

/-- A complete stage has its planned key and complete dependencies. -/
theorem FollowsPlan.not_stale (h : FollowsPlan platform engine plan root)
    (hplan : ∀ definition ∈ engine.definitions, Planned platform engine.inputs plan definition)
    (hmem : definition ∈ engine.definitions) : ¬ Stale platform engine root definition := by
  rintro ⟨hcomplete, hwrong⟩
  have hfulfilled := h.complete definition hmem hcomplete
  rcases hwrong with hupstream | ⟨key, hkey, hne⟩
  · rw [upstreamIncomplete_eq_false hfulfilled.dependencies] at hupstream
    cases hupstream
  · rw [h.hasKey hplan hmem hkey] at hne
    exact hne hfulfilled.cacheKey

/-- Every effect of an engine keeps the root to its plan. -/
theorem FollowsPlan.step (h : FollowsPlan platform engine plan root)
    (hplan : ∀ definition ∈ engine.definitions, Planned platform engine.inputs plan definition)
    (houtputs : ∀ definition ∈ engine.definitions,
      ValidOutputs platform engine.inputs definition)
    (hrequired : ∀ stageId, IsComplete root stageId →
      (root.database.stage stageId).requiredAttemptNumber = 0)
    {forceStage : Option StageId} {log : RunLog Bytes} {label : Label Bytes}
    (hstep : EngineStep platform engine forceStage log root label next) :
    FollowsPlan platform engine plan next := by
  have hnamed := h.named.step hstep
  cases hstep with
  | stale hmem _ hstale => exact absurd hstale (h.not_stale hplan hmem)
  | forced _ _ hcommit => exact h.invalidated hnamed (RunDatabase.invalidate_eq_ok hcommit)
  | @failedFinal definition key _ _ hmem hkey hselection =>
    -- what is published can be read, and what is complete is published
    obtain rfl := h.hasKey hplan hmem hkey
    obtain ⟨published, hpublished, hsome⟩ := h.selection hmem
    rcases hselection with ⟨e, he⟩ | ⟨hcomplete, hnone⟩
    · rw [hpublished] at he
      cases he
    · cases published with
      | none => exact absurd rfl (hsome (h.complete definition hmem hcomplete).published)
      | some attempt =>
        refine absurd ⟨hkey, hpublished, ?_⟩ (hnone attempt)
        rw [hrequired _ hcomplete]
        exact Nat.zero_le _
  | @failedRetryable definition code database hmem hrunning hcommit =>
    have hmarked := RunDatabase.markState_eq_ok hcommit
    have hincomplete : ¬ IsComplete root definition.stageId := by
      intro hcomplete
      rw [IsComplete, hrunning] at hcomplete
      cases hcomplete
    obtain rfl := hmarked.next_eq
    refine h.commit_row hmem rfl rfl hnamed rfl (fun _ _ => rfl) (fun row hrow => ⟨row, hrow, rfl⟩)
      (by simp) ?_ (.inl ⟨by simp, hincomplete, h.idle _ hincomplete⟩)
    intro _ hstate
    cases hstate
  | @adopted definition key attempt database hmem hadoptable _ hcommit =>
    obtain ⟨hid, hkey, hartifacts, hentries, _⟩ := h.adoptable hplan hmem hadoptable
    exact h.completed hmem (RunDatabase.recordComplete_eq_ok hcommit) hnamed hid hkey hartifacts
      (cacheKey_complete hadoptable.hasKey) hentries
  | @began definition key uuid attemptId attemptNumber database hmem hkey hcommit =>
    have hbegun := RunDatabase.beginAttempt_eq_ok hcommit
    have hincomplete : ¬ IsComplete root definition.stageId := by
      intro hcomplete
      have hbegins := hbegun.begins
      rw [IsComplete] at hcomplete
      rw [hcomplete] at hbegins
      cases hbegins
    obtain ⟨added, hattempt, hname, _⟩ := hbegun.attempt
    refine h.commit_row hmem hbegun.inputs hbegun.topology hnamed hbegun.stage
      (fun other _ => congrFun hbegun.artifact other) (fun row hrow => ⟨row, ?_, rfl⟩)
      (by simp [RunDatabase.begunRow]) ?_
      (.inl ⟨by simp [RunDatabase.begunRow], hincomplete, ?_⟩)
    · rw [hattempt]
      exact List.mem_append_left _ hrow
    · intro other _ hother
      obtain rfl := Option.some.inj hother
      exact ⟨added, by simp [hattempt], hname⟩
    · rw [hbegun.artifact]
      exact h.idle _ hincomplete
  | attemptChanged => exact h.same hnamed rfl rfl
  | cacheRootMade => exact h
  | cacheRootCreated hmissing =>
    refine h.setTree hnamed ?_ (fun _ _ _ _ entry hentry => by cases hentry)
    rw [hmissing]
    exact fun entry hentry => hentry
  | @published definition key attemptId files manifest entries hproduced hread hroot =>
    have hmem := hproduced.mem
    have hclear := cacheKey_complete hproduced.hasKey
    refine h.setTree hnamed ?_ (fun other hother hid hkey entry hentry => ?_)
    · rw [hroot]
      exact fun entry hentry => List.mem_append_left _ hentry
    · obtain rfl := h.opened.definition_eq hother hmem hid
      rcases List.mem_append.mp hentry with hentry | hentry
      · refine h.published other hother entry ?_
        rw [hkey, hroot]
        exact hentry
      · rw [List.mem_singleton.mp hentry]
        obtain ⟨attempt, hverify, hmanifest⟩ := hproduced.verified (houtputs other hother) hread
        have hartifacts := hproduced.planned (hplan other hother) hkey.symm
          (h.upstream hother hclear)
        obtain ⟨_, _, _, _, _, _, hbuilt, _⟩ := hproduced.produced
        refine ⟨attempt, hkey ▸ hverify, hmanifest ▸ hartifacts, ?_⟩
        rw [hmanifest, (attemptManifest_eq_ok hbuilt).2.2.1]
        exact h.running _ _ hproduced.running hproduced.name
  | @executed definition key attemptId files manifest entries sha database hproduced hroot hentry _
      _ hcommit =>
    have hmem := hproduced.mem
    have hclear := cacheKey_complete hproduced.hasKey
    have hkey := h.hasKey hplan hmem hproduced.hasKey
    have hartifacts := hproduced.planned (hplan definition hmem) hkey (h.upstream hmem hclear)
    obtain ⟨_, _, _, _, _, _, hbuilt, _⟩ := hproduced.produced
    obtain ⟨_, hid, _, _, hcacheKey, _⟩ := attemptManifest_eq_ok hbuilt
    refine h.completed hmem (RunDatabase.recordComplete_eq_ok hcommit) hnamed hid
      (hcacheKey.trans hkey) hartifacts hclear ?_
    rw [← hkey, hroot]
    exact List.ne_nil_of_mem hentry
  | pointerWritten => exact h.same hnamed rfl rfl
  | exported => exact h.same hnamed rfl rfl

end Step

/-! ## The exported run artifact of a root that follows a plan -/

/-- What `run.json` needs of a stage beyond its own checks: keys and media types
that a portable artifact may carry. -/
structure Exportable (inputs : RunInputs) (definition : StageDefinition Bytes) : Prop where
  stageId : isForbiddenPortableKey definition.stageId = false
  outputKeys : ∀ key ∈ definition.outputKeys, isForbiddenPortableKey key = false
  mediaTypes : ∀ cacheKey upstream payloads, executeValidated definition
    ⟨inputs, definition.stageId, cacheKey, upstream⟩ = .ok payloads →
    ∀ payload ∈ payloads, pathLeak payload.mediaType = false

section Portable

variable {platform : Platform Bytes} {engine : RunEngine Bytes} {plan : StageId → StagePlan}
  {root : RunRoot Bytes} {definition : StageDefinition Bytes}

theorem Planned.portable {inputs : RunInputs} (h : Planned platform inputs plan definition)
    (hexportable : Exportable inputs definition) :
    ∀ entry ∈ (plan definition.stageId).artifacts,
      isForbiddenPortableKey entry.artifactKey = false ∧ pathLeak entry.mediaType = false := by
  intro entry hentry
  obtain ⟨payloads, hpayloads, hdescribed⟩ := h.artifacts
  obtain ⟨payload, hmem, hok⟩ := exists_of_forall₂_right hdescribed hentry
  have hpayload : payload ∈ payloads := (perm_sortedPayloads payloads).mem_iff.mp hmem
  have hdescribes := manifestEntry_eq_ok hok
  have hkey : payload.artifactKey ∈ definition.outputKeys :=
    (executeValidated_eq_ok hpayloads).perm_keys.mem_iff.mp (List.mem_map_of_mem hpayload)
  rw [hdescribes.key, hdescribes.mediaType]
  exact ⟨hexportable.outputKeys _ hkey, hexportable.mediaTypes _ _ _ hpayloads payload hpayload⟩

/-- Every artifact row of such a root is one the plan lists. -/
theorem FollowsPlan.row_planned (h : FollowsPlan platform engine plan root)
    (hmem : definition ∈ engine.definitions) {row : ArtifactRow}
    (hrow : row ∈ root.database.artifact definition.stageId) :
    ∃ entry ∈ (plan definition.stageId).artifacts, row.artifactKey = entry.artifactKey ∧
      row.mediaType = entry.mediaType := by
  by_cases hcomplete : IsComplete root definition.stageId
  · obtain ⟨directory, hrows⟩ := (h.complete definition hmem hcomplete).rows
    rw [hrows] at hrow
    obtain ⟨entry, hentry, rfl⟩ := List.mem_map.mp hrow
    exact ⟨entry, hentry, rfl, rfl⟩
  · rw [h.idle _ hcomplete] at hrow
    cases hrow

theorem FollowsPlan.portable (h : FollowsPlan platform engine plan root)
    (hplan : ∀ definition ∈ engine.definitions, Planned platform engine.inputs plan definition)
    (hidentifier : ∀ definition ∈ engine.definitions, isIdentifier definition.stageId = true)
    (hexportable : ∀ definition ∈ engine.definitions, Exportable engine.inputs definition) :
    isPortableRun (runArtifactOf root.database) = true := by
  unfold isPortableRun
  rw [Bool.and_eq_true, List.all_eq_true, List.all_eq_true]
  refine ⟨fun stage hstage => ?_, fun reference hreference => ?_⟩
  · obtain ⟨stageId, hid, rfl⟩ := List.mem_map.mp hstage
    obtain ⟨definition, hmem, rfl⟩ := h.opened.definition_of_mem hid
    have hportable := (hplan definition hmem).portable (hexportable definition hmem)
    rw [Bool.and_eq_true, Bool.and_eq_true, Bool.not_eq_true', List.all_eq_true]
    refine ⟨⟨hidentifier definition hmem, (hexportable definition hmem).stageId⟩, ?_⟩
    intro output houtput
    obtain ⟨row, hrow, rfl⟩ := List.mem_map.mp houtput
    obtain ⟨entry, hentry, hkey, _⟩ :=
      h.row_planned hmem ((List.mem_insertionSort _).mp hrow)
    dsimp only
    rw [hkey, entry.artifactKey_identifier, (hportable entry hentry).1]
    rfl
  · obtain ⟨⟨stageId, row⟩, hlisted, rfl⟩ := List.mem_map.mp hreference
    obtain ⟨listed, hid, hrows⟩ := List.mem_flatMap.mp hlisted
    obtain ⟨found, hfound, heq⟩ := List.mem_map.mp hrows
    obtain ⟨rfl, rfl⟩ := Prod.mk.inj heq
    obtain ⟨definition, hmem, rfl⟩ :=
      h.opened.definition_of_mem ((List.mem_insertionSort _).mp hid)
    obtain ⟨entry, hentry, _, hmedia⟩ := h.row_planned hmem ((List.mem_insertionSort _).mp hfound)
    have hportable := (hplan definition hmem).portable (hexportable definition hmem)
    change (!pathLeak found.mediaType) = true
    rw [hmedia, (hportable entry hentry).2]
    rfl

end Portable

end CartoSentry.Runstate
