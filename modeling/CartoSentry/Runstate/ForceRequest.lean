import CartoSentry.Runstate.Refinement

set_option autoImplicit false

/-!
# Run state: forced stages and older attempts

A forced invalidation obliges every stage of its closure to complete again
through a new attempt.  `required_attempt_number` carries the obligation until
the stage is complete, and the new attempt beside the older ones carries it from
then on.  An unforced invalidation of the stage, which a stale upstream stage
causes, resets the number and with it the obligation.
-/

namespace CartoSentry.Runstate

open CartoSentry.Foundation RunEngine

variable {Bytes : Type}

/-- A complete stage has an incomplete upstream stage or another cache key by now. -/
def staleComplete (platform : Platform Bytes) (root : RunRoot Bytes)
    (definition : StageDefinition Bytes) : Bool :=
  (root.database.stage definition.stageId).state = .complete
    && (upstreamIncomplete root.database definition
      || (match cacheKey platform root.database root.database.inputs definition with
          | .error _ => false
          | .ok key => (root.database.stage definition.stageId).cacheKey ≠ some key))

/-- No visit finds a stale stage that has `stageId` in its closure. -/
def FreshVisits (platform : Platform Bytes) (stageId : StageId) (log : RunLog Bytes) : Prop :=
  ∀ effect ∈ log, ∀ definition, effect.label = .visited definition →
    stageId ∈ closure effect.before.database.topology definition.stageId →
    staleComplete platform effect.before definition = false

section Obligation

variable {platform : Platform Bytes} {engine : RunEngine Bytes} {stageId : StageId} {n : Nat}

/-- A published attempt of the stage under the key has a manifest with a number
above `n`. -/
def HasNewer (platform : Platform Bytes) (tree : ArtifactTree Bytes) (stageId : StageId)
    (key : Sha256) (n : Nat) : Prop :=
  ∃ name files content manifest, (name, CacheEntry.directory files) ∈ (tree stageId key).entries ∧
    files.lookup attemptManifestFile = some content ∧
    platform.manifests.parse content = some manifest ∧ n < manifest.attemptNumber

/-- The stage still owes an attempt above `n`, or has made one. -/
structure Obliged (platform : Platform Bytes) (stageId : StageId) (n : Nat)
    (database : RunDatabase) (tree : ArtifactTree Bytes) : Prop where
  counter : n ≤ (database.stage stageId).attemptCounter
  running : (database.stage stageId).state = .running → n < (database.stage stageId).attemptCounter
  owed : n < (database.stage stageId).requiredAttemptNumber ∨
    (database.stage stageId).state = .failedFinal ∨
    (database.stage stageId).state = .complete ∧ ∃ key,
      (database.stage stageId).cacheKey = some key ∧ HasNewer platform tree stageId key n

theorem Obliged.congr {database next : RunDatabase} {tree : ArtifactTree Bytes}
    (h : Obliged platform stageId n database tree)
    (hstage : next.stage stageId = database.stage stageId) :
    Obliged platform stageId n next tree := by
  obtain ⟨hcounter, hrunning, howed⟩ := h
  rw [← hstage] at hcounter hrunning howed
  exact ⟨hcounter, hrunning, howed⟩

/-- What is published stays published. -/
theorem Obliged.grow {database : RunDatabase} {tree next : ArtifactTree Bytes}
    (h : Obliged platform stageId n database tree)
    (hgrow : ∀ key, ∀ entry ∈ (tree stageId key).entries, entry ∈ (next stageId key).entries) :
    Obliged platform stageId n database next := by
  refine ⟨h.counter, h.running, ?_⟩
  rcases h.owed with howed | howed | ⟨hcomplete, key, hkey, name, files, content, manifest, hmem, h⟩
  · exact .inl howed
  · exact .inr (.inl howed)
  · exact .inr (.inr ⟨hcomplete, key, hkey, name, files, content, manifest, hgrow key _ hmem, h⟩)

/-- A stage that owes an attempt and is neither complete nor finally failed has it
in its row. -/
theorem Obliged.required {database : RunDatabase} {tree : ArtifactTree Bytes}
    (h : Obliged platform stageId n database tree)
    (hfinal : (database.stage stageId).state ≠ .failedFinal)
    (hcomplete : (database.stage stageId).state ≠ .complete) :
    n < (database.stage stageId).requiredAttemptNumber := by
  rcases h.owed with howed | howed | howed
  · exact howed
  · exact absurd howed hfinal
  · exact absurd howed.1 hcomplete

/-- The attempt that a visit selects is at least as new as every published one. -/
theorem HasNewer.lt_selected {tree : ArtifactTree Bytes} {definition : StageDefinition Bytes}
    {key : Sha256} {workflowId : String} {attempt : PublishedAttempt}
    (h : HasNewer platform tree definition.stageId key n)
    (hselected : selectPublished platform workflowId definition key tree = .ok (some attempt)) :
    n < attempt.manifest.attemptNumber := by
  obtain ⟨name, files, content, manifest, hmem, hread, hparse, hnewer⟩ := h
  obtain ⟨entries, hentries⟩ := selectPublished_eq_some hselected
  rw [hentries.root] at hmem
  obtain ⟨other, hverify, _, hle⟩ := hentries.all _ hmem
  obtain ⟨found, hfound, hverified⟩ := verifyCandidate_eq_ok hverify
  cases hfound
  obtain ⟨bytes, hbytes, hmanifest⟩ := hverified.manifest
  rw [hread] at hbytes
  obtain rfl := Option.some.inj hbytes
  rw [hparse] at hmanifest
  obtain rfl := Option.some.inj hmanifest
  exact Nat.lt_of_lt_of_le hnewer hle

/-- The attempt that a visit selects is published. -/
theorem hasNewer_of_selected {tree : ArtifactTree Bytes} {definition : StageDefinition Bytes}
    {key : Sha256} {workflowId : String} {attempt : PublishedAttempt}
    (hselected : selectPublished platform workflowId definition key tree = .ok (some attempt))
    (hnewer : n < attempt.manifest.attemptNumber) :
    HasNewer platform tree definition.stageId key n := by
  obtain ⟨entries, hentries⟩ := selectPublished_eq_some hselected
  obtain ⟨⟨name, entry⟩, hmem, hverify⟩ := hentries.mem
  obtain ⟨files, rfl, hverified⟩ := verifyCandidate_eq_ok hverify
  obtain ⟨bytes, hbytes, hmanifest⟩ := hverified.manifest
  refine ⟨name, files, bytes, attempt.manifest, ?_, hbytes, hmanifest, hnewer⟩
  rw [hentries.root]
  exact hmem

theorem entries_set (tree : ArtifactTree Bytes) {stage : StageId} {key : Sha256}
    {entries : List (AttemptId × CacheEntry Bytes)}
    (hgrow : ∀ entry ∈ (tree stage key).entries, entry ∈ entries) (other : StageId)
    (otherKey : Sha256) : ∀ entry ∈ (tree other otherKey).entries,
      entry ∈ ((tree.set stage key (.directory entries)) other otherKey).entries := by
  intro entry hmem
  by_cases hsame : other = stage ∧ otherKey = key
  · obtain ⟨rfl, rfl⟩ := hsame
    rw [ArtifactTree.set_self]
    exact hgrow entry hmem
  · rw [ArtifactTree.set_of_ne _ _ hsame]
    exact hmem

/-- A completion above `n` meets the obligation. -/
theorem obliged_of_completed {database next : RunDatabase} {tree : ArtifactTree Bytes}
    {manifest : AttemptManifest} {directory : PublishedDirectory}
    (hcounter : n ≤ (database.stage stageId).attemptCounter)
    (hcompleted : RunDatabase.Completed database manifest directory next)
    (hstage : manifest.stageId = stageId)
    (hnewer : HasNewer platform tree stageId manifest.cacheKey n) :
    Obliged platform stageId n next tree := by
  have hrow : next.stage stageId =
      RunDatabase.completedRow (database.stage stageId) manifest := by
    rw [hcompleted.stage, ← hstage, Function.update_self]
  refine ⟨?_, fun hrunning => ?_, ?_⟩
  · rw [hrow]
    exact Nat.le_trans hcounter (Nat.le_max_left _ _)
  · rw [hrow] at hrunning
    exact absurd hrunning (by simp [RunDatabase.completedRow])
  · rw [hrow]
    exact .inr (.inr ⟨rfl, _, rfl, hnewer⟩)

/-- One step of an engine keeps the obligation, and completes the stage only
through an attempt above `n`. -/
theorem Obliged.step {forceStage : Option StageId} {log : RunLog Bytes}
    {root next : RunRoot Bytes} {label : Label Bytes} (hopened : Opened engine root)
    (h : Obliged platform stageId n root.database root.artifacts)
    (hfresh : ∀ definition, log.getLast? = some ⟨root, .visited definition⟩ →
      stageId ∈ closure root.database.topology definition.stageId →
      staleComplete platform root definition = false)
    (hstep : EngineStep platform engine forceStage log root label next) :
    Obliged platform stageId n next.database next.artifacts ∧
      ∀ manifest directory, label = .completed manifest directory →
        manifest.stageId = stageId → n < manifest.attemptNumber := by
  cases hstep with
  | @stale definition _ hmem hvisit hstale hcommit =>
    refine ⟨h.congr ?_, fun _ _ hlabel => by cases hlabel⟩
    refine (RunDatabase.invalidate_eq_ok hcommit).stage_of_not_mem stageId (fun hdown => ?_)
    -- the visit just before found this stage stale
    have hclean := hfresh definition hvisit hdown
    unfold staleComplete at hclean
    obtain ⟨hcomplete, hupstream | ⟨key, hkey, hne⟩⟩ := hstale
    · unfold IsComplete at hcomplete
      rw [hcomplete, hupstream] at hclean
      simp at hclean
    · unfold IsComplete at hcomplete
      unfold HasKey at hkey
      rw [hcomplete, hopened.inputs, hkey] at hclean
      simp [hne] at hclean
  | @forced forced _ _ _ hcommit =>
    have hinvalidated := RunDatabase.invalidate_eq_ok hcommit
    refine ⟨?_, fun _ _ hlabel => by cases hlabel⟩
    by_cases hdown : stageId ∈ closure root.database.topology forced
    · have hrow := hinvalidated.stage_of_mem stageId hdown
      refine ⟨?_, fun hrunning => ?_, .inl ?_⟩
      · rw [hrow]; exact h.counter
      · rw [hrow] at hrunning
        exact absurd hrunning (by simp [RunDatabase.invalidatedRow])
      · rw [hrow]; exact Nat.lt_succ_of_le h.counter
    · exact h.congr (hinvalidated.stage_of_not_mem stageId hdown)
  | @failedFinal definition _ _ _ _ _ _ _ hcommit =>
    refine ⟨?_, fun _ _ hlabel => by cases hlabel⟩
    dsimp only
    rw [(RunDatabase.markState_eq_ok hcommit).next_eq]
    by_cases hsame : stageId = definition.stageId
    · subst hsame
      refine ⟨?_, fun hrunning => ?_, .inr (.inl ?_)⟩
      · simpa using h.counter
      · simp at hrunning
      · simp
    · exact h.congr (RunDatabase.setStage_stage_of_ne _ hsame)
  | @failedRetryable definition _ _ _ hrunning hcommit =>
    refine ⟨?_, fun _ _ hlabel => by cases hlabel⟩
    dsimp only
    rw [(RunDatabase.markState_eq_ok hcommit).next_eq]
    by_cases hsame : stageId = definition.stageId
    · subst hsame
      refine ⟨?_, fun h => ?_, .inl ?_⟩
      · simpa using h.counter
      · simp at h
      · have := h.required (by rw [hrunning]; simp) (by rw [hrunning]; simp)
        simpa using this
    · exact h.congr (RunDatabase.setStage_stage_of_ne _ hsame)
  | @adopted definition key attempt _ _ hadoptable hcomplete hcommit =>
    have hid := hadoptable.stageId
    have hcompleted := RunDatabase.recordComplete_eq_ok hcommit
    obtain ⟨_, _, hverified⟩ := hadoptable.verified
    by_cases hsame : definition.stageId = stageId
    · subst hsame
      have hnewer : n < attempt.manifest.attemptNumber := by
        rcases h.owed with howed | hfinal | ⟨hstate, key', hkey', hnewer⟩
        · exact Nat.lt_of_lt_of_le howed hadoptable.required
        · have hreconciles := hcompleted.reconciles
          rw [hid, hfinal] at hreconciles
          cases hreconciles
        · rw [hcomplete hstate] at hkey'
          obtain rfl := Option.some.inj hkey'
          exact hnewer.lt_selected hadoptable.selected
      refine ⟨obliged_of_completed h.counter hcompleted hid ?_, fun manifest directory hlabel _ => ?_⟩
      · rw [hverified.key]
        exact hasNewer_of_selected hadoptable.selected hnewer
      · cases hlabel
        exact hnewer
    · refine ⟨h.congr ?_, fun manifest directory hlabel hstage => ?_⟩
      · dsimp only
        rw [hcompleted.stage, hid, Function.update_of_ne (Ne.symm hsame)]
      · cases hlabel
        exact absurd (hid.symm.trans hstage) hsame
  | @began definition _ _ _ _ _ _ _ hcommit =>
    have hbegun := RunDatabase.beginAttempt_eq_ok hcommit
    refine ⟨?_, fun _ _ hlabel => by cases hlabel⟩
    by_cases hsame : stageId = definition.stageId
    · subst hsame
      have hrow := congrFun hbegun.stage definition.stageId
      rw [Function.update_self] at hrow
      have hbegins := hbegun.begins
      have howed := h.required (fun hs => by rw [hs] at hbegins; cases hbegins)
        (fun hs => by rw [hs] at hbegins; cases hbegins)
      refine ⟨?_, fun _ => ?_, .inl ?_⟩
      · rw [hrow]; exact Nat.le_succ_of_le h.counter
      · rw [hrow]; exact Nat.lt_succ_of_le h.counter
      · rw [hrow]; exact howed
    · refine h.congr ?_
      dsimp only
      rw [hbegun.stage, Function.update_of_ne hsame]
  | attemptChanged => exact ⟨h, fun _ _ hlabel => by cases hlabel⟩
  | cacheRootMade => exact ⟨h, fun _ _ hlabel => by cases hlabel⟩
  | @cacheRootCreated made key hmissing =>
    refine ⟨h.grow (fun otherKey => entries_set _ ?_ _ _), fun _ _ hlabel => by cases hlabel⟩
    rw [hmissing]
    exact fun entry hmem => hmem
  | published hproduced _ hroot =>
    refine ⟨h.grow (fun otherKey => entries_set _ ?_ _ _), fun _ _ hlabel => by cases hlabel⟩
    rw [hroot]
    exact fun entry hmem => List.mem_append_left _ hmem
  | @executed definition key attemptId files manifest entries _ _ hproduced hroot hentry hread
      hparse hcommit =>
    have hcompleted := RunDatabase.recordComplete_eq_ok hcommit
    obtain ⟨_, _, _, _, _, _, hmanifest, _⟩ := hproduced.produced
    obtain ⟨_, hid, _, hnumber, hkey, _⟩ := attemptManifest_eq_ok hmanifest
    by_cases hsame : definition.stageId = stageId
    · subst hsame
      have hnewer : n < manifest.attemptNumber := hnumber ▸ h.running hproduced.running
      refine ⟨obliged_of_completed h.counter hcompleted hid ?_, fun other directory hlabel _ => ?_⟩
      · rw [hkey]
        refine ⟨attemptId, files, _, manifest, ?_, hread, hparse, hnewer⟩
        dsimp only
        rw [hroot]
        exact hentry
      · cases hlabel
        exact hnewer
    · refine ⟨h.congr ?_, fun other directory hlabel hstage => ?_⟩
      · dsimp only
        rw [hcompleted.stage, hid, Function.update_of_ne (Ne.symm hsame)]
      · cases hlabel
        exact absurd (hid.symm.trans hstage) hsame
  | pointerWritten => exact ⟨h, fun _ _ hlabel => by cases hlabel⟩
  | exported => exact ⟨h, fun _ _ hlabel => by cases hlabel⟩

end Obligation

/-! ## The request over a history -/

section Request

variable {platform : Platform Bytes} {start before root : RunRoot Bytes}
  {earlier later : RunLog Bytes} {scope : List StageId} {stageId : StageId}

/-- The last effect since a forced invalidation, if it is a visit, came after it. -/
theorem mem_later_of_getLast? {definition : StageDefinition Bytes}
    (h : (earlier ++ ⟨before, .invalidated scope true⟩ :: later).getLast? =
      some ⟨root, .visited definition⟩) : ⟨root, .visited definition⟩ ∈ later := by
  rcases List.eq_nil_or_concat later with rfl | ⟨init, last, rfl⟩
  · rw [List.getLast?_append] at h
    simp at h
  · rw [List.concat_eq_append, ← List.cons_append, ← List.append_assoc,
      List.getLast?_concat] at h
    rw [Option.some.inj h, List.concat_eq_append]
    exact List.mem_append_right _ (List.mem_singleton.mpr rfl)

/-- While no later visit finds a stale stage upstream of it, a stage of a forced
closure becomes complete again only through an attempt whose number is above the
counter it had when the request was committed. -/
theorem force_request_kept
    (h : Reaches (Setting.unrestricted platform) start
      (earlier ++ ⟨before, .invalidated scope true⟩ :: later) root)
    (hquiet : ∀ effect ∈ later, effect.label ≠ .external) (hscope : stageId ∈ scope)
    (hfresh : FreshVisits platform stageId later) :
    ∀ effect ∈ later, ∀ manifest directory, effect.label = .completed manifest directory →
      manifest.stageId = stageId →
      (before.database.stage stageId).attemptCounter < manifest.attemptNumber := by
  have hsince := History.since (J := fun later root =>
    (∀ effect ∈ later, effect.label ≠ .external) → FreshVisits platform stageId later →
    Obliged platform stageId (before.database.stage stageId).attemptCounter root.database
      root.artifacts ∧
    ∀ effect ∈ later, ∀ manifest directory, effect.label = .completed manifest directory →
      manifest.stageId = stageId →
      (before.database.stage stageId).attemptCounter < manifest.attemptNumber) ?_ ?_ h.history.2
  · exact (hsince hquiet hfresh).2
  · intro next _ hstep _ _
    refine ⟨?_, fun effect hmem => by simp at hmem⟩
    dsimp only at hstep
    cases hstep with
    | engine _ _ hstep =>
      cases hstep with
      | forced _ _ hcommit =>
        have hrow := (RunDatabase.invalidate_eq_ok hcommit).stage_of_mem stageId hscope
        refine ⟨?_, fun hrunning => ?_, .inl ?_⟩
        · rw [hrow]; exact Nat.le_refl _
        · rw [hrow] at hrunning
          exact absurd hrunning (by simp [RunDatabase.invalidatedRow])
        · rw [hrow]; exact Nat.lt_succ_self _
  · intro later root label next _ ih hstep hquiet hfresh
    obtain ⟨hobliged, hnewer⟩ := ih
      (fun effect hmem => hquiet effect (List.mem_append_left _ hmem))
      (fun effect hmem => hfresh effect (List.mem_append_left _ hmem))
    cases hstep with
    | visited =>
      refine ⟨hobliged, fun effect hmem manifest directory hlabel => ?_⟩
      rcases List.mem_append.mp hmem with hmem | hmem
      · exact hnewer effect hmem manifest directory hlabel
      · rw [List.mem_singleton.mp hmem] at hlabel
        cases hlabel
    | external => exact absurd rfl (hquiet _ (List.mem_append_right _ (List.mem_singleton.mpr rfl)))
    | engine _ hopened hstep =>
      obtain ⟨hnext, hcompleted⟩ := hobliged.step hopened (fun definition hlast hdown =>
        hfresh _ (List.mem_append_left _ (mem_later_of_getLast? hlast)) definition rfl hdown) hstep
      refine ⟨hnext, fun effect hmem manifest directory hlabel => ?_⟩
      rcases List.mem_append.mp hmem with hmem | hmem
      · exact hnewer effect hmem manifest directory hlabel
      · rw [List.mem_singleton.mp hmem] at hlabel
        exact hcompleted manifest directory hlabel

end Request

/-! ## The small run -/

/-- The scope of a forced invalidation. -/
def forcedScope? : Label Bytes → Option (List StageId)
  | .invalidated scope true => some scope
  | _ => none

/-- The stage and the attempt number of a completion. -/
def completion? : Label Bytes → Option (StageId × Nat)
  | .completed manifest _ => some (manifest.stageId, manifest.attemptNumber)
  | _ => none

theorem label_of_forcedScope? {label : Label Bytes} {scope : List StageId}
    (h : forcedScope? label = some scope) : label = .invalidated scope true := by
  unfold forcedScope? at h
  split at h
  · rw [Option.some.inj h]
  · cases h

theorem label_of_completion? {label : Label Bytes} {stageId : StageId} {number : Nat}
    (h : completion? label = some (stageId, number)) : ∃ manifest directory,
      label = .completed manifest directory ∧ manifest.stageId = stageId ∧
        manifest.attemptNumber = number := by
  unfold completion? at h
  split at h
  · rename_i manifest directory
    obtain ⟨rfl, rfl⟩ := Prod.mk.inj (Option.some.inj h)
    exact ⟨manifest, directory, rfl, rfl, rfl⟩
  · cases h

/-- A log splits at a forced invalidation. -/
theorem split_at_forced (log : RunLog Bytes) (position : Nat) (scope : List StageId)
    (f : RunRoot Bytes → Nat) (n : Nat)
    (h : (log[position]?).bind (fun effect => (forcedScope? effect.label).map
      (fun scope => (scope, f effect.before))) = some (scope, n)) :
    ∃ before, log = log.take position ++ ⟨before, .invalidated scope true⟩ ::
      log.drop (position + 1) ∧ f before = n := by
  cases heffect : log[position]? with
  | none => rw [heffect] at h; cases h
  | some effect =>
    rw [heffect] at h
    obtain ⟨found, hfound, hpair⟩ := Option.map_eq_some_iff.mp h
    obtain ⟨rfl, rfl⟩ := Prod.mk.inj hpair
    obtain ⟨before, label⟩ := effect
    obtain rfl := label_of_forcedScope? hfound
    obtain ⟨hlength, hget⟩ := List.getElem?_eq_some_iff.mp heffect
    refine ⟨before, ?_, rfl⟩
    rw [← hget, List.getElem_cons_drop, List.take_append_drop]

/-- The small run, forced to repeat its report and stopped as it begins. -/
def smallForced : RunMachine SmallBytes :=
  smallAfter (smallCrash (smallDefinitions "1") (some "report") .afterDbRunning "report")
    smallComplete

/-- Resumed with the same definitions, the report completes through a new attempt. -/
def smallResumed : RunMachine SmallBytes :=
  smallAfter (smallLife (smallDefinitions "1") none) smallForced

/-- Resumed under another version, stopped, and resumed under the first again. -/
def smallDetoured : RunMachine SmallBytes :=
  smallAfter (smallLife (smallDefinitions "1") none)
    (smallAfter (smallCrash (smallDefinitions "2") none .afterDbCommitted "detect") smallForced)

theorem smallForced_reaches : SmallReaches smallForced :=
  smallAfter_reaches _ smallComplete_reaches

/-- Resumed with the same definitions, no visit finds a stale stage. -/
theorem force_request_kept_small :
    ∃ earlier before later, smallResumed.log =
        earlier ++ ⟨before, .invalidated ["report"] true⟩ :: later ∧
      (before.database.stage "report").attemptCounter = 1 ∧
      (∃ effect ∈ later, completion? effect.label = some ("report", 3)) ∧
      ∀ effect ∈ later, ∀ manifest directory, effect.label = .completed manifest directory →
        manifest.stageId = "report" → 1 < manifest.attemptNumber := by
  obtain ⟨before, hsplit, hcounter⟩ := split_at_forced smallResumed.log 27 ["report"]
    (fun root => (root.database.stage "report").attemptCounter) 1 (by decide +kernel)
  have hreaches : SmallReaches smallResumed := smallAfter_reaches _ smallForced_reaches
  have hquiet : ((smallResumed.log.drop 28).all (fun effect => match effect.label with
      | .external => false
      | _ => true)) = true := by decide +kernel
  have hclean : ((smallResumed.log.drop 28).all (fun effect => match effect.label with
      | .visited definition => !staleComplete smallPlatform effect.before definition
      | _ => true)) = true := by decide +kernel
  have hcompleted : ((smallResumed.log.drop 28).any (fun effect =>
      completion? effect.label = some ("report", 3))) = true := by decide +kernel
  refine ⟨_, before, _, hsplit, hcounter, ?_, ?_⟩
  · obtain ⟨effect, hmem, hlabel⟩ := List.any_eq_true.mp hcompleted
    exact ⟨effect, hmem, of_decide_eq_true hlabel⟩
  · unfold SmallReaches at hreaches
    rw [hsplit] at hreaches
    have hnone : ∀ effect ∈ smallResumed.log.drop 28, effect.label ≠ .external := by
      intro effect hmem hlabel
      have := List.all_eq_true.mp hquiet effect hmem
      rw [hlabel] at this
      cases this
    have hfresh : FreshVisits smallPlatform "report" (smallResumed.log.drop 28) := by
      intro effect hmem definition hlabel _
      have := List.all_eq_true.mp hclean effect hmem
      rw [hlabel] at this
      simpa using this
    have hkept := force_request_kept hreaches hnone (List.mem_singleton.mpr rfl) hfresh
    rw [hcounter] at hkept
    exact hkept

/-- Resumed under another version in between, the report completes through the
attempt that was there when the request was committed. -/
theorem force_request_lost :
    ∃ earlier before later, smallDetoured.log =
        earlier ++ ⟨before, .invalidated ["report"] true⟩ :: later ∧
      SmallReaches smallDetoured ∧ (∀ effect ∈ later, effect.label ≠ .external) ∧
      (before.database.stage "report").attemptCounter = 1 ∧
      ∃ effect ∈ later, ∃ manifest directory, effect.label = .completed manifest directory ∧
        manifest.stageId = "report" ∧ manifest.attemptNumber = 1 := by
  obtain ⟨before, hsplit, hcounter⟩ := split_at_forced smallDetoured.log 27 ["report"]
    (fun root => (root.database.stage "report").attemptCounter) 1 (by decide +kernel)
  have hreaches : SmallReaches smallDetoured :=
    smallAfter_reaches _ (smallAfter_reaches _ smallForced_reaches)
  have hquiet : ((smallDetoured.log.drop 28).all (fun effect => match effect.label with
      | .external => false
      | _ => true)) = true := by decide +kernel
  have hcompleted : ((smallDetoured.log.drop 28).any (fun effect =>
      completion? effect.label = some ("report", 1))) = true := by decide +kernel
  refine ⟨_, before, _, hsplit, hreaches, fun effect hmem hlabel => ?_, hcounter, ?_⟩
  · have := List.all_eq_true.mp hquiet effect hmem
    rw [hlabel] at this
    cases this
  · obtain ⟨effect, hmem, hlabel⟩ := List.any_eq_true.mp hcompleted
    exact ⟨effect, hmem, label_of_completion? (of_decide_eq_true hlabel)⟩

end CartoSentry.Runstate
