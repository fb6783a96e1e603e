import CartoSentry.Runstate.Refinement

set_option autoImplicit false

/-!
# Run state: the names of attempts

In a root that only engines change, every attempt of a stage was issued by
`begin_attempt` under a number the stage has counted.  So the next number is new
everywhere at once: in the attempt table, among the attempt directories and in
every cache root of the stage.
-/

namespace CartoSentry.Runstate

open CartoSentry.Foundation RunEngine

variable {Bytes : Type}

/-- The stage issued the name under a number it has counted. -/
def IssuedBy (database : RunDatabase) (stageId : StageId) (attemptId : AttemptId) : Prop :=
  ∃ number uuid, attemptId = .issued stageId number uuid ∧
    number ≤ (database.stage stageId).attemptCounter

/-- Every name below a run root was issued by its stage. -/
structure Named (root : RunRoot Bytes) : Prop where
  row : ∀ stageId attemptId, (root.database.stage stageId).attemptId = some attemptId →
    IssuedBy root.database stageId attemptId
  table : ∀ row ∈ root.database.attempt, IssuedBy root.database row.stageId row.attemptId
  attempts : ∀ entry ∈ root.attempts, ∃ stageId, IssuedBy root.database stageId entry.1
  tree : ∀ stageId cacheKey, ∀ entry ∈ (root.artifacts stageId cacheKey).entries,
    IssuedBy root.database stageId entry.1

section Names

variable {root next : RunRoot Bytes} {database : RunDatabase}

theorem IssuedBy.mono {other : RunDatabase} {stageId : StageId} {attemptId : AttemptId}
    (h : IssuedBy database stageId attemptId)
    (hcounter : (database.stage stageId).attemptCounter ≤ (other.stage stageId).attemptCounter) :
    IssuedBy other stageId attemptId := by
  obtain ⟨number, uuid, hname, hle⟩ := h
  exact ⟨number, uuid, hname, Nat.le_trans hle hcounter⟩

theorem Named.created (inputs : RunInputs) (definitions : List (StageDefinition Bytes)) :
    Named (RunRoot.create inputs definitions) where
  row := by
    intro stageId attemptId h
    simp [RunRoot.create, RunDatabase.created, StageRow.initial] at h
  table := by intro row h; simp [RunRoot.create, RunDatabase.created] at h
  attempts := by intro entry h; simp [RunRoot.create] at h
  tree := by intro stageId cacheKey entry h; simp [RunRoot.create, CacheRoot.entries] at h

/-- A new database over the same files keeps the names when it issues what it adds. -/
theorem Named.commit (h : Named root)
    (hcounter : ∀ stageId, (root.database.stage stageId).attemptCounter ≤
      (database.stage stageId).attemptCounter)
    (hrow : ∀ stageId attemptId, (database.stage stageId).attemptId = some attemptId →
      (root.database.stage stageId).attemptId = some attemptId ∨
        IssuedBy database stageId attemptId)
    (htable : ∀ row ∈ database.attempt, (∃ before ∈ root.database.attempt,
      before.stageId = row.stageId ∧ before.attemptId = row.attemptId) ∨
        IssuedBy database row.stageId row.attemptId) :
    Named { root with database := database } where
  row := by
    intro stageId attemptId hname
    rcases hrow stageId attemptId hname with hsame | hissued
    · exact (h.row stageId attemptId hsame).mono (hcounter stageId)
    · exact hissued
  table := by
    intro row hmem
    rcases htable row hmem with ⟨before, hbefore, hstage, hname⟩ | hissued
    · rw [← hstage, ← hname]
      exact (h.table before hbefore).mono (hcounter _)
    · exact hissued
  attempts := by
    intro entry hmem
    obtain ⟨stageId, hissued⟩ := h.attempts entry hmem
    exact ⟨stageId, hissued.mono (hcounter stageId)⟩
  tree := fun stageId cacheKey entry hmem =>
    (h.tree stageId cacheKey entry hmem).mono (hcounter stageId)

/-- Rows that lose their name or keep it add none. -/
theorem Named.commit_rows (h : Named root)
    (hcounter : ∀ stageId, (root.database.stage stageId).attemptCounter ≤
      (database.stage stageId).attemptCounter)
    (hrow : ∀ stageId, (database.stage stageId).attemptId = none ∨
      (database.stage stageId).attemptId = (root.database.stage stageId).attemptId)
    (htable : database.attempt = root.database.attempt) :
    Named { root with database := database } := by
  refine h.commit hcounter (fun stageId attemptId hname => ?_) (fun row hmem => ?_)
  · rcases hrow stageId with hnone | hsame
    · rw [hnone] at hname
      cases hname
    · exact .inl (hsame ▸ hname)
  · exact .inl ⟨row, htable ▸ hmem, rfl, rfl⟩

theorem Named.marked {stageId : StageId} {state : StageState} {code : Option String}
    (h : Named root) (hmarked : RunDatabase.Marked root.database stageId state code database) :
    Named { root with database := database } := by
  refine h.commit_rows (fun other => ?_) (fun other => .inr (hmarked.kept other).2) ?_
  · rw [(hmarked.kept other).1]
  · rw [hmarked.next_eq]
    rfl

/-- The names that an `upsert` leaves in the attempt table. -/
theorem upsertAttempt_names {manifest : AttemptManifest} {sha : Sha256} {attempt : List AttemptRow}
    (h : database.upsertAttempt manifest sha = .ok attempt) :
    (∀ row ∈ attempt, (∃ before ∈ database.attempt, before.stageId = row.stageId ∧
        before.attemptId = row.attemptId) ∨
      (row.stageId = manifest.stageId ∧ row.attemptId = manifest.attemptId)) ∧
    (∃ row ∈ attempt, row.attemptId = manifest.attemptId) ∧
    ∀ before ∈ database.attempt, ∃ row ∈ attempt, row.attemptId = before.attemptId := by
  unfold RunDatabase.upsertAttempt at h
  split at h
  · rename_i hknown
    obtain rfl := Except.ok.inj h
    have hkept : ∀ before : AttemptRow, (if before.attemptId = manifest.attemptId then
        { before with complete := true, manifestSha256 := some sha } else before).attemptId =
          before.attemptId := by
      intro before
      split
      · rfl
      · rfl
    refine ⟨fun row hrow => ?_, ?_, fun before hbefore => ?_⟩
    · obtain ⟨before, hbefore, rfl⟩ := List.mem_map.mp hrow
      refine .inl ⟨before, hbefore, ?_, (hkept before).symm⟩
      split
      · rfl
      · rfl
    · obtain ⟨before, hbefore, hname⟩ := List.any_eq_true.mp hknown
      refine ⟨_, List.mem_map_of_mem hbefore, ?_⟩
      rw [hkept]
      simpa using hname
    · exact ⟨_, List.mem_map_of_mem hbefore, hkept before⟩
  · dsimp only at h
    split at h
    · obtain rfl := Except.ok.inj h
      refine ⟨fun row hrow => ?_, ⟨_, List.mem_append_right _ (List.mem_singleton.mpr rfl), rfl⟩,
        fun before hbefore => ⟨before, List.mem_append_left _ hbefore, rfl⟩⟩
      rcases List.mem_append.mp hrow with hrow | hrow
      · exact .inl ⟨row, hrow, rfl, rfl⟩
      · rw [List.mem_singleton.mp hrow]
        exact .inr ⟨rfl, rfl⟩
    · exact absurd h (by simp)

/-- A completion of an attempt that its stage had issued. -/
theorem Named.completed {manifest : AttemptManifest} {directory : PublishedDirectory}
    (h : Named root) (hcompleted : RunDatabase.Completed root.database manifest directory database)
    (hissued : IssuedBy root.database manifest.stageId manifest.attemptId) :
    Named { root with database := database } := by
  have hcounter : ∀ stageId, (root.database.stage stageId).attemptCounter ≤
      (database.stage stageId).attemptCounter := by
    intro stageId
    rw [hcompleted.stage]
    by_cases hsame : stageId = manifest.stageId
    · subst hsame
      rw [Function.update_self]
      exact Nat.le_max_left _ _
    · rw [Function.update_of_ne hsame]
  have hmanifest := hissued.mono (hcounter manifest.stageId)
  obtain ⟨sha, hupsert⟩ := hcompleted.attempt
  refine h.commit hcounter (fun stageId attemptId hname => ?_) (fun row hrow => ?_)
  · rw [hcompleted.stage] at hname
    by_cases hsame : stageId = manifest.stageId
    · subst hsame
      rw [Function.update_self] at hname
      obtain rfl := Option.some.inj hname
      exact .inr hmanifest
    · rw [Function.update_of_ne hsame] at hname
      exact .inl hname
  · rcases (upsertAttempt_names hupsert).1 row hrow with hbefore | ⟨hstage, hname⟩
    · exact .inl hbefore
    · rw [hstage, hname]
      exact .inr hmanifest

/-- A name in the published tree is the name its manifest gives. -/
theorem Named.adoptable {platform : Platform Bytes} {engine : RunEngine Bytes} (h : Named root)
    {definition : StageDefinition Bytes} {key : Sha256} {attempt : PublishedAttempt}
    (hadoptable : Adoptable platform engine root definition key attempt) :
    IssuedBy root.database attempt.manifest.stageId attempt.manifest.attemptId := by
  obtain ⟨entries, hselected⟩ := selectPublished_eq_some hadoptable.selected
  obtain ⟨⟨name, entry⟩, hmem, hverify⟩ := hselected.mem
  obtain ⟨_, _, hverified⟩ := verifyCandidate_eq_ok hverify
  rw [hverified.name, hverified.stage]
  refine h.tree definition.stageId key (name, entry) ?_
  rw [hselected.root]
  exact hmem

/-- Every effect of an engine keeps the names issued. -/
theorem Named.step {platform : Platform Bytes} {engine : RunEngine Bytes}
    {forceStage : Option StageId} {log : RunLog Bytes} {label : Label Bytes} (h : Named root)
    (hstep : EngineStep platform engine forceStage log root label next) : Named next := by
  have hinvalidated : ∀ {scope : List StageId} {force : Bool} {database : RunDatabase},
      root.database.invalidate force scope = .ok database →
      Named { root with database := database } := by
    intro scope force database hcommit
    have hinvalidated := RunDatabase.invalidate_eq_ok hcommit
    refine h.commit_rows (fun stageId => ?_) (fun stageId => ?_) hinvalidated.attempt
    · by_cases hmem : stageId ∈ scope
      · rw [hinvalidated.stage_of_mem stageId hmem]
        exact Nat.le_refl _
      · rw [hinvalidated.stage_of_not_mem stageId hmem]
    · by_cases hmem : stageId ∈ scope
      · rw [hinvalidated.stage_of_mem stageId hmem]
        exact .inl rfl
      · rw [hinvalidated.stage_of_not_mem stageId hmem]
        exact .inr rfl
  cases hstep with
  | stale _ _ _ hcommit => exact hinvalidated hcommit
  | forced _ _ hcommit => exact hinvalidated hcommit
  | failedFinal _ _ _ _ hcommit => exact h.marked (RunDatabase.markState_eq_ok hcommit)
  | failedRetryable _ _ hcommit => exact h.marked (RunDatabase.markState_eq_ok hcommit)
  | adopted _ hadoptable _ hcommit =>
    exact h.completed (RunDatabase.recordComplete_eq_ok hcommit) (h.adoptable hadoptable)
  | @began definition key uuid attemptId attemptNumber database _ _ hcommit =>
    have hbegun := RunDatabase.beginAttempt_eq_ok hcommit
    have hself : database.stage definition.stageId =
        RunDatabase.begunRow (root.database.stage definition.stageId) attemptId key := by
      rw [hbegun.stage, Function.update_self]
    have hissued : IssuedBy database definition.stageId attemptId := by
      refine ⟨attemptNumber, uuid, hbegun.name, ?_⟩
      rw [hself, hbegun.number]
      exact Nat.le_refl _
    refine h.commit (fun stageId => ?_) (fun stageId name hname => ?_) (fun row hrow => ?_)
    · by_cases hsame : stageId = definition.stageId
      · subst hsame
        rw [hself]
        exact Nat.le_succ _
      · rw [hbegun.stage, Function.update_of_ne hsame]
    · by_cases hsame : stageId = definition.stageId
      · subst hsame
        rw [hself] at hname
        obtain rfl := Option.some.inj hname
        exact .inr hissued
      · rw [hbegun.stage, Function.update_of_ne hsame] at hname
        exact .inl hname
    · obtain ⟨added, hattempt, hname, hstage, _⟩ := hbegun.attempt
      rw [hattempt] at hrow
      rcases List.mem_append.mp hrow with hrow | hrow
      · exact .inl ⟨row, hrow, rfl, rfl⟩
      · rw [List.mem_singleton.mp hrow, hstage, hname]
        exact .inr hissued
  | @attemptChanged stageId attemptId files hname =>
    refine ⟨h.row, h.table, fun entry hmem => ?_, h.tree⟩
    rcases List.mem_cons.mp hmem with rfl | hmem
    · exact ⟨stageId, h.row stageId attemptId hname⟩
    · exact h.attempts entry (List.mem_filter.mp hmem).1
  | cacheRootMade => exact h
  | @cacheRootCreated stageId key hmissing =>
    refine ⟨h.row, h.table, h.attempts, fun other otherKey entry hmem => ?_⟩
    rcases ArtifactTree.mem_set hmem with ⟨_, _, hnone⟩ | hin
    · cases hnone
    · exact h.tree other otherKey entry hin
  | @published definition key attemptId files manifest entries hproduced _ hroot =>
    refine ⟨h.row, h.table, fun entry hmem => h.attempts entry (List.mem_filter.mp hmem).1,
      fun other otherKey entry hmem => ?_⟩
    rcases ArtifactTree.mem_set hmem with ⟨rfl, rfl, hin⟩ | hin
    · rcases List.mem_append.mp hin with hold | hnew
      · refine h.tree definition.stageId otherKey entry ?_
        rw [hroot]
        exact hold
      · rw [List.mem_singleton.mp hnew]
        exact h.row definition.stageId attemptId hproduced.name
    · exact h.tree other otherKey entry hin
  | executed hproduced _ _ _ _ hcommit =>
    obtain ⟨_, _, _, _, _, _, hmanifest, _⟩ := hproduced.produced
    obtain ⟨_, hstage, hname, _⟩ := attemptManifest_eq_ok hmanifest
    refine h.completed (RunDatabase.recordComplete_eq_ok hcommit) ?_
    rw [hstage, hname]
    exact h.row _ _ hproduced.name
  | pointerWritten => exact ⟨h.row, h.table, h.attempts, h.tree⟩
  | exported => exact ⟨h.row, h.table, h.attempts, h.tree⟩

/-! ## The next number is new -/

theorem not_issuedBy_next {stageId other : StageId} {uuid : String} :
    ¬ IssuedBy database other
      (.issued stageId ((database.stage stageId).attemptCounter + 1) uuid) := by
  rintro ⟨number, found, hname, hle⟩
  injection hname with hstage hnumber
  subst hstage
  omega

/-- The attempt table admits the next attempt of a stage. -/
theorem Named.admits (h : Named root) (hsound : Sound root.database) {stageId : StageId}
    {row : AttemptRow} {uuid : String} (hstage : row.stageId = stageId)
    (hnumber : row.attemptNumber = (root.database.stage stageId).attemptCounter + 1)
    (hname : row.attemptId = .issued row.stageId row.attemptNumber uuid) :
    root.database.admitsAttempt row = true := by
  unfold RunDatabase.admitsAttempt
  rw [List.all_eq_true]
  intro other hother
  have hnew : other.attemptId ≠ row.attemptId := by
    intro heq
    have hissued := h.table other hother
    rw [heq, hname, hstage, hnumber] at hissued
    exact not_issuedBy_next hissued
  have hunused : ¬ (other.stageId = row.stageId ∧ other.attemptNumber = row.attemptNumber) := by
    rintro ⟨hsame, hequal⟩
    have hle := hsound.numbered other hother
    rw [hsame, hstage] at hle
    omega
  simpa [hnew] using not_and_or.mp hunused

theorem lookup_eq_none_of_names {α : Type} {entries : List (AttemptId × α)} {name : AttemptId}
    (h : ∀ entry ∈ entries, entry.1 ≠ name) : entries.lookup name = none := by
  rw [List.lookup_eq_none_iff]
  intro entry hentry
  rw [bne_iff_ne]
  exact (h entry hentry).symm

/-- No attempt directory has the name of the next attempt. -/
theorem Named.unused (h : Named root) (stageId : StageId) (uuid : String) :
    root.attempts.lookup
      (.issued stageId ((root.database.stage stageId).attemptCounter + 1) uuid) = none := by
  refine lookup_eq_none_of_names (fun entry hentry heq => ?_)
  obtain ⟨other, hissued⟩ := h.attempts entry hentry
  exact not_issuedBy_next (heq ▸ hissued)

/-- No cache root of the stage has an entry with the name of its next attempt. -/
theorem Named.unpublished (h : Named root) (stageId : StageId) (cacheKey : Sha256)
    (uuid : String) : (root.artifacts stageId cacheKey).entries.lookup
      (.issued stageId ((root.database.stage stageId).attemptCounter + 1) uuid) = none := by
  refine lookup_eq_none_of_names (fun entry hentry heq => ?_)
  exact not_issuedBy_next (heq ▸ h.tree stageId cacheKey entry hentry)

end Names

end CartoSentry.Runstate
