import CartoSentry.Runstate.Steps

set_option autoImplicit false

/-!
# Run state: invariants of the database

Every step either leaves the database alone or commits one of the four mutators.
`DatabaseChange` says which, with everything the mutator has checked, and the
invariants of every reachable database are derived from it alone.
-/

namespace CartoSentry.Runstate

open CartoSentry.Foundation

variable {Bytes : Type}

/-- What a step did to the database. -/
inductive DatabaseChange (database : RunDatabase) : Label Bytes → RunDatabase → Prop
  | same {label : Label Bytes} : DatabaseChange database label database
  | invalidated {stageId : StageId} {force : Bool} {next : RunDatabase}
      (hmem : stageId ∈ database.stageIds)
      (h : RunDatabase.Invalidated database (closure database.topology stageId) force next) :
      DatabaseChange database (.invalidated (closure database.topology stageId) force) next
  | marked {stageId : StageId} {state : StageState} {code : Option String} {next : RunDatabase}
      (hstate : state = .failedFinal ∨
        state = .failedRetryable ∧ (database.stage stageId).state = .running)
      (h : RunDatabase.Marked database stageId state code next) :
      DatabaseChange database (.marked stageId state) next
  | began {stageId : StageId} {cacheKey : Sha256} {uuid : String} {attemptId : AttemptId}
      {attemptNumber : Nat} {next : RunDatabase}
      (h : RunDatabase.Begun database stageId cacheKey uuid attemptId attemptNumber next) :
      DatabaseChange database (.began stageId attemptId attemptNumber) next
  | completed {manifest : AttemptManifest} {directory : PublishedDirectory} {next : RunDatabase}
      (h : RunDatabase.Completed database manifest directory next) :
      DatabaseChange database (.completed manifest directory) next

theorem EngineStep.databaseChange {platform : Platform Bytes} {engine : RunEngine Bytes}
    {forceStage : Option StageId} {log : RunLog Bytes} {root next : RunRoot Bytes}
    {label : Label Bytes} (hopened : Opened engine root)
    (h : EngineStep platform engine forceStage log root label next) :
    DatabaseChange root.database label next.database := by
  cases h with
  | stale hmem _ _ hcommit =>
    exact .invalidated (hopened.mem_stageIds hmem) (RunDatabase.invalidate_eq_ok hcommit)
  | forced _ hmem hcommit => exact .invalidated hmem (RunDatabase.invalidate_eq_ok hcommit)
  | failedFinal _ _ _ _ hcommit => exact .marked (.inl rfl) (RunDatabase.markState_eq_ok hcommit)
  | failedRetryable _ hrunning hcommit =>
    exact .marked (.inr ⟨rfl, hrunning⟩) (RunDatabase.markState_eq_ok hcommit)
  | adopted _ _ _ hcommit => exact .completed (RunDatabase.recordComplete_eq_ok hcommit)
  | began _ _ hcommit => exact .began (RunDatabase.beginAttempt_eq_ok hcommit)
  | executed _ _ _ _ _ hcommit => exact .completed (RunDatabase.recordComplete_eq_ok hcommit)
  | attemptChanged => exact .same
  | cacheRootMade => exact .same
  | cacheRootCreated => exact .same
  | published => exact .same
  | pointerWritten => exact .same
  | exported => exact .same

theorem RunStep.databaseChange {setting : Setting Bytes} {log : RunLog Bytes}
    {root next : RunRoot Bytes} {label : Label Bytes} (h : RunStep setting log root label next) :
    DatabaseChange root.database label next.database := by
  cases h with
  | visited => exact .same
  | engine _ hopened hstep => exact hstep.databaseChange hopened
  | external => exact .same

namespace DatabaseChange

variable {database next : RunDatabase} {label : Label Bytes}

theorem inputs (h : DatabaseChange database label next) : next.inputs = database.inputs := by
  cases h with
  | same => rfl
  | invalidated _ h => exact h.inputs
  | marked _ h => rw [h.next_eq]; rfl
  | began h => exact h.inputs
  | completed h => exact h.inputs

theorem topology (h : DatabaseChange database label next) : next.topology = database.topology := by
  cases h with
  | same => rfl
  | invalidated _ h => exact h.topology
  | marked _ h => rw [h.next_eq]; rfl
  | began h => exact h.topology
  | completed h => exact h.topology

theorem dependencies (h : DatabaseChange database label next) (stageId : StageId) :
    next.dependencies stageId = database.dependencies stageId := by
  unfold RunDatabase.dependencies
  rw [h.topology]

end DatabaseChange

/-- How one stage row changes in a step. -/
inductive RowChange (row : StageRow) : StageRow → Prop
  | same : RowChange row row
  | invalidated {force : Bool} : RowChange row (RunDatabase.invalidatedRow row force)
  | failedFinal {code : Option String} (hallowed : row.state ≠ .skippedNotApplicable) :
      RowChange row { row with state := .failedFinal, errorCode := code }
  | failedRetryable {code : Option String} (hrunning : row.state = .running) :
      RowChange row { row with state := .failedRetryable, errorCode := code }
  | began {attemptId : AttemptId} {cacheKey : Sha256}
      (hbegins : RunDatabase.canBegin row.state = true) :
      RowChange row (RunDatabase.begunRow row attemptId cacheKey)
  | completed {manifest : AttemptManifest}
      (hreconciles : RunDatabase.canReconcile row.state = true) :
      RowChange row (RunDatabase.completedRow row manifest)

theorem DatabaseChange.rowChange {database next : RunDatabase} {label : Label Bytes}
    (h : DatabaseChange database label next) (stageId : StageId) :
    RowChange (database.stage stageId) (next.stage stageId) := by
  cases h with
  | same => exact .same
  | @invalidated first force _ _ h =>
    by_cases hmem : stageId ∈ closure database.topology first
    · rw [h.stage_of_mem stageId hmem]; exact .invalidated
    · rw [h.stage_of_not_mem stageId hmem]; exact .same
  | @marked marked state code _ hstate h =>
    rw [h.next_eq]
    by_cases hsame : stageId = marked
    · subst hsame
      rw [RunDatabase.setStage_stage_self]
      rcases hstate with rfl | ⟨rfl, hrunning⟩
      · refine .failedFinal (fun hskipped => ?_)
        have hallowed := h.allowed
        rw [hskipped] at hallowed
        exact absurd hallowed (by decide)
      · exact .failedRetryable hrunning
    · rw [RunDatabase.setStage_stage_of_ne _ hsame]; exact .same
  | @began begun _ _ _ _ _ h =>
    rw [h.stage]
    by_cases hsame : stageId = begun
    · subst hsame; simpa using .began h.begins
    · rw [Function.update_of_ne hsame]; exact .same
  | @completed manifest _ _ h =>
    rw [h.stage]
    by_cases hsame : stageId = manifest.stageId
    · subst hsame; simpa using .completed h.reconciles
    · rw [Function.update_of_ne hsame]; exact .same

/-! ## Sound databases -/

theorem RunDatabase.mem_dependencies {database : RunDatabase} {stageId upstream : StageId}
    (h : upstream ∈ database.dependencies stageId) :
    ∃ dependencies, (stageId, dependencies) ∈ database.topology ∧ upstream ∈ dependencies := by
  unfold RunDatabase.dependencies at h
  cases hlookup : database.topology.lookup stageId with
  | none => rw [hlookup] at h; simp at h
  | some dependencies =>
    rw [hlookup] at h
    obtain ⟨front, back, hsplit, _⟩ := List.lookup_eq_some_iff.mp hlookup
    refine ⟨dependencies, ?_, h⟩
    rw [hsplit]
    simp

/-- What holds of the database of every reachable root. -/
structure Sound (database : RunDatabase) : Prop where
  ordered : database.topology.Ordered
  applicable : ∀ stageId, (database.stage stageId).state ≠ .skippedNotApplicable
  required : ∀ stageId, (database.stage stageId).state = .complete →
    (database.stage stageId).requiredAttemptNumber = 0
  running : ∀ stageId, (database.stage stageId).state = .running →
    ∀ upstream ∈ database.dependencies stageId,
      (database.stage upstream).state = .complete ∨ (database.stage upstream).state = .failedFinal
  numbered : ∀ row ∈ database.attempt,
    row.attemptNumber ≤ (database.stage row.stageId).attemptCounter

theorem Sound.created {inputs : RunInputs} {definitions : List (StageDefinition Bytes)}
    (h : ValidDefinitions definitions) : Sound (RunDatabase.created inputs definitions) where
  ordered := h.ordered
  applicable := by intro stageId; simp [RunDatabase.created, StageRow.initial]
  required := by intro stageId _; rfl
  running := by
    intro stageId hrunning
    exact absurd hrunning (by simp [RunDatabase.created, StageRow.initial])
  numbered := by intro row hrow; simp [RunDatabase.created] at hrow

/-- A counter never decreases. -/
theorem RowChange.attemptCounter_le {row next : StageRow} (h : RowChange row next) :
    row.attemptCounter ≤ next.attemptCounter := by
  cases h with
  | same => exact Nat.le_refl _
  | invalidated => exact Nat.le_refl _
  | failedFinal => exact Nat.le_refl _
  | failedRetryable => exact Nat.le_refl _
  | began => exact Nat.le_succ _
  | completed => exact Nat.le_max_left _ _

theorem RowChange.applicable {row next : StageRow} (h : RowChange row next)
    (hrow : row.state ≠ .skippedNotApplicable) : next.state ≠ .skippedNotApplicable := by
  cases h with
  | same => exact hrow
  | invalidated => simp [RunDatabase.invalidatedRow]
  | failedFinal => simp
  | failedRetryable => simp
  | began => simp [RunDatabase.begunRow]
  | completed => simp [RunDatabase.completedRow]

theorem RowChange.required {row next : StageRow} (h : RowChange row next)
    (hrow : row.state = .complete → row.requiredAttemptNumber = 0)
    (hnext : next.state = .complete) : next.requiredAttemptNumber = 0 := by
  cases h with
  | same => exact hrow hnext
  | invalidated => simp [RunDatabase.invalidatedRow] at hnext
  | failedFinal => simp at hnext
  | failedRetryable => simp at hnext
  | began => simp [RunDatabase.begunRow] at hnext
  | completed => rfl

/-- A row that a step has not invalidated stays complete or finally failed. -/
theorem RowChange.settled {row next : StageRow} (h : RowChange row next)
    (hrow : row.state = .complete ∨ row.state = .failedFinal)
    (hnext : next.state ≠ .invalidated) :
    next.state = .complete ∨ next.state = .failedFinal := by
  cases h with
  | same => exact hrow
  | invalidated => simp [RunDatabase.invalidatedRow] at hnext
  | failedFinal => exact .inr rfl
  | failedRetryable hrunning => rw [hrunning] at hrow; simp at hrow
  | began hbegins => rcases hrow with hrow | hrow <;> rw [hrow] at hbegins <;> cases hbegins
  | completed => exact .inl rfl

theorem upsertAttempt_numbered {database : RunDatabase} {manifest : AttemptManifest}
    {sha : Sha256} {attempt : List AttemptRow}
    (h : database.upsertAttempt manifest sha = .ok attempt) :
    ∀ row ∈ attempt, (∃ before ∈ database.attempt, before.attemptNumber = row.attemptNumber ∧
        before.stageId = row.stageId) ∨
      (row.attemptNumber = manifest.attemptNumber ∧ row.stageId = manifest.stageId) := by
  unfold RunDatabase.upsertAttempt at h
  split at h
  · obtain rfl := Except.ok.inj h
    intro row hrow
    obtain ⟨before, hbefore, rfl⟩ := List.mem_map.mp hrow
    refine .inl ⟨before, hbefore, ?_⟩
    split
    · exact ⟨rfl, rfl⟩
    · exact ⟨rfl, rfl⟩
  · dsimp only at h
    split at h
    · obtain rfl := Except.ok.inj h
      intro row hrow
      rcases List.mem_append.mp hrow with hrow | hrow
      · exact .inl ⟨row, hrow, rfl, rfl⟩
      · rw [List.mem_singleton.mp hrow]
        exact .inr ⟨rfl, rfl⟩
    · exact absurd h (by simp)

theorem Sound.preserved {database next : RunDatabase} {label : Label Bytes}
    (hsound : Sound database) (h : DatabaseChange database label next) : Sound next where
  ordered := h.topology ▸ hsound.ordered
  applicable := fun stageId => (h.rowChange stageId).applicable (hsound.applicable stageId)
  required := fun stageId => (h.rowChange stageId).required (hsound.required stageId)
  running := by
    intro stageId hrunning upstream hupstream
    rw [h.dependencies] at hupstream
    -- a stage that starts running has complete dependencies; one that already
    -- ran keeps them, because an invalidated scope is closed downstream
    have hbefore : (database.stage upstream).state = .complete ∨
        (database.stage upstream).state = .failedFinal := by
      cases h with
      | began h =>
        rename_i begun _ _ _ _
        by_cases hsame : stageId = begun
        · subst hsame; exact .inl (h.dependencies upstream hupstream)
        · rw [h.stage, Function.update_of_ne hsame] at hrunning
          exact hsound.running stageId hrunning upstream hupstream
      | same => exact hsound.running stageId hrunning upstream hupstream
      | @invalidated first force _ _ h =>
        by_cases hmem : stageId ∈ closure database.topology first
        · rw [h.stage_of_mem stageId hmem] at hrunning
          simp [RunDatabase.invalidatedRow] at hrunning
        · rw [h.stage_of_not_mem stageId hmem] at hrunning
          exact hsound.running stageId hrunning upstream hupstream
      | @marked marked state _ _ hstate h =>
        rw [h.next_eq] at hrunning
        by_cases hsame : stageId = marked
        · subst hsame
          rw [RunDatabase.setStage_stage_self] at hrunning
          rcases hstate with rfl | ⟨rfl, _⟩
          · simp at hrunning
          · simp at hrunning
        · rw [RunDatabase.setStage_stage_of_ne _ hsame] at hrunning
          exact hsound.running stageId hrunning upstream hupstream
      | @completed manifest _ _ h =>
        rw [h.stage] at hrunning
        by_cases hsame : stageId = manifest.stageId
        · subst hsame
          simp [RunDatabase.completedRow] at hrunning
        · rw [Function.update_of_ne hsame] at hrunning
          exact hsound.running stageId hrunning upstream hupstream
    refine (h.rowChange upstream).settled hbefore (fun hinvalidated => ?_)
    cases h with
    | @invalidated first force _ _ h =>
      by_cases hmem : upstream ∈ closure database.topology first
      · obtain ⟨dependencies, hitem, hdep⟩ := RunDatabase.mem_dependencies hupstream
        have hdown := closure_closed (stageId, dependencies) hitem upstream hdep hmem
        rw [h.stage_of_mem stageId hdown] at hrunning
        simp [RunDatabase.invalidatedRow] at hrunning
      · rw [h.stage_of_not_mem upstream hmem] at hinvalidated
        rw [hinvalidated] at hbefore
        simp at hbefore
    | same => rw [hinvalidated] at hbefore; simp at hbefore
    | @marked marked state _ _ hstate h =>
      rw [h.next_eq] at hinvalidated
      by_cases hsame : upstream = marked
      · subst hsame
        rw [RunDatabase.setStage_stage_self] at hinvalidated
        rcases hstate with rfl | ⟨rfl, _⟩
        · simp at hinvalidated
        · simp at hinvalidated
      · rw [RunDatabase.setStage_stage_of_ne _ hsame] at hinvalidated
        rw [hinvalidated] at hbefore
        simp at hbefore
    | @began begun _ _ _ _ _ h =>
      rw [h.stage] at hinvalidated
      by_cases hsame : upstream = begun
      · subst hsame; simp [RunDatabase.begunRow] at hinvalidated
      · rw [Function.update_of_ne hsame] at hinvalidated
        rw [hinvalidated] at hbefore
        simp at hbefore
    | @completed manifest _ _ h =>
      rw [h.stage] at hinvalidated
      by_cases hsame : upstream = manifest.stageId
      · subst hsame; simp [RunDatabase.completedRow] at hinvalidated
      · rw [Function.update_of_ne hsame] at hinvalidated
        rw [hinvalidated] at hbefore
        simp at hbefore
  numbered := by
    have hkept : ∀ row ∈ database.attempt,
        row.attemptNumber ≤ (next.stage row.stageId).attemptCounter := fun row hrow =>
      Nat.le_trans (hsound.numbered row hrow) (h.rowChange row.stageId).attemptCounter_le
    cases h with
    | same => exact hkept
    | invalidated _ h => rw [h.attempt]; exact hkept
    | marked _ h => rw [h.next_eq] at hkept ⊢; exact hkept
    | began h =>
      obtain ⟨added, hattempt, _, hstage, hnumber⟩ := h.attempt
      intro row hrow
      rw [hattempt] at hrow
      rcases List.mem_append.mp hrow with hrow | hrow
      · exact hkept row hrow
      · rw [List.mem_singleton.mp hrow, hstage, hnumber, h.stage, h.number]
        simp [RunDatabase.begunRow]
    | completed h =>
      obtain ⟨sha, hupsert⟩ := h.attempt
      intro row hrow
      rcases upsertAttempt_numbered hupsert row hrow with ⟨before, hbefore, hnumber, hstage⟩ | hnew
      · rw [← hnumber, ← hstage]
        exact hkept before hbefore
      · rw [hnew.1, hnew.2, h.stage]
        simp [RunDatabase.completedRow]

theorem sound_of_history {setting : Setting Bytes} {start : RunRoot Bytes} {log : RunLog Bytes}
    {root : RunRoot Bytes} (hstart : Sound start.database)
    (h : History (RunStep setting) start log root) : Sound root.database :=
  h.invariant (I := fun root => Sound root.database) hstart
    (fun _ _ _ _ hsound hstep => hsound.preserved hstep.databaseChange)

end CartoSentry.Runstate
