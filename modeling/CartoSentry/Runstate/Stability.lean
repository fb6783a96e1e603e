import CartoSentry.Runstate.AttemptNames

set_option autoImplicit false

/-!
# Run state: complete runs are stable

A run that reports completion has decided so from its rows; the next one decides
it again from everything published under the recorded keys.  The two agree when
all of it can still be read: then the newest attempt is the recorded one, the
next run adopts it again, and it executes nothing.
-/

namespace CartoSentry.Runstate

open CartoSentry.Foundation RunEngine

variable {Bytes : Type}

/-! ## Published attempts are counted -/

/-- No published attempt that verifies has a number its stage has not counted. -/
def Counted (platform : Platform Bytes) (root : RunRoot Bytes) : Prop :=
  ∀ stageId cacheKey name files attempt,
    (name, CacheEntry.directory files) ∈ (root.artifacts stageId cacheKey).entries →
    verifyAttemptDirectory platform ⟨stageId, cacheKey, name⟩ files = .ok attempt →
    attempt.manifest.attemptNumber ≤ (root.database.stage stageId).attemptCounter

/-- Every lifetime, and every damage to and restoration of what was published that
makes up no attempt with a number yet to come. -/
def Setting.corrupting (platform : Platform Bytes) : Setting Bytes where
  platform := platform
  lives := fun _ => True
  disturbs := fun root tree _ => Counted platform { root with artifacts := tree }

/-- Every row that names an attempt names one of the attempt table. -/
def Tabled (database : RunDatabase) : Prop :=
  ∀ stageId attemptId, (database.stage stageId).attemptId = some attemptId →
    ∃ row ∈ database.attempt, row.attemptId = attemptId

section Invariants

variable {platform : Platform Bytes} {engine : RunEngine Bytes} {forceStage : Option StageId}
  {log : RunLog Bytes} {root next : RunRoot Bytes} {label : Label Bytes}

theorem Counted.mono (h : Counted platform root) {database : RunDatabase}
    {attempts : List (AttemptId × AttemptFiles Bytes)} {completions : StageId → Option Bytes}
    {artifact : Option RunArtifact}
    (hcounter : ∀ stageId, (root.database.stage stageId).attemptCounter ≤
      (database.stage stageId).attemptCounter) :
    Counted platform ⟨database, attempts, root.artifacts, completions, artifact⟩ :=
  fun stageId cacheKey name files attempt hmem hverify =>
    Nat.le_trans (h stageId cacheKey name files attempt hmem hverify) (hcounter stageId)

theorem Counted.step (h : Counted platform root) (hopened : Opened engine root)
    (hstep : EngineStep platform engine forceStage log root label next) :
    Counted platform next := by
  have hcounter := fun stageId =>
    ((hstep.databaseChange hopened).rowChange stageId).attemptCounter_le
  cases hstep with
  | cacheRootCreated =>
    intro stageId cacheKey name files attempt hmem hverify
    rcases ArtifactTree.mem_set hmem with ⟨_, _, hnone⟩ | hin
    · cases hnone
    · exact h stageId cacheKey name files attempt hin hverify
  | @published definition key attemptId written manifest entries hproduced hread hroot =>
    intro stageId cacheKey name files attempt hmem hverify
    rcases ArtifactTree.mem_set hmem with ⟨rfl, rfl, hin⟩ | hin
    · rcases List.mem_append.mp hin with hold | hnew
      · refine h _ _ name files attempt ?_ hverify
        rw [hroot]
        exact hold
      · -- the attempt just written carries the number that its stage counted last
        obtain ⟨rfl, heq⟩ := Prod.mk.inj (List.mem_singleton.mp hnew)
        cases heq
        obtain ⟨_, _, _, _, _, _, hbuilt, _⟩ := hproduced.produced
        rw [(manifest_of_verified hread hverify).2, (attemptManifest_eq_ok hbuilt).2.2.2.1]
    · exact h stageId cacheKey name files attempt hin hverify
  | attemptChanged => exact h.mono hcounter
  | cacheRootMade => exact h
  | pointerWritten => exact h.mono hcounter
  | exported => exact h.mono hcounter
  | _ => exact h.mono hcounter

theorem counted_of_history {start : RunRoot Bytes} (hstart : Counted platform start)
    (h : History (RunStep (Setting.corrupting platform)) start log root) :
    Counted platform root := by
  refine h.invariant (I := Counted platform) hstart ?_
  intro log root label next hcounted hstep
  cases hstep with
  | visited => exact hcounted
  | engine _ hopened hstep => exact hcounted.step hopened hstep
  | external hdisturbs => exact hdisturbs

theorem Tabled.step {database next : RunDatabase} (h : Tabled database)
    (hchange : DatabaseChange database label next) : Tabled next := by
  intro stageId attemptId hname
  cases hchange with
  | same => exact h stageId attemptId hname
  | @invalidated first force _ _ hinvalidated =>
    rw [hinvalidated.attempt]
    by_cases hmem : stageId ∈ closure database.topology first
    · rw [hinvalidated.stage_of_mem stageId hmem] at hname
      cases hname
    · rw [hinvalidated.stage_of_not_mem stageId hmem] at hname
      exact h stageId attemptId hname
  | @marked marked _ _ _ _ hmarked =>
    rw [hmarked.next_eq] at hname ⊢
    refine h stageId attemptId ?_
    by_cases hsame : stageId = marked
    · subst hsame
      rwa [RunDatabase.setStage_stage_self] at hname
    · rwa [RunDatabase.setStage_stage_of_ne _ hsame] at hname
  | @began begun _ _ _ _ _ hbegun =>
    obtain ⟨added, hattempt, hadded, _⟩ := hbegun.attempt
    rw [hbegun.stage] at hname
    rw [hattempt]
    by_cases hsame : stageId = begun
    · subst hsame
      rw [Function.update_self] at hname
      obtain rfl := Option.some.inj hname
      exact ⟨added, by simp, hadded⟩
    · rw [Function.update_of_ne hsame] at hname
      obtain ⟨row, hrow, hrowName⟩ := h stageId attemptId hname
      exact ⟨row, List.mem_append_left _ hrow, hrowName⟩
  | @completed manifest _ _ hcompleted =>
    obtain ⟨sha, hupsert⟩ := hcompleted.attempt
    obtain ⟨_, hself, hkept⟩ := upsertAttempt_names hupsert
    rw [hcompleted.stage] at hname
    by_cases hsame : stageId = manifest.stageId
    · subst hsame
      rw [Function.update_self] at hname
      obtain rfl := Option.some.inj hname
      exact hself
    · rw [Function.update_of_ne hsame] at hname
      obtain ⟨row, hrow, rfl⟩ := h stageId attemptId hname
      exact hkept row hrow

theorem tabled_of_history {setting : Setting Bytes} {start : RunRoot Bytes}
    (hstart : Tabled start.database) (h : History (RunStep setting) start log root) :
    Tabled root.database :=
  h.invariant (I := fun root => Tabled root.database) hstart
    (fun _ _ _ _ htabled hstep => htabled.step hstep.databaseChange)

end Invariants

/-! ## What a complete stage rests on -/

section Held

variable {platform : Platform Bytes} {engine : RunEngine Bytes} {root mid next : RunRoot Bytes}
  {definition : StageDefinition Bytes} {forceStage : Option StageId} {scope : List StageId}

/-- A complete stage with its current key, whose row and artifact rows are those of
the newest published attempt, provided that all of them can be read. -/
def Held (platform : Platform Bytes) (engine : RunEngine Bytes) (root : RunRoot Bytes)
    (definition : StageDefinition Bytes) : Prop :=
  IsComplete root definition.stageId → ∃ key,
    HasKey platform engine root definition key ∧
    (root.database.stage definition.stageId).cacheKey = some key ∧
    ∀ published, selection platform engine root definition key = .ok published →
      ∃ attempt, published = some attempt ∧
        (root.database.stage definition.stageId).attemptId = some attempt.manifest.attemptId ∧
        root.database.artifact definition.stageId =
          attempt.manifest.artifacts.map (RunDatabase.artifactRowOf attempt.directory)

/-- A selection reads one cache root. -/
theorem selection_congr {key : Sha256}
    (h : next.artifacts definition.stageId key = root.artifacts definition.stageId key) :
    selection platform engine next definition key =
      selection platform engine root definition key := by
  unfold selection selectPublished
  rw [h]

theorem Settled.held (h : Settled platform engine root definition) :
    Held platform engine root definition := by
  intro hcomplete
  obtain ⟨key, attempt, hkey, hrow, hselected, hname, hrows⟩ := h hcomplete
  refine ⟨key, hkey, hrow, fun published hpublished => ⟨attempt, ?_, hname, hrows⟩⟩
  rw [hselected] at hpublished
  exact (Except.ok.inj hpublished).symm

theorem Held.settled (h : Held platform engine root definition)
    (hreadable : ∀ key, (root.database.stage definition.stageId).cacheKey = some key →
      ∃ published, selection platform engine root definition key = .ok published) :
    Settled platform engine root definition := by
  intro hcomplete
  obtain ⟨key, hkey, hrow, hheld⟩ := h hcomplete
  obtain ⟨published, hselected⟩ := hreadable key hrow
  obtain ⟨attempt, rfl, hname, hrows⟩ := hheld published hselected
  exact ⟨key, attempt, hkey, hrow, hselected, hname, hrows⟩

theorem Held.congr (h : Held platform engine root definition)
    (hself : SameRows root next definition.stageId)
    (hupstream : ∀ upstream ∈ definition.dependencies, SameRows root next upstream)
    (htree : ∀ key, next.artifacts definition.stageId key =
      root.artifacts definition.stageId key) : Held platform engine next definition := by
  obtain ⟨hstage, hartifact⟩ := hself
  intro hcomplete
  unfold IsComplete at hcomplete
  rw [hstage] at hcomplete
  obtain ⟨key, hkey, hrow, hheld⟩ := h hcomplete
  refine ⟨key, hkey.congr hupstream, by rwa [hstage], fun published hselected => ?_⟩
  rw [selection_congr (htree key)] at hselected
  rw [hstage, hartifact]
  exact hheld published hselected

/-- An execution publishes under a number that no attempt before it had, so it
leaves its stage held by the attempt it has published. -/
theorem Executed.held {key : Sha256} {attemptId : AttemptId} {manifest : AttemptManifest}
    {payloads : List (ArtifactPayload Bytes)} (hopened : Opened engine root)
    (hmem : definition ∈ engine.definitions) (hcounted : Counted platform root)
    (h : Executed platform engine definition root key attemptId manifest payloads next) :
    Held platform engine next definition := by
  have hstage : next.database.stage definition.stageId = RunDatabase.completedRow
      (RunDatabase.begunRow (root.database.stage definition.stageId) attemptId key) manifest := by
    rw [h.stage, Function.update_self]
  have hupstream : ∀ upstream ∈ definition.dependencies, SameRows root next upstream := by
    intro upstream hdep
    have hne : upstream ≠ definition.stageId :=
      fun heq => hopened.not_mem_dependencies hmem (heq ▸ hdep)
    unfold SameRows
    rw [h.stage, h.artifact, Function.update_of_ne hne, Function.update_of_ne hne]
    exact ⟨rfl, rfl⟩
  intro _
  refine ⟨key, h.hasKey.congr hupstream, ?_, fun published hselected => ?_⟩
  · rw [hstage]
    exact congrArg some h.cacheKey
  have hroot : next.artifacts definition.stageId key = .directory
      ((root.artifacts definition.stageId key).entries ++ [(attemptId, .directory
        ((sortedPayloads payloads).map payloadFile
          ++ [(attemptManifestFile, platform.manifests.encode manifest)]))]) := by
    rw [h.tree, ArtifactTree.set_self]
  cases published with
  | none =>
    rcases selectPublished_eq_none hselected with hnone | hempty
    · rw [hroot] at hnone
      cases hnone
    · rw [hroot] at hempty
      simp at hempty
  | some attempt =>
    obtain ⟨entries, hselection⟩ := selectPublished_eq_some hselected
    have hentries := hselection.root
    rw [hroot] at hentries
    obtain rfl := CacheRoot.directory.inj hentries
    -- the new directory verifies, so no attempt with a smaller number is the newest
    obtain ⟨other, hother, _, hle⟩ := hselection.all (attemptId, .directory _)
      (List.mem_append_right _ List.mem_cons_self)
    obtain ⟨files, hfiles, hverified⟩ := verifyCandidate_directory hother
    cases hfiles
    have hnumber : other.manifest.attemptNumber =
        (root.database.stage definition.stageId).attemptCounter + 1 := by
      rw [(manifest_of_verified h.read hverified).2]
      exact h.number
    obtain ⟨⟨name, entry⟩, hentry, hcandidate⟩ := hselection.mem
    obtain ⟨files, rfl, hnewest⟩ := verifyCandidate_directory hcandidate
    rcases List.mem_append.mp hentry with hold | hnew
    · have hcounter := hcounted _ _ name files attempt hold hnewest
      omega
    · obtain ⟨rfl, heq⟩ := Prod.mk.inj (List.mem_singleton.mp hnew)
      cases heq
      have hmanifest := (manifest_of_verified h.read hnewest).2
      refine ⟨attempt, rfl, ?_, ?_⟩
      · rw [hstage, hmanifest]
        rfl
      · rw [h.artifact, Function.update_self, hmanifest, (verifyAttemptDirectory_eq_ok hnewest).1]

theorem Executed.counted {key : Sha256} {attemptId : AttemptId} {manifest : AttemptManifest}
    {payloads : List (ArtifactPayload Bytes)} (hcounted : Counted platform root)
    (h : Executed platform engine definition root key attemptId manifest payloads next) :
    Counted platform next := by
  have hcounter : ∀ stageId, (root.database.stage stageId).attemptCounter ≤
      (next.database.stage stageId).attemptCounter := by
    intro stageId
    rw [h.stage]
    by_cases hsame : stageId = definition.stageId
    · subst hsame
      simp only [Function.update_self, RunDatabase.completedRow, RunDatabase.begunRow]
      omega
    · rw [Function.update_of_ne hsame]
  intro stageId cacheKey name files attempt hmem hverify
  rw [h.tree] at hmem
  rcases ArtifactTree.mem_set hmem with ⟨rfl, rfl, hin⟩ | hin
  · rcases List.mem_append.mp hin with hold | hnew
    · exact Nat.le_trans (hcounted _ _ name files attempt hold hverify) (hcounter _)
    · obtain ⟨rfl, heq⟩ := Prod.mk.inj (List.mem_singleton.mp hnew)
      cases heq
      rw [(manifest_of_verified h.read hverify).2, h.stage, Function.update_self]
      exact Nat.le_max_right _ _
  · exact Nat.le_trans (hcounted _ _ name files attempt hin hverify) (hcounter _)

/-! ## What a run leaves held -/

/-- Every definition is held by its stage. -/
def AllHeld (platform : Platform Bytes) (engine : RunEngine Bytes) (root : RunRoot Bytes) : Prop :=
  ∀ definition ∈ engine.definitions, Held platform engine root definition

/-- An execution leaves every other complete stage held: none depends on the stage executed. -/
theorem Executed.held_other {other : StageDefinition Bytes} {key : Sha256} {attemptId : AttemptId}
    {manifest : AttemptManifest} {payloads : List (ArtifactPayload Bytes)}
    (hne : other.stageId ≠ definition.stageId) (hother : Held platform engine root other)
    (h : Executed platform engine definition root key attemptId manifest payloads next) :
    Held platform engine next other := by
  have hrows : ∀ stageId, stageId ≠ definition.stageId → SameRows root next stageId := by
    intro stageId hstage
    unfold SameRows
    rw [h.stage, h.artifact, Function.update_of_ne hstage, Function.update_of_ne hstage]
    exact ⟨rfl, rfl⟩
  intro hcomplete
  have hbefore := hcomplete
  unfold IsComplete at hbefore
  rw [(hrows _ hne).1] at hbefore
  obtain ⟨otherKey, hkey, _⟩ := hother hbefore
  refine hother.congr (hrows _ hne) (fun upstream hdep => hrows upstream ?_) (fun k => ?_) hcomplete
  · rintro rfl
    have hbegins := h.begins
    rw [cacheKey_complete hkey _ hdep] at hbegins
    cases hbegins
  · rw [h.tree]
    exact ArtifactTree.set_of_ne _ _ (fun hsame => hne hsame.1)

/-- The loop of a run keeps every complete stage held. -/
theorem held_invariant (hopened : Opened engine root) :
    ExecutionInvariant platform engine scope (fun front root =>
      Pending engine scope front root ∧ Counted platform root ∧ AllHeld platform engine root)
      (AllHeld platform engine) := by
  have hpending : ExecutionInvariant platform engine scope (Pending engine scope)
      (fun _ => True) := pending_invariant hopened
  refine {
    skipped := fun front definition rest root hsplit h hcomplete hscope =>
      ⟨hpending.skipped front definition rest root hsplit h.1 hcomplete hscope, h.2⟩,
    failedFinal := fun _ _ _ _ _ h _ => h.2.2,
    blocked := fun front definition rest root hsplit h hskip hfinal hupstream =>
      ⟨hpending.blocked front definition rest root hsplit h.1 hskip hfinal hupstream, h.2⟩,
    begins := fun front definition rest root hsplit hsound h =>
      hpending.begins front definition rest root hsplit hsound h.1,
    executed := ?_, done := fun _ h => h.2.2, exported := fun _ _ h => h }
  intro front definition rest root key attemptId manifest payloads next hsplit hopen h hclear
    hexecuted
  have hmem : definition ∈ engine.definitions := by simp [hsplit]
  obtain ⟨hwaiting, hcounted, hheld⟩ := h
  refine ⟨hpending.executed front definition rest root key attemptId manifest payloads next hsplit
    hopen hwaiting hclear hexecuted, hexecuted.counted hcounted, fun other hother => ?_⟩
  by_cases hsame : other.stageId = definition.stageId
  · rw [hopen.definition_ext hother hmem hsame]
    exact hexecuted.held hopen hmem hcounted
  · exact hexecuted.held_other hsame (hheld other hother)

/-- Nothing a visit commits takes a count back. -/
theorem Counted.visited (hopened : Opened engine root) (hmem : definition ∈ engine.definitions)
    (hcounted : Counted platform root) (hstart : VisitStart platform engine definition root mid)
    (hend : VisitEnd platform engine definition mid next) : Counted platform next := by
  have hmid : Counted platform mid := by
    cases hstart with
    | current => exact hcounted
    | stale _ hinvalidated =>
      have hchange : DatabaseChange root.database (.invalidated _ false : Label Bytes) _ :=
        .invalidated (hopened.mem_stageIds hmem) hinvalidated
      exact hcounted.mono (fun stageId => (hchange.rowChange stageId).attemptCounter_le)
  have hcounter : ∀ stageId, (mid.database.stage stageId).attemptCounter ≤
      (next.database.stage stageId).attemptCounter := by
    intro stageId
    cases hend with
    | waiting => exact Nat.le_refl _
    | adopted _ hcompleted =>
      have hchange : DatabaseChange mid.database (.completed _ _ : Label Bytes) _ :=
        .completed hcompleted
      exact (hchange.rowChange stageId).attemptCounter_le
    | failedFinal _ _ hmarked => rw [(hmarked.kept stageId).1]
    | failedRetryable _ _ _ hmarked => rw [(hmarked.kept stageId).1]
    | unpublished => exact Nat.le_refl _
  intro stageId cacheKey name files attempt hentry hverify
  rw [hend.artifacts] at hentry
  exact Nat.le_trans (hmid stageId cacheKey name files attempt hentry hverify) (hcounter stageId)

/-- After reconciliation and the forced invalidation every complete stage is held. -/
theorem held_of_visited (hopened : Opened engine root) (hcounted : Counted platform root)
    (hvisited : AllVisited platform engine engine.definitions root)
    (hforce : ForceEnd forceStage root next) :
    Counted platform next ∧ AllHeld platform engine next := by
  have hheld : AllHeld platform engine root :=
    fun definition hmem => (hvisited definition hmem).settled.held
  cases hforce with
  | unforced => exact ⟨hcounted, hheld⟩
  | @forced stageId database _ hinvalidated =>
    refine ⟨hcounted.mono (fun other => ?_), fun definition hmem hcomplete => ?_⟩
    · by_cases hin : other ∈ closure root.database.topology stageId
      · rw [hinvalidated.stage_of_mem other hin]
        exact Nat.le_refl _
      · rw [hinvalidated.stage_of_not_mem other hin]
    · have hout : definition.stageId ∉ closure root.database.topology stageId := by
        intro hin
        unfold IsComplete at hcomplete
        rw [hinvalidated.stage_of_mem _ hin] at hcomplete
        cases hcomplete
      have hrows : ∀ other, other ∉ closure root.database.topology stageId →
          SameRows root { root with database := database } other := fun other hnot =>
        ⟨hinvalidated.stage_of_not_mem other hnot, hinvalidated.artifact_of_not_mem other hnot⟩
      refine (hheld definition hmem).congr (hrows _ hout) (fun upstream hdep => hrows _ ?_)
        (fun _ => rfl) hcomplete
      exact fun hin => hout (closure_closed (definition.stageId, definition.dependencies)
        (hopened.mem_topology hmem) upstream hdep hin)

/-- The processes of a corrupting history, on a machine with a history of its own. -/
theorem preserved_corrupting {start : RunRoot Bytes} (hstart : Sound start.database) :
    Preserved platform engine forceStage (Running (Setting.corrupting platform) start engine)
      (Running (Setting.corrupting platform) start engine) := by
  let life : Lifetime Bytes :=
    ⟨engine.definitions, forceStage, false, ⟨fun _ _ => .proceed, fun _ => ""⟩, none⟩
  have hlife : (Setting.corrupting platform).lives life := trivial
  exact preserved_running hstart hlife rfl

/-- A run that returns leaves every complete stage held, and a root that can be exported. -/
theorem run_held {start : RunRoot Bytes} (hstart : Sound start.database)
    (hscope : engine.forcedScopeOf forceStage = .ok scope) (env : ProcessEnv)
    (hopened : Opened engine root) :
    Triple (fun m => Running (Setting.corrupting platform) start engine m ∧
        Counted platform m.store)
      (engine.run platform env forceStage false)
      ⟨fun report m => Running (Setting.corrupting platform) start engine m ∧
        AllHeld platform engine m.store ∧
        isPortableRun (runArtifactOf m.store.database) = true ∧
        ∃ actions, report = engine.report platform m.store actions scope,
        fun _ _ => True, fun _ => True⟩ := by
  refine (run_triple (P := fun front root => AllVisited platform engine front root ∧
      Counted platform root) (preserved_corrupting hstart) (fun h : False => h.elim) hscope
    ?_ (held_invariant hopened) ?_).weaken ?_ ?_ (fun _ _ _ => trivial) (fun _ _ => trivial)
  · intro front definition rest root mid next hsplit hopened hsound hfront hbegin hend
    have hmem : definition ∈ engine.definitions := by simp [hsplit]
    exact ⟨allVisited_invariant front definition rest root mid next hsplit hopened hsound hfront.1
      hbegin hend, hfront.2.visited hopened hmem hbegin hend⟩
  · intro root next hopened hsound hvisited hforce
    exact ⟨pending_of_visited hopened hsound hscope hvisited.1 hforce,
      held_of_visited hopened hvisited.2 hvisited.1 hforce⟩
  · exact fun m hm => ⟨hm.1, fun _ hnil => by simp at hnil, hm.2⟩
  · exact fun _ m hm => ⟨hm.1, hm.2⟩

end Held

/-! ## A root at rest -/

section Steady

variable {platform : Platform Bytes} {engine : RunEngine Bytes} {root next : RunRoot Bytes}
  {start first : RunRoot Bytes} {log : RunLog Bytes} {definition : StageDefinition Bytes}

/-- Every stage is complete and settled. -/
def Steady (platform : Platform Bytes) (engine : RunEngine Bytes) (root : RunRoot Bytes) : Prop :=
  ∀ definition ∈ engine.definitions,
    IsComplete root definition.stageId ∧ Settled platform engine root definition

/-- Changes that no settled stage reads. -/
theorem Steady.keep (h : Steady platform engine root)
    (hstage : ∀ stageId, (next.database.stage stageId).state = (root.database.stage stageId).state ∧
      (next.database.stage stageId).cacheKey = (root.database.stage stageId).cacheKey ∧
      (next.database.stage stageId).attemptId = (root.database.stage stageId).attemptId)
    (hartifact : next.database.artifact = root.database.artifact)
    (htree : ∀ stageId key, root.artifacts stageId key ≠ .missing →
      next.artifacts stageId key = root.artifacts stageId key) :
    Steady platform engine next := by
  intro definition hmem
  obtain ⟨hcomplete, hsettled⟩ := h definition hmem
  obtain ⟨key, attempt, hkey, hrow, hselected, hname, hrows⟩ := hsettled hcomplete
  have hpresent : root.artifacts definition.stageId key ≠ .missing := by
    obtain ⟨entries, hselection⟩ := selectPublished_eq_some hselected
    rw [hselection.root]
    simp
  refine ⟨(hstage _).1.trans hcomplete, fun _ => ⟨key, attempt, ?_, ?_, ?_, ?_, ?_⟩⟩
  · unfold HasKey at hkey ⊢
    rw [← hkey]
    exact cacheKey_congr (fun upstream _ => (hstage upstream).1)
      (fun upstream _ => congrFun hartifact upstream)
  · rw [(hstage _).2.1, hrow]
  · rw [selection_congr (htree _ _ hpresent), hselected]
  · rw [(hstage _).2.2, hname]
  · rw [hartifact, hrows]

theorem Steady.not_stale (h : Steady platform engine root) (hmem : definition ∈ engine.definitions) :
    ¬ Stale platform engine root definition := by
  rintro ⟨hcomplete, hupstream | ⟨other, hother, hne⟩⟩
  · obtain ⟨key, _, hkey, _⟩ := (h definition hmem).2 hcomplete
    rw [upstreamIncomplete_eq_false (cacheKey_complete hkey)] at hupstream
    cases hupstream
  · obtain ⟨key, _, hkey, hrow, _⟩ := (h definition hmem).2 hcomplete
    rw [← Except.ok.inj (hkey.symm.trans hother)] at hne
    exact hne hrow

/-- The only attempt a visit can adopt is the one that the row names. -/
theorem Steady.adoptable (h : Steady platform engine root) (hmem : definition ∈ engine.definitions)
    {key : Sha256} {published : Option PublishedAttempt}
    (hkey : HasKey platform engine root definition key)
    (hselected : selection platform engine root definition key = .ok published) :
    (root.database.stage definition.stageId).cacheKey = some key ∧ ∃ attempt,
      published = some attempt ∧
      (root.database.stage definition.stageId).attemptId = some attempt.manifest.attemptId ∧
      root.database.artifact definition.stageId =
        attempt.manifest.artifacts.map (RunDatabase.artifactRowOf attempt.directory) := by
  obtain ⟨hcomplete, hsettled⟩ := h definition hmem
  obtain ⟨other, hother, hrow, hheld⟩ := hsettled.held hcomplete
  rw [Except.ok.inj (hkey.symm.trans hother)] at hselected ⊢
  exact ⟨hrow, hheld published hselected⟩

theorem Steady.readable (h : Steady platform engine root) (hmem : definition ∈ engine.definitions)
    {key : Sha256} (hkey : HasKey platform engine root definition key) :
    ∃ published, selection platform engine root definition key = .ok published := by
  obtain ⟨hcomplete, hsettled⟩ := h definition hmem
  obtain ⟨other, attempt, hother, _, hselected, _⟩ := hsettled hcomplete
  rw [Except.ok.inj (hkey.symm.trans hother)]
  exact ⟨_, hselected⟩

/-- Recording the completion of an adopted attempt changes nothing that is read. -/
theorem Steady.completed (h : Steady platform engine root) (hmem : definition ∈ engine.definitions)
    {key : Sha256} {attempt : PublishedAttempt} {database : RunDatabase}
    (hadoptable : Adoptable platform engine root definition key attempt)
    (hcompleted : RunDatabase.Completed root.database attempt.manifest attempt.directory database) :
    Steady platform engine { root with database := database } ∧
      database.artifact = root.database.artifact := by
  obtain ⟨hrow, _, hsome, hname, hrows⟩ := h.adoptable hmem hadoptable.hasKey hadoptable.selected
  obtain rfl := Option.some.inj hsome
  obtain ⟨name, files, hverified⟩ := hadoptable.verified
  have hartifact : database.artifact = root.database.artifact := by
    rw [hcompleted.artifact, hadoptable.stageId, ← hrows, Function.update_eq_self]
  refine ⟨h.keep (fun stageId => ?_) hartifact (fun _ _ _ => rfl), hartifact⟩
  dsimp only
  rw [hcompleted.stage, hadoptable.stageId]
  by_cases hsame : stageId = definition.stageId
  · subst hsame
    rw [Function.update_self, hrow, hname, ← hverified.key]
    exact ⟨(h definition hmem).1.symm, rfl, rfl⟩
  · rw [Function.update_of_ne hsame]
    exact ⟨rfl, rfl, rfl⟩

/-- A step of an engine that forces nothing leaves a root at rest as it is, and
begins no attempt. -/
theorem Steady.step (h : Steady platform engine root)
    (hsound : Sound root.database) {label : Label Bytes}
    (hstep : EngineStep platform engine none log root label next) :
    Steady platform engine next ∧ next.database.artifact = root.database.artifact ∧
      ∀ stageId, beganNumbers stageId [⟨root, label⟩] = [] := by
  have hsame : ∀ stageId, (root.database.stage stageId).state =
      (root.database.stage stageId).state ∧
      (root.database.stage stageId).cacheKey = (root.database.stage stageId).cacheKey ∧
      (root.database.stage stageId).attemptId = (root.database.stage stageId).attemptId :=
    fun _ => ⟨rfl, rfl, rfl⟩
  have hrunning : ∀ {definition key attemptId files manifest},
      ¬ Produced platform engine root definition key attemptId files manifest := by
    intro definition key attemptId files manifest hproduced
    have hcomplete := (h definition hproduced.mem).1
    exact absurd (hproduced.running.symm.trans hcomplete) (by simp)
  cases hstep with
  | stale hmem _ hstale => exact absurd hstale (h.not_stale hmem)
  | forced hforce => cases hforce
  | @failedFinal definition key _ _ hmem hkey hselection =>
    exfalso
    obtain ⟨published, hselected⟩ := h.readable hmem hkey
    rcases hselection with ⟨e, herror⟩ | ⟨hcomplete, hmissing⟩
    · rw [hselected] at herror
      cases herror
    · obtain ⟨_, attempt, rfl, _⟩ := h.adoptable hmem hkey hselected
      refine hmissing attempt ⟨hkey, hselected, ?_⟩
      rw [hsound.required _ hcomplete]
      exact Nat.zero_le _
  | failedRetryable hmem hrow =>
    exact absurd (hrow.symm.trans (h _ hmem).1) (by simp)
  | adopted hmem hadoptable _ hcommit =>
    have hkept := h.completed hmem hadoptable (RunDatabase.recordComplete_eq_ok hcommit)
    exact ⟨hkept.1, hkept.2, fun _ => rfl⟩
  | began hmem _ hcommit =>
    have hbegins := (RunDatabase.beginAttempt_eq_ok hcommit).begins
    rw [(h _ hmem).1] at hbegins
    cases hbegins
  | attemptChanged => exact ⟨h.keep hsame rfl (fun _ _ _ => rfl), rfl, fun _ => rfl⟩
  | cacheRootMade => exact ⟨h, rfl, fun _ => rfl⟩
  | cacheRootCreated hmissing =>
    refine ⟨h.keep hsame rfl (fun stageId key hpresent => ?_), rfl, fun _ => rfl⟩
    exact ArtifactTree.set_of_ne _ _ (fun ⟨hstage, hkey⟩ => hpresent (by rw [hstage, hkey, hmissing]))
  | published hproduced => exact absurd hproduced hrunning
  | executed hproduced => exact absurd hproduced hrunning
  | pointerWritten => exact ⟨h.keep hsame rfl (fun _ _ _ => rfl), rfl, fun _ => rfl⟩
  | exported => exact ⟨h.keep hsame rfl (fun _ _ _ => rfl), rfl, fun _ => rfl⟩

/-- A machine that never dies, on a root at rest since `first` and its log. -/
structure Resting (platform : Platform Bytes) (engine : RunEngine Bytes)
    (first : RunRoot Bytes) (log : RunLog Bytes) (m : RunMachine Bytes) : Prop where
  lives : m.lifespan = none
  steady : Steady platform engine m.store
  artifact : m.store.database.artifact = first.database.artifact
  began : ∀ stageId, beganNumbers stageId m.log = beganNumbers stageId log

/-- Such a machine, with a history that starts at `start`. -/
def AtRest (platform : Platform Bytes) (start : RunRoot Bytes) (engine : RunEngine Bytes)
    (first : RunRoot Bytes) (log : RunLog Bytes) (m : RunMachine Bytes) : Prop :=
  Running (Setting.corrupting platform) start engine m ∧ Resting platform engine first log m

theorem preserved_resting (hstart : Sound start.database) :
    Preserved platform engine none (AtRest platform start engine first log)
      (fun m => Running (Setting.corrupting platform) start engine m ∧ True) := by
  refine (preserved_corrupting hstart).and ?_ ?_ (fun _ _ _ _ => trivial) (fun _ _ _ _ => trivial)
  · intro m label root hrunning hresting hstep
    have hkept := hresting.steady.step (sound_of_history hstart hrunning.1) hstep
    refine ⟨by simp [hresting.lives], hkept.1, hkept.2.1.trans hresting.artifact, fun stageId => ?_⟩
    rw [Machine.after_log, beganNumbers_snoc, hkept.2.2 stageId, List.append_nil]
    exact hresting.began stageId
  · intro m definition hresting _
    refine ⟨hresting.lives, hresting.steady, hresting.artifact, fun stageId => ?_⟩
    rw [Machine.noted_log, beganNumbers_snoc]
    exact (List.append_nil _).trans (hresting.began stageId)

/-- The loop of a run executes nothing when every stage is complete. -/
theorem executeStages_complete_triple {I : RunMachine Bytes → Prop} {env : ProcessEnv}
    (hopened : ∀ m, I m → Opened engine m.store) (hsteady : ∀ m, I m →
      ∀ definition ∈ engine.definitions, IsComplete m.store definition.stageId) :
    ∀ rest : List (StageDefinition Bytes), (∀ definition ∈ rest, definition ∈ engine.definitions) →
      Triple I (engine.executeStages platform env [] rest)
        ⟨fun actions m => NothingExecuted actions ∧ I m, fun _ _ => False, fun _ => False⟩ := by
  intro rest
  induction rest with
  | nil =>
    intro _
    unfold RunEngine.executeStages
    exact Triple.pure (fun m hm => ⟨by simp [NothingExecuted], hm⟩)
  | cons definition rest ih =>
    intro hrest
    have hmem := hrest definition List.mem_cons_self
    unfold RunEngine.executeStages
    refine Triple.readBind (fun root => Triple.assume (F := Opened engine root ∧
      IsComplete root definition.stageId) ?_ (fun hroot => ?_))
    · rintro m ⟨hm, rfl⟩
      exact ⟨hopened m hm, hsteady m hm definition hmem⟩
    refine Triple.ofExceptKnown (RunDatabase.stageRow_of_mem (hroot.1.mem_stageIds hmem)) ?_
    rw [if_pos ⟨hroot.2, List.not_mem_nil⟩]
    refine Triple.bind ((ih (fun other hother => hrest other (List.mem_cons_of_mem _ hother))).strengthenPre
      (fun m hm => hm.1)) (fun later => Triple.pure ?_)
    rintro m ⟨hlater, hm⟩
    refine ⟨fun item hitem => ?_, hm⟩
    rcases List.mem_cons.mp hitem with rfl | hitem
    · simp
    · exact hlater item hitem

/-- What is exported names the stages and their artifact rows only. -/
theorem isPortableRun_congr {database other : RunDatabase}
    (htopology : other.topology = database.topology) (hartifact : other.artifact = database.artifact) :
    isPortableRun (runArtifactOf other) = isPortableRun (runArtifactOf database) := by
  have hstages : other.stageIds = database.stageIds := congrArg DependencyGraph.nodes htopology
  have hsorted : other.sortedArtifacts = database.sortedArtifacts := by
    unfold RunDatabase.sortedArtifacts
    rw [hartifact]
  have hhashes : other.artifactHashes = database.artifactHashes := by
    unfold RunDatabase.artifactHashes
    rw [hsorted]
  have hrows : other.artifactRows = database.artifactRows := by
    unfold RunDatabase.artifactRows
    rw [hstages, hsorted]
  unfold isPortableRun runArtifactOf stageRecord
  simp only [List.all_map, Function.comp_def, hstages, hhashes, hrows]

/-- A run that forces nothing, on a root at rest. -/
theorem run_resting (env : ProcessEnv) (hstart : Sound start.database)
    (hsteady : Steady platform engine first) (htabled : Tabled start.database)
    (hportable : isPortableRun (runArtifactOf first.database) = true)
    (hfirst : Opened engine first) :
    Triple (AtRest platform start engine first log) (engine.run platform env none false)
      ⟨fun report m => AtRest platform start engine first log m ∧
        NothingExecuted report.actions ∧
        ∃ actions, report = engine.report platform m.store actions [],
        fun _ _ => False, fun _ => False⟩ := by
  have hI : Preserved platform engine none (AtRest platform start engine first log) _ :=
    preserved_resting hstart
  have huntroubled : Untroubled platform engine (AtRest platform start engine first log) := {
    lives := fun m hm => hm.2.lives
    configured := fun definition hmem => by
      obtain ⟨hcomplete, hsettled⟩ := hsteady definition hmem
      obtain ⟨key, _, hkey, _⟩ := hsettled hcomplete
      unfold HasKey cacheKey at hkey
      split at hkey
      · cases hkey
      · rename_i relevant hrelevant
        exact ⟨relevant, hrelevant⟩
    unblocked := fun m hm definition hmem hblocked => by
      have hcomplete := (hm.2.steady definition hmem).1
      exact absurd (hblocked.1.symm.trans hcomplete) (by simp)
    recordable := fun m hm definition hmem key attempt hadoptable => by
      obtain ⟨_, _, hsome, hname, _⟩ :=
        hm.2.steady.adoptable hmem hadoptable.hasKey hadoptable.selected
      obtain rfl := Option.some.inj hsome
      exact upsertAttempt_of_row (tabled_of_history htabled hm.1.1 _ _ hname) }
  unfold RunEngine.run
  refine Triple.ofExceptKnown (a := ([] : List StageId)) rfl ?_
  rw [if_neg Bool.false_ne_true]
  refine Triple.bind (R := fun actions m => NothingExecuted actions ∧
    AtRest platform start engine first log m) ?_ (fun actions => ?_)
  · refine (reconcile_triple (P := fun _ _ => True) hI (fun _ : True => huntroubled)
      (fun _ _ _ _ _ _ _ _ _ _ _ _ => trivial)).weaken (fun m hm => ⟨hm, trivial⟩) ?_ ?_ ?_
    · exact fun _ m hm => ⟨hm.2.1, hm.1⟩
    · exact fun _ m hm => absurd trivial hm.1
    · exact fun m hm => absurd trivial hm.1
  refine Triple.assume (fun m hm => hm.1) (fun hnothing => ?_)
  unfold RunEngine.runReconciled forceInvalidate
  refine Triple.bind (R := fun forced m => forced = [] ∧
    AtRest platform start engine first log m) (Triple.pure (fun m hm => ⟨rfl, hm.2⟩))
    (fun forced => Triple.assume (fun m hm => hm.1) ?_)
  rintro rfl
  refine Triple.bind ((executeStages_complete_triple (fun m hm => hI.opened m hm)
    (fun m hm definition hmem => (hm.2.steady definition hmem).1) engine.definitions
    (fun _ hmem => hmem)).strengthenPre (fun m hm => hm.2)) (fun executed => ?_)
  refine Triple.assume (fun m hm => hm.1) (fun hexecuted => ?_)
  refine Triple.bind (R := fun _ => AtRest platform start engine first log) ?_
    (fun _ => Triple.readBind (fun root => Triple.pure ?_))
  · refine Triple.transact ?_ ?_ ?_
    · intro m hm hlife
      rw [hm.2.2.lives] at hlife
      cases hlife
    · intro m e hm herror
      have hsame : isPortableRun (runArtifactOf m.store.database) = true := by
        rw [isPortableRun_congr ((hI.opened m hm.2).topology.trans hfirst.topology.symm)
          hm.2.2.artifact, hportable]
      dsimp only at herror
      rw [if_pos hsame] at herror
      cases herror
    · intro m c hm hok
      dsimp only at hok
      split at hok
      · obtain rfl := Except.ok.inj hok
        exact hI.effect m _ _ hm.2 .exported
      · cases hok
  · rintro m ⟨hm, rfl⟩
    refine ⟨hm, ?_, _, rfl⟩
    intro item hitem
    change item ∈ actions ++ [] ++ executed at hitem
    rw [List.append_nil] at hitem
    rcases List.mem_append.mp hitem with hitem | hitem
    · exact hnothing item hitem
    · exact hexecuted item hitem

/-- Once every stage is complete, the semantic hash reads the artifact rows alone. -/
theorem report_congr (platform : Platform Bytes) {root next : RunRoot Bytes} (hopened : Opened engine root)
    (hnext : Opened engine next) (hcomplete : ∀ definition ∈ engine.definitions,
      IsComplete root definition.stageId ∧ IsComplete next definition.stageId)
    (hartifact : next.database.artifact = root.database.artifact)
    (actions nextActions : List StageActionRecord) (scope nextScope : List StageId) :
    (engine.report platform next nextActions nextScope).complete = true ∧
      (engine.report platform next nextActions nextScope).semanticSha256 =
        (engine.report platform root actions scope).semanticSha256 := by
  have hstages : next.database.stageIds = root.database.stageIds :=
    congrArg DependencyGraph.nodes (hnext.topology.trans hopened.topology.symm)
  have hstates : next.database.stageStates = root.database.stageStates := by
    unfold RunDatabase.stageStates
    rw [hstages]
    refine List.map_congr_left (fun stageId hstage => ?_)
    obtain ⟨definition, hmem, rfl⟩ := hopened.definition_of_mem hstage
    obtain ⟨hbefore, hafter⟩ := hcomplete definition hmem
    unfold IsComplete at hbefore hafter
    rw [hbefore, hafter]
  refine ⟨List.all_eq_true.mpr (fun entry hentry => ?_), ?_⟩
  · obtain ⟨stageId, hstage, rfl⟩ := List.mem_map.mp hentry
    obtain ⟨definition, hmem, rfl⟩ := hnext.definition_of_mem hstage
    exact decide_eq_true (hcomplete definition hmem).2
  · change semanticSha256 platform next.database = semanticSha256 platform root.database
    unfold semanticSha256 semanticDocument RunDatabase.artifactHashes RunDatabase.sortedArtifacts
    rw [hstates, hstages, hartifact]

/-- A process that returns has opened the root with valid definitions of its own. -/
theorem process_returned {life : Lifetime Bytes} {m m' : RunMachine Bytes}
    {report : RunExecutionReport} (h : life.process platform m = (.returned report, m')) :
    validateStageDefinitions life.definitions = .ok () ∧
      m.store.database.topology = topologyOf life.definitions := by
  unfold Lifetime.process openEngine at h
  obtain ⟨_, _, hopen, _⟩ := Proc.bind_eq_returned h
  obtain ⟨_, _, hchecked, hrest⟩ := Proc.bind_eq_returned hopen
  obtain ⟨hvalid, rfl⟩ := Proc.ofExcept_eq_returned hchecked
  obtain ⟨_, _, hread, hlast⟩ := Proc.bind_eq_returned hrest
  obtain ⟨rfl, rfl⟩ := Proc.read_eq_returned hread
  obtain ⟨_, _, hcompared, _⟩ := Proc.bind_eq_returned hlast
  obtain ⟨hidentity, _⟩ := Proc.ofExcept_eq_returned hcompared
  refine ⟨hvalid, ?_⟩
  unfold RunDatabase.checkIdentity at hidentity
  split at hidentity
  · rename_i hboth
    exact hboth.2
  · cases hidentity

/-- A run that reports completion leaves a root at rest, if all that is published
under the recorded keys can be read. -/
theorem steady_of_complete {actions : List StageActionRecord} {scope : List StageId}
    (hopened : Opened engine root) (hheld : AllHeld platform engine root)
    (hcomplete : (engine.report platform root actions scope).complete = true)
    (hreadable : ∀ definition ∈ engine.definitions, ∀ key,
      (root.database.stage definition.stageId).cacheKey = some key →
      ∃ published, selection platform engine root definition key = .ok published) :
    Steady platform engine root := by
  intro definition hmem
  have hentry : (definition.stageId, (root.database.stage definition.stageId).state) ∈
      root.database.stageStates := List.mem_map_of_mem (hopened.mem_stageIds hmem)
  have hstate := List.all_eq_true.mp hcomplete _ hentry
  exact ⟨of_decide_eq_true hstate, (hheld definition hmem).settled (hreadable definition hmem)⟩

theorem Tabled.created {inputs : RunInputs} {definitions : List (StageDefinition Bytes)} :
    Tabled (RunDatabase.created inputs definitions) := by
  intro stageId attemptId hname
  simp [RunDatabase.created, StageRow.initial] at hname

theorem Counted.created {inputs : RunInputs} {definitions : List (StageDefinition Bytes)} :
    Counted platform (RunRoot.create inputs definitions) := by
  intro stageId cacheKey name files attempt hmem
  simp [RunRoot.create, CacheRoot.entries] at hmem

/-- After a run that reports completion, and when all that is published under the
recorded keys can be read, the next run executes nothing and reports the same. -/
theorem complete_run_stable (h : Reaches (Setting.corrupting platform) start log root)
    {life : Lifetime Bytes} {report : RunExecutionReport} {m : RunMachine Bytes}
    (hdryRun : life.dryRun = false)
    (hprocess : life.process platform ⟨root, life.lifespan, log⟩ = (.returned report, m))
    (hcomplete : report.complete = true)
    (hreadable : ∀ definition ∈ life.definitions, ∀ key,
      (m.store.database.stage definition.stageId).cacheKey = some key →
      ∃ published, selectPublished platform m.store.database.inputs.workflowId definition key
        m.store.artifacts = .ok published) (env : ProcessEnv) :
    ∃ next m', (Lifetime.unforced life.definitions env).process platform ⟨m.store, none, m.log⟩ =
        (.returned next, m') ∧
      next.complete = true ∧ next.semanticSha256 = report.semanticSha256 ∧
      NothingExecuted next.actions ∧
      ∀ stageId, beganNumbers stageId m'.log = beganNumbers stageId m.log := by
  obtain ⟨hstart, hhistory⟩ := h.history
  obtain ⟨inputs, definitions, rfl⟩ := h.created_start
  obtain ⟨hvalid, htopology⟩ := process_returned hprocess
  have hopened : Opened (engineOn root life.definitions) root :=
    engineOn_opened htopology (validateStageDefinitions_eq_ok hvalid)
  rw [process_eq_run _ hvalid htopology, hdryRun] at hprocess
  dsimp only at hprocess
  -- the run that reports completion
  obtain ⟨scope, hscope⟩ : ∃ scope,
      (engineOn root life.definitions).forcedScopeOf life.forceStage = .ok scope := by
    cases hscope : (engineOn root life.definitions).forcedScopeOf life.forceStage with
    | ok scope => exact ⟨scope, rfl⟩
    | error e =>
      unfold RunEngine.run at hprocess
      rw [hscope] at hprocess
      cases hprocess
  have hended := run_held hstart hscope life.env hopened ⟨root, life.lifespan, log⟩
    ⟨⟨hhistory, hopened⟩, counted_of_history Counted.created hhistory⟩
  rw [hprocess] at hended
  obtain ⟨⟨hlater, hstill⟩, hheld, hportable, actions, rfl⟩ := hended
  have hreadable' : ∀ definition ∈ life.definitions, ∀ key,
      (m.store.database.stage definition.stageId).cacheKey = some key → ∃ published,
        selection platform (engineOn root life.definitions) m.store definition key =
          .ok published := by
    unfold selection
    rw [← hstill.inputs]
    exact hreadable
  have hsteady := steady_of_complete hstill hheld hcomplete hreadable'
  -- the run after it
  have hrest := run_resting env hstart hsteady Tabled.created hportable hstill
    ⟨m.store, none, m.log⟩ ⟨⟨hlater, hstill⟩, rfl, hsteady, rfl, fun _ => rfl⟩
  have hnext : (Lifetime.unforced life.definitions env).process platform ⟨m.store, none, m.log⟩ =
      (engineOn m.store life.definitions).run platform env none false ⟨m.store, none, m.log⟩ :=
    process_eq_run (Lifetime.unforced life.definitions env) hvalid
      (m := ⟨m.store, none, m.log⟩) hstill.topology
  have hengine : engineOn m.store life.definitions = engineOn root life.definitions :=
    engineOn_eq hstill rfl
  rw [hnext, hengine]
  generalize (engineOn root life.definitions).run platform env none false
    ⟨m.store, none, m.log⟩ = ended at hrest ⊢
  obtain ⟨outcome, m'⟩ := ended
  cases outcome with
  | raised e => exact hrest.elim
  | died => exact hrest.elim
  | returned next =>
    obtain ⟨⟨⟨_, hopen⟩, hresting⟩, hnothing, later, rfl⟩ := hrest
    have hsame := report_congr platform hstill hopen
      (fun definition hmem => ⟨(hsteady definition hmem).1, (hresting.steady definition hmem).1⟩)
      hresting.artifact actions later scope []
    exact ⟨_, m', rfl, hsame.1, hsame.2, hnothing, hresting.began⟩

end Steady

/-! ## The small run -/

/-- The tree with every published attempt of a stage emptied. -/
def emptied (tree : ArtifactTree Bytes) (damaged : StageId) : ArtifactTree Bytes :=
  fun stageId cacheKey =>
    match tree stageId cacheKey with
    | .directory entries => .directory (entries.map (fun entry =>
        if stageId = damaged then (entry.1, .directory []) else entry))
    | root => root

/-- An emptied attempt does not verify, so emptying makes up no attempt. -/
theorem Counted.emptied {platform : Platform Bytes} {root : RunRoot Bytes}
    (h : Counted platform root) (damaged : StageId) :
    Counted platform { root with artifacts := emptied root.artifacts damaged } := by
  intro stageId cacheKey name files attempt hmem hverify
  unfold Runstate.emptied at hmem
  dsimp only at hmem
  split at hmem
  · rename_i entries hroot
    obtain ⟨entry, hentry, heq⟩ := List.mem_map.mp hmem
    split at heq
    · obtain ⟨rfl, hfiles⟩ := Prod.mk.inj heq
      cases hfiles
      cases hverify
    · subst heq
      refine h stageId cacheKey name files attempt ?_ hverify
      rw [hroot]
      exact hentry
  · exact h stageId cacheKey name files attempt hmem hverify

/-- What a process reports of completion. -/
def reportedComplete : Outcome RunError RunExecutionReport → Option Bool
  | .returned report => some report.complete
  | _ => none

theorem reportedComplete_eq_some {outcome : Outcome RunError RunExecutionReport} {complete : Bool}
    (h : reportedComplete outcome = some complete) :
    ∃ report, outcome = .returned report ∧ report.complete = complete := by
  cases outcome with
  | returned report => exact ⟨report, rfl, Option.some.inj h⟩
  | raised e => cases h
  | died => cases h

/-- The small run, with the published attempts of its last stage emptied. -/
def smallDamaged : RunMachine SmallBytes :=
  smallDisturbed (emptied smallComplete.store.artifacts "report") smallComplete

/-- The small run, executed again after the damage. -/
def smallRepaired : RunMachine SmallBytes :=
  smallAfter (smallLife (smallDefinitions "1") (some "report")) smallDamaged

theorem smallAfter_corrupting (life : Lifetime SmallBytes) {m : RunMachine SmallBytes}
    (h : Reaches (Setting.corrupting smallPlatform) smallStart m.log m.store) :
    Reaches (Setting.corrupting smallPlatform) smallStart (smallAfter life m).log
      (smallAfter life m).store :=
  Reaches.next h trivial

theorem smallComplete_corrupting :
    Reaches (Setting.corrupting smallPlatform) smallStart smallComplete.log smallComplete.store :=
  have hvalid : validateStageDefinitions (smallDefinitions "1") = .ok () := by decide +kernel
  smallAfter_corrupting _ (.created hvalid rfl)

theorem smallDamaged_corrupting :
    Reaches (Setting.corrupting smallPlatform) smallStart smallDamaged.log smallDamaged.store :=
  .disturbed smallComplete_corrupting
    (Counted.emptied (counted_of_history Counted.created smallComplete_corrupting.history.2) _)

/-- The forced run reports completion, because it has executed the stage once more;
the next one verifies the emptied attempt too, and does not. -/
theorem complete_run_undone :
    Reaches (Setting.corrupting smallPlatform) smallStart smallDamaged.log smallDamaged.store ∧
    ∃ report m next m',
      (smallLife (smallDefinitions "1") (some "report")).process smallPlatform
          ⟨smallDamaged.store, none, smallDamaged.log⟩ = (.returned report, m) ∧
        report.complete = true ∧
        (Lifetime.unforced (smallDefinitions "1") smallEnv).process smallPlatform
          ⟨m.store, none, m.log⟩ = (.returned next, m') ∧
        next.complete = false := by
  have hfirst : reportedComplete ((smallLife (smallDefinitions "1") (some "report")).process
      smallPlatform ⟨smallDamaged.store, none, smallDamaged.log⟩).1 = some true := by
    decide +kernel
  have hsecond : reportedComplete ((Lifetime.unforced (smallDefinitions "1") smallEnv).process
      smallPlatform ⟨smallRepaired.store, none, smallRepaired.log⟩).1 = some false := by
    decide +kernel
  obtain ⟨report, hreport, hcomplete⟩ := reportedComplete_eq_some hfirst
  obtain ⟨next, hnext, hundone⟩ := reportedComplete_eq_some hsecond
  exact ⟨smallDamaged_corrupting, report, smallRepaired, next, _,
    process_eq_smallAfter _ smallDamaged hreport, hcomplete,
    process_eq_smallAfter (Lifetime.unforced (smallDefinitions "1") smallEnv) smallRepaired hnext,
    hundone⟩

/-- The small run, its last stage executed again. -/
def smallRerun : RunMachine SmallBytes :=
  smallAfter (smallLife (smallDefinitions "1") (some "report")) smallComplete

/-- On the complete small run, a forced run and then the next one. -/
theorem complete_run_stable_small : ∃ report m next m',
    (smallLife (smallDefinitions "1") (some "report")).process smallPlatform
        ⟨smallComplete.store, none, smallComplete.log⟩ = (.returned report, m) ∧
      beganNumbers "report" m.log = [1, 2] ∧
      (Lifetime.unforced (smallDefinitions "1") smallEnv).process smallPlatform
        ⟨m.store, none, m.log⟩ = (.returned next, m') ∧
      next.complete = true ∧ next.semanticSha256 = report.semanticSha256 ∧
      beganNumbers "report" m'.log = [1, 2] := by
  have hfirst : reportedComplete ((smallLife (smallDefinitions "1") (some "report")).process
      smallPlatform ⟨smallComplete.store, none, smallComplete.log⟩).1 = some true := by
    decide +kernel
  obtain ⟨report, hreport, hcomplete⟩ := reportedComplete_eq_some hfirst
  have hbegan : beganNumbers "report" smallRerun.log = [1, 2] := by decide +kernel
  have hreadable : (smallDefinitions "1").all (fun definition =>
      (smallRerun.store.database.stage definition.stageId).cacheKey.all (fun key =>
        (selectPublished smallPlatform smallRerun.store.database.inputs.workflowId definition key
          smallRerun.store.artifacts).isOk)) = true := by decide +kernel
  have hselected : ∀ definition ∈ smallDefinitions "1", ∀ key,
      (smallRerun.store.database.stage definition.stageId).cacheKey = some key →
      ∃ published, selectPublished smallPlatform smallRerun.store.database.inputs.workflowId
        definition key smallRerun.store.artifacts = .ok published := by
    intro definition hmem key hkey
    have hok := List.all_eq_true.mp hreadable definition hmem
    rw [hkey, Option.all_some] at hok
    cases hread : selectPublished smallPlatform smallRerun.store.database.inputs.workflowId
        definition key smallRerun.store.artifacts with
    | ok published => exact ⟨published, rfl⟩
    | error e =>
      rw [hread] at hok
      cases hok
  have hprocess : (smallLife (smallDefinitions "1") (some "report")).process smallPlatform
      ⟨smallComplete.store, none, smallComplete.log⟩ = (.returned report, smallRerun) :=
    process_eq_smallAfter (smallLife (smallDefinitions "1") (some "report")) smallComplete hreport
  obtain ⟨next, m', hnext, hdone, hsha, _, hkept⟩ := complete_run_stable smallComplete_corrupting
    rfl hprocess hcomplete hselected smallEnv
  exact ⟨report, smallRerun, next, m', hprocess, hbegan, hnext, hdone, hsha,
    (hkept "report").trans hbegan⟩

end CartoSentry.Runstate
