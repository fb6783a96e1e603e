import CartoSentry.Runstate.Attempt
import CartoSentry.Runstate.Reconciliation

set_option autoImplicit false

/-!
# Run state: what executing a stage does

Triples for `_execute_stage` and for the loop of `run` that calls it.  As in
`Reconciliation` they hold for any assertion the engine's steps preserve.
`Executed` is what an execution that returns has done; `Productive` lists what
has to hold for an execution to return.
-/

namespace CartoSentry.Runstate

open CartoSentry.Foundation RunEngine

variable {Bytes : Type}

/-- When nothing is raised during execution. -/
structure Productive (platform : Platform Bytes) (engine : RunEngine Bytes) (env : ProcessEnv)
    (I : RunMachine Bytes → Prop) : Prop extends Untroubled platform engine I where
  proceeds : ∀ boundary stageId, env.crashCallback boundary stageId = .proceed
  outputs : ∀ definition ∈ engine.definitions, ValidOutputs platform engine.inputs definition
  portable : ∀ m, I m → isPortableRun (runArtifactOf m.store.database) = true
  admits : ∀ m, I m → ∀ definition ∈ engine.definitions, ∀ row : AttemptRow,
    row.stageId = definition.stageId →
    row.attemptNumber = (m.store.database.stage definition.stageId).attemptCounter + 1 →
    (∃ uuid, row.attemptId = .issued row.stageId row.attemptNumber uuid) →
    m.store.database.admitsAttempt row = true
  unused : ∀ m, I m → ∀ definition ∈ engine.definitions, ∀ uuid,
    m.store.attempts.lookup (.issued definition.stageId
      ((m.store.database.stage definition.stageId).attemptCounter + 1) uuid) = none
  unpublished : ∀ m, I m → ∀ definition ∈ engine.definitions, ∀ cacheKey uuid,
    m.store.artifacts definition.stageId cacheKey ≠ .notDirectory ∧
    (m.store.artifacts definition.stageId cacheKey).entries.lookup (.issued definition.stageId
      ((m.store.database.stage definition.stageId).attemptCounter + 1) uuid) = none

/-- What an execution that returns has done. -/
structure Executed (platform : Platform Bytes) (engine : RunEngine Bytes)
    (definition : StageDefinition Bytes) (root : RunRoot Bytes) (key : Sha256)
    (attemptId : AttemptId) (manifest : AttemptManifest) (payloads : List (ArtifactPayload Bytes))
    (next : RunRoot Bytes) : Prop where
  hasKey : HasKey platform engine root definition key
  begins : RunDatabase.canBegin (root.database.stage definition.stageId).state = true
  executed : ∃ upstream, upstreamHashes root.database definition.dependencies = .ok upstream ∧
    executeValidated definition ⟨engine.inputs, definition.stageId, key, upstream⟩ = .ok payloads
  described : List.Forall₂ (fun payload entry => manifestEntry platform payload = .ok entry)
    (sortedPayloads payloads) manifest.artifacts
  stageId : manifest.stageId = definition.stageId
  number : manifest.attemptNumber =
    (root.database.stage definition.stageId).attemptCounter + 1
  name : manifest.attemptId = attemptId
  cacheKey : manifest.cacheKey = key
  stage : next.database.stage = Function.update root.database.stage definition.stageId
    (RunDatabase.completedRow
      (RunDatabase.begunRow (root.database.stage definition.stageId) attemptId key) manifest)
  artifact : next.database.artifact = Function.update root.database.artifact definition.stageId
    (manifest.artifacts.map (RunDatabase.artifactRowOf ⟨definition.stageId, key, attemptId⟩))
  tree : next.artifacts = root.artifacts.set definition.stageId key (.directory
    ((root.artifacts definition.stageId key).entries ++ [(attemptId, .directory
      ((sortedPayloads payloads).map payloadFile
        ++ [(attemptManifestFile, platform.manifests.encode manifest)]))]))
  read : ((sortedPayloads payloads).map payloadFile ++
    [(attemptManifestFile, platform.manifests.encode manifest)]).lookup attemptManifestFile =
      some (platform.manifests.encode manifest)

section Triples

variable {platform : Platform Bytes} {engine : RunEngine Bytes} {forceStage : Option StageId}
  {env : ProcessEnv} {I B : RunMachine Bytes → Prop} {calm : Prop}

/-- Ending as an execution does: `I` throughout, and nothing refused by the database. -/
def executing {α : Type} (I : RunMachine Bytes → Prop) (calm : Prop)
    (returned : α → RunMachine Bytes → Prop) :
    Post (RunRoot Bytes) (Label Bytes) RunError α where
  returned a m := I m ∧ returned a m
  raised e m := ¬ calm ∧ e.isRefusal = false ∧ I m
  died m := ¬ calm ∧ I m

/-! ## Effects of an execution -/

theorem call_triple (hcalm : calm → Productive platform engine env I)
    {boundary : CommitBoundary} {stageId : StageId} {F : RunMachine Bytes → Prop} :
    Triple (fun m => I m ∧ F m) (env.call boundary stageId) (executing I calm (fun _ => F)) := by
  unfold ProcessEnv.call
  cases hsignal : env.crashCallback boundary stageId with
  | proceed => exact Triple.obey (fun _ h => h) (fun _ h => by cases h) (fun h => by cases h)
  | raise message =>
    refine Triple.obey (fun _ h => h) ?_ (fun h => by cases h)
    rintro e h m hm
    cases h
    refine ⟨fun hc => ?_, rfl, hm.1⟩
    rw [(hcalm hc).proceeds] at hsignal
    cases hsignal
  | die =>
    refine Triple.obey (fun _ h => h) (fun _ h => by cases h) (fun _ m hm => ⟨fun hc => ?_, hm.1⟩)
    rw [(hcalm hc).proceeds] at hsignal
    cases hsignal

theorem export_triple (hI : Preserved platform engine forceStage I B)
    (hcalm : calm → Productive platform engine env I) {F : RunMachine Bytes → Prop}
    (hF : ∀ m artifact, F m → F (m.after .exported { m.store with runArtifact := artifact })) :
    Triple (fun m => I m ∧ F m) exportRunArtifact (executing I calm (fun _ m => F m ∧
      isPortableRun (runArtifactOf m.store.database) = true)) := by
  refine Triple.transact (fun m hm hlife => ⟨not_calm_of_dead (fun hc => (hcalm hc).lives) hm.1 hlife, hm.1⟩) ?_ ?_
  · rintro m e ⟨hIm, _⟩ herror
    dsimp only at herror
    split at herror
    · exact absurd herror (by simp)
    · rename_i hportable
      obtain rfl := Except.error.inj herror
      exact ⟨fun hc => hportable ((hcalm hc).portable m hIm), rfl, hIm⟩
  · rintro m c ⟨hIm, hFm⟩ hok
    dsimp only at hok
    split at hok
    · rename_i hportable
      obtain rfl := Except.ok.inj hok
      exact ⟨hI.effect m _ _ hIm .exported, hF m _ hFm, hportable⟩
    · exact absurd hok (by simp)

/-- The handler of `_execute_stage` raises nothing the database refuses. -/
theorem failAttempt_triple (hI : Preserved platform engine forceStage I B)
    (hcalm : calm → Productive platform engine env I) {definition : StageDefinition Bytes}
    (hmem : definition ∈ engine.definitions) :
    Triple I (failAttempt definition) (executing I calm (fun _ _ => True)) := by
  refine Triple.perStore (fun root => ?_)
  refine Triple.assume (F := definition.stageId ∈ root.database.stageIds) ?_ (fun hstage => ?_)
  · rintro m ⟨hIm, rfl⟩
    exact (hI.opened m hIm).mem_stageIds hmem
  unfold failAttempt
  refine Triple.readKnown (s := root) (fun m hm => hm.2) ?_
  refine Triple.ofExceptKnown (RunDatabase.stageRow_of_mem hstage) ?_
  refine Triple.ite (fun hrunning => ?_) (fun _ => Triple.pure (fun m hm => ⟨hm.1, trivial⟩))
  refine Triple.bind (R := fun _ m => I m ∧ True) ?_ (fun _ =>
    (export_triple hI hcalm (fun _ _ h => h)).weaken (fun _ h => h)
      (fun _ _ h => ⟨h.1, trivial⟩) (fun _ _ h => h) (fun _ h => h))
  refine markState_triple (fun m hm => hm.2) hstage (by rw [hrunning]; rfl) ?_ ?_
  · exact fun m hm hlife => ⟨not_calm_of_dead (fun hc => (hcalm hc).lives) hm.1 hlife, hm.1⟩
  · rintro m next ⟨hIm, rfl⟩ hcommit
    exact ⟨hI.effect m _ _ hIm (.failedRetryable hmem hrunning hcommit), trivial⟩

/-! ## Writing an attempt -/

section Attempt

variable {definition : StageDefinition Bytes} {attemptId : AttemptId}

theorem lookup_setAttempt (attempts : List (AttemptId × AttemptFiles Bytes)) (attemptId : AttemptId)
    (files : AttemptFiles Bytes) :
    (setAttempt attempts attemptId files).lookup attemptId = some files := by
  simp [setAttempt]

/-- The engine is at work on an attempt: the database and the published tree are
those given, and the attempt directory holds these files. -/
def Attempting (database : RunDatabase) (tree : ArtifactTree Bytes) (attemptId : AttemptId)
    (files : AttemptFiles Bytes) (m : RunMachine Bytes) : Prop :=
  m.store.database = database ∧ m.store.artifacts = tree ∧
    m.store.attempts.lookup attemptId = some files

variable {database : RunDatabase} {tree : ArtifactTree Bytes}

theorem writeAttemptFile_triple (hI : Preserved platform engine forceStage I B)
    (hcalm : calm → Productive platform engine env I) {files : AttemptFiles Bytes}
    {path : RelativePath} {content : Bytes}
    (hname : (database.stage definition.stageId).attemptId = some attemptId)
    (hcreate : calm → canCreate files path = true) :
    Triple (fun m => I m ∧ Attempting database tree attemptId files m)
      (writeAttemptFile attemptId path content)
      (executing I calm (fun _ m => canCreate files path = true ∧
        Attempting database tree attemptId (files ++ [(path, content)]) m)) := by
  refine Triple.transact ?_ ?_ ?_
  · exact fun m hm hlife => ⟨not_calm_of_dead (fun hc => (hcalm hc).lives) hm.1 hlife, hm.1⟩
  · rintro m e ⟨hIm, hdatabase, htree, hfiles⟩ herror
    rw [hfiles] at herror
    dsimp only at herror
    split at herror
    · rename_i hblocked
      obtain rfl := Except.error.inj herror
      exact ⟨fun hc => hblocked (hcreate hc), rfl, hIm⟩
    · exact absurd herror (by simp)
  · rintro m c ⟨hIm, hdatabase, htree, hfiles⟩ hok
    rw [hfiles] at hok
    dsimp only at hok
    split at hok
    · exact absurd hok (by simp)
    · rename_i hcreated
      obtain rfl := Except.ok.inj hok
      have hrow : (m.store.database.stage definition.stageId).attemptId = some attemptId := by
        rw [hdatabase]
        exact hname
      exact ⟨hI.effect m _ _ hIm (.attemptChanged hrow), by simpa using hcreated, hdatabase, htree,
        lookup_setAttempt _ _ _⟩

/-- A pure computation of an execution, whose errors are not refusals. -/
theorem ofExcept_triple {α β : Type} {x : Except RunError α} {f : α → EngineProc Bytes β}
    {F : RunMachine Bytes → Prop} {R : β → RunMachine Bytes → Prop}
    (hok : calm → ∃ a, x = .ok a) (herror : ∀ e, x = .error e → e.isRefusal = false)
    (hf : ∀ a, x = .ok a → Triple (fun m => I m ∧ F m) (f a) (executing I calm R)) :
    Triple (fun m => I m ∧ F m) (Proc.ofExcept x >>= f) (executing I calm R) := by
  cases hx : x with
  | ok a => exact Triple.ofExceptKnown rfl (hf a hx)
  | error e =>
    refine Triple.bind (R := fun _ _ => False) (Triple.raise (fun m hm => ?_)) (fun _ m h => h.elim)
    refine ⟨fun hc => ?_, herror e hx, hm.1⟩
    obtain ⟨a, ha⟩ := hok hc
    rw [hx] at ha
    cases ha

/-- The loop that writes the payloads: every file is written and every entry described. -/
theorem writeOutputs_triple (hI : Preserved platform engine forceStage I B)
    (hcalm : calm → Productive platform engine env I)
    (hname : (database.stage definition.stageId).attemptId = some attemptId) :
    ∀ (payloads : List (ArtifactPayload Bytes)) (files : AttemptFiles Bytes),
      (calm → ∀ payload ∈ payloads, checkPayload payload = .ok () ∧
        ∃ entry, manifestEntry platform payload = .ok entry) →
      (calm → PathsApart (files.map Prod.fst ++ payloads.map ArtifactPayload.relativePath)) →
      Triple (fun m => I m ∧ Attempting database tree attemptId files m)
        (writeOutputs platform attemptId payloads)
        (executing I calm (fun entries m =>
          List.Forall₂ (fun payload entry => manifestEntry platform payload = .ok entry)
            payloads entries ∧
          Attempting database tree attemptId (files ++ payloads.map payloadFile) m)) := by
  intro payloads
  induction payloads with
  | nil =>
    intro files _ _
    refine Triple.pure (fun m hm => ⟨hm.1, .nil, ?_⟩)
    simpa using hm.2
  | cons payload rest ih =>
    intro files hwritable hapart
    unfold writeOutputs
    refine ofExcept_triple (fun hc => ⟨(), (hwritable hc payload List.mem_cons_self).1⟩)
      (fun e => checkPayload_eq_error) (fun _ _ => ?_)
    refine Triple.bind
      (R := fun _ m => I m ∧ Attempting database tree attemptId (files ++ [payloadFile payload]) m)
      ((writeAttemptFile_triple hI hcalm hname (fun hc => canCreate_of_apart (hapart hc))).weaken
        (fun _ h => h) (fun _ m hm => ⟨hm.1, hm.2.2⟩) (fun _ _ h => h) (fun _ h => h)) (fun _ => ?_)
    refine ofExcept_triple (fun hc => (hwritable hc payload List.mem_cons_self).2)
      (fun e => manifestEntry_eq_error) (fun entry hentry => ?_)
    refine Triple.bind (ih (files ++ [payloadFile payload])
      (fun hc other hother => hwritable hc other (List.mem_cons_of_mem _ hother)) ?_)
      (fun entries => Triple.pure ?_)
    · intro hc
      have := hapart hc
      simpa [payloadFile] using this
    · rintro m ⟨hIm, hentries, hattempting⟩
      refine ⟨hIm, .cons hentry hentries, ?_⟩
      simpa using hattempting

theorem makeCacheRoot_triple (hI : Preserved platform engine forceStage I B)
    (hcalm : calm → Productive platform engine env I) {stageId : StageId} {key : Sha256}
    {files : AttemptFiles Bytes} (hroot : calm → tree stageId key ≠ .notDirectory) :
    Triple (fun m => I m ∧ Attempting database tree attemptId files m) (makeCacheRoot stageId key)
      (executing I calm (fun _ => Attempting database
        (tree.set stageId key (.directory (tree stageId key).entries)) attemptId files)) := by
  refine Triple.transact ?_ ?_ ?_
  · exact fun m hm hlife => ⟨not_calm_of_dead (fun hc => (hcalm hc).lives) hm.1 hlife, hm.1⟩
  · rintro m e ⟨hIm, _, rfl, _⟩ herror
    split at herror
    · exact absurd herror (by simp)
    · rename_i hnot
      obtain rfl := Except.error.inj herror
      exact ⟨fun hc => hroot hc hnot, rfl, hIm⟩
    · exact absurd herror (by simp)
  · rintro m c ⟨hIm, hdatabase, rfl, hfiles⟩ hok
    split at hok
    · rename_i hmissing
      obtain rfl := Except.ok.inj hok
      refine ⟨hI.effect m _ _ hIm (.cacheRootCreated hmissing), hdatabase, ?_, hfiles⟩
      rw [hmissing]
      rfl
    · exact absurd hok (by simp)
    · rename_i entries hentries
      obtain rfl := Except.ok.inj hok
      refine ⟨hI.effect m _ _ hIm .cacheRootMade, hdatabase, ?_, hfiles⟩
      rw [hentries]
      exact (ArtifactTree.set_eq_self _ hentries).symm

theorem Produced.of_database {root next : RunRoot Bytes} {key : Sha256}
    {files : AttemptFiles Bytes} {manifest : AttemptManifest}
    (h : Produced platform engine root definition key attemptId files manifest)
    (hdatabase : next.database = root.database) :
    Produced platform engine next definition key attemptId files manifest := by
  obtain ⟨hmem, hkey, hrunning, hname, hproduced⟩ := h
  unfold HasKey at hkey
  rw [← hdatabase] at hkey hrunning hname hproduced
  exact ⟨hmem, hkey, hrunning, hname, hproduced⟩

/-- The rename that publishes an attempt. -/
theorem publishDirectory_triple (hI : Preserved platform engine forceStage I B)
    (hcalm : calm → Productive platform engine env I) {root : RunRoot Bytes} {key : Sha256}
    {files : AttemptFiles Bytes} {manifest : AttemptManifest}
    {entries : List (AttemptId × CacheEntry Bytes)}
    (hproduced : Produced platform engine root definition key attemptId files manifest)
    (hread : files.lookup attemptManifestFile = some (platform.manifests.encode manifest))
    (hentries : tree definition.stageId key = .directory entries)
    (hnew : calm → entries.lookup attemptId = none) :
    Triple (fun m => I m ∧ Attempting root.database tree attemptId files m)
      (publishDirectory definition.stageId key attemptId)
      (executing I calm (fun _ m => entries.lookup attemptId = none ∧
        m.store.database = root.database ∧
        m.store.artifacts = tree.set definition.stageId key
          (.directory (entries ++ [(attemptId, .directory files)])))) := by
  refine Triple.transact ?_ ?_ ?_
  · exact fun m hm hlife => ⟨not_calm_of_dead (fun hc => (hcalm hc).lives) hm.1 hlife, hm.1⟩
  · rintro m e ⟨hIm, _, rfl, hfiles⟩ herror
    rw [hfiles, hentries] at herror
    dsimp only at herror
    split at herror
    · rename_i hthere
      obtain rfl := Except.error.inj herror
      refine ⟨fun hc => ?_, rfl, hIm⟩
      rw [hnew hc] at hthere
      exact absurd hthere (by simp)
    · exact absurd herror (by simp)
  · rintro m c ⟨hIm, hdatabase, rfl, hfiles⟩ hok
    rw [hfiles, hentries] at hok
    dsimp only at hok
    split at hok
    · exact absurd hok (by simp)
    · rename_i hthere
      obtain rfl := Except.ok.inj hok
      refine ⟨hI.effect m _ _ hIm (.published (hproduced.of_database hdatabase) hread hentries),
        ?_, hdatabase, rfl⟩
      exact Option.not_isSome_iff_eq_none.mp hthere

/-- What the body of the `try` of `_execute_stage` has done when it returns. -/
structure Publication (platform : Platform Bytes) (engine : RunEngine Bytes)
    (definition : StageDefinition Bytes) (root : RunRoot Bytes) (key : Sha256)
    (attemptId : AttemptId) (attemptNumber : Nat) (manifest : AttemptManifest)
    (payloads : List (ArtifactPayload Bytes)) (next : RunRoot Bytes) : Prop where
  executed : ∃ upstream, upstreamHashes root.database definition.dependencies = .ok upstream ∧
    executeValidated definition ⟨engine.inputs, definition.stageId, key, upstream⟩ = .ok payloads
  described : List.Forall₂ (fun payload entry => manifestEntry platform payload = .ok entry)
    (sortedPayloads payloads) manifest.artifacts
  built : engine.attemptManifest definition.stageId attemptId attemptNumber key
    manifest.artifacts = .ok manifest
  completed : RunDatabase.Completed root.database manifest ⟨definition.stageId, key, attemptId⟩
    next.database
  tree : next.artifacts = root.artifacts.set definition.stageId key (.directory
    ((root.artifacts definition.stageId key).entries ++ [(attemptId, .directory
      ((sortedPayloads payloads).map payloadFile
        ++ [(attemptManifestFile, platform.manifests.encode manifest)]))]))
  read : ((sortedPayloads payloads).map payloadFile ++
    [(attemptManifestFile, platform.manifests.encode manifest)]).lookup attemptManifestFile =
      some (platform.manifests.encode manifest)

theorem upsertAttempt_of_row {database : RunDatabase} {manifest : AttemptManifest} {sha : Sha256}
    (h : ∃ row ∈ database.attempt, row.attemptId = manifest.attemptId) :
    ∃ rows, database.upsertAttempt manifest sha = .ok rows := by
  obtain ⟨row, hrow, hname⟩ := h
  unfold RunDatabase.upsertAttempt
  rw [if_pos (List.any_eq_true.mpr ⟨row, hrow, by simpa using hname⟩)]
  exact ⟨_, rfl⟩

/-- The end of an execution, from the rename on: the directory is read back, the
pointer is written and the completion recorded. -/
theorem finishAttempt_triple (hI : Preserved platform engine forceStage I B)
    (hcalm : calm → Productive platform engine env I) {root : RunRoot Bytes} {key : Sha256}
    {files : AttemptFiles Bytes} {manifest : AttemptManifest}
    {entries : List (AttemptId × CacheEntry Bytes)} (hopened : Opened engine root)
    (hproduced : Produced platform engine root definition key attemptId
      (files ++ [(attemptManifestFile, platform.manifests.encode manifest)]) manifest)
    (hrow : ∃ row ∈ root.database.attempt, row.attemptId = manifest.attemptId)
    (hstage : manifest.stageId = definition.stageId)
    (hcreated : canCreate files attemptManifestFile = true)
    (hnew : entries.lookup attemptId = none)
    (hverified : calm → ∃ published, verifyAttemptDirectory platform
      ⟨definition.stageId, key, attemptId⟩
      (files ++ [(attemptManifestFile, platform.manifests.encode manifest)]) = .ok published)
    (htree : tree definition.stageId key = .directory (entries ++ [(attemptId, .directory
      (files ++ [(attemptManifestFile, platform.manifests.encode manifest)]))])) :
    Triple (fun m => I m ∧ m.store.database = root.database ∧ m.store.artifacts = tree)
      (do
        let current ← Proc.read
        let published ← Proc.ofExcept
          (verifyPublished platform ⟨definition.stageId, key, attemptId⟩ current.artifacts)
        let _ ← engine.publishPointer platform published
        env.call .afterPointerPublished definition.stageId
        Runstate.recordComplete manifest published.manifestSha256
          ⟨definition.stageId, key, attemptId⟩
        exportRunArtifact
        env.call .afterDbCommitted definition.stageId)
      (executing I calm (fun _ m => RunDatabase.Completed root.database manifest
        ⟨definition.stageId, key, attemptId⟩ m.store.database ∧ m.store.artifacts = tree)) := by
  have hmem := hproduced.mem
  refine Triple.readBind (fun current => ?_)
  refine Triple.assume (F := current.artifacts = tree) ?_ (fun hcurrent => ?_)
  · rintro m ⟨⟨_, _, htree⟩, rfl⟩
    exact htree
  have hverify : verifyPublished platform ⟨definition.stageId, key, attemptId⟩ current.artifacts =
      verifyAttemptDirectory platform ⟨definition.stageId, key, attemptId⟩
        (files ++ [(attemptManifestFile, platform.manifests.encode manifest)]) := by
    unfold verifyPublished
    rw [hcurrent, htree]
    dsimp only
    rw [List.lookup_append, hnew]
    simp
  rw [hverify]
  refine (ofExcept_triple hverified (fun e => verifyAttemptDirectory_eq_error)
    (fun published hpublished => ?_)).strengthenPre (fun m hm => hm.1)
  refine Triple.bind (R := fun _ m => I m ∧ m.store.database = root.database ∧
    m.store.artifacts = tree) ?_ (fun _ => ?_)
  · refine (publishPointer_triple (P := fun m => I m ∧ m.store.database = root.database ∧
      m.store.artifacts = tree) ?_).weaken (fun _ h => h) (fun _ _ h => h) (fun _ _ h => h.elim) ?_
    · rintro m content ⟨hIm, hdatabase, htree⟩
      exact ⟨hI.effect m _ _ hIm .pointerWritten, hdatabase, htree⟩
    · exact fun m hm => ⟨not_calm_of_dead (fun hc => (hcalm hc).lives) hm.1.1 hm.2, hm.1.1⟩
  refine Triple.bind (call_triple hcalm) (fun _ => ?_)
  refine Triple.bind (R := fun _ m => I m ∧ RunDatabase.Completed root.database manifest
    ⟨definition.stageId, key, attemptId⟩ m.store.database ∧ m.store.artifacts = tree) ?_ (fun _ => ?_)
  · obtain ⟨rows, hrows⟩ :
        ∃ rows, root.database.upsertAttempt manifest published.manifestSha256 = .ok rows :=
      upsertAttempt_of_row hrow
    refine Triple.transact ?_ ?_ ?_
    · exact fun m hm hlife => ⟨not_calm_of_dead (fun hc => (hcalm hc).lives) hm.1 hlife, hm.1⟩
    · rintro m e ⟨_, hdatabase, _⟩ herror
      rw [hdatabase] at herror
      split at herror
      · rename_i found hfound
        have hreconciles : RunDatabase.canReconcile
            (root.database.stage manifest.stageId).state = true := by
          rw [hstage, hproduced.running]; rfl
        obtain ⟨_, hupsert⟩ := recordComplete_eq_error hfound
          (hstage ▸ hopened.mem_stageIds hmem) hreconciles
        rw [hrows] at hupsert
        exact absurd hupsert (by simp)
      · exact absurd herror (by simp)
    · rintro m c ⟨hIm, hdatabase, hartifacts⟩ hok
      split at hok
      · exact absurd hok (by simp)
      · rename_i next hnext
        obtain rfl := Except.ok.inj hok
        have hroot : m.store.artifacts definition.stageId key = _ := hartifacts ▸ htree
        refine ⟨hI.effect m _ _ hIm (.executed (hproduced.of_database hdatabase) hroot
          (by simp) (lookup_manifestFile hcreated)
          (manifest_of_verified (lookup_manifestFile hcreated) hpublished).1
          hnext), ?_, hartifacts⟩
        rw [hdatabase] at hnext
        exact RunDatabase.recordComplete_eq_ok hnext
  refine Triple.bind (export_triple hI hcalm (fun _ _ h => h)) (fun _ => ?_)
  exact (call_triple hcalm).strengthenPre (fun m hm => ⟨hm.1, hm.2.1⟩)

/-- The body of the `try` of `_execute_stage`, from a known root. -/
theorem publishAttempt_triple (hI : Preserved platform engine forceStage I B)
    (hcalm : calm → Productive platform engine env I) {root : RunRoot Bytes} {key : Sha256}
    {attemptNumber : Nat} (hmem : definition ∈ engine.definitions) (hopened : Opened engine root)
    (hkey : HasKey platform engine root definition key)
    (hrunning : (root.database.stage definition.stageId).state = .running)
    (hname : (root.database.stage definition.stageId).attemptId = some attemptId)
    (hnumber : attemptNumber = (root.database.stage definition.stageId).attemptCounter)
    (hpos : 0 < attemptNumber)
    (hrow : ∃ row ∈ root.database.attempt, row.attemptId = attemptId)
    (hfiles : root.attempts.lookup attemptId = some [])
    (hnew : calm → root.artifacts definition.stageId key ≠ .notDirectory ∧
      (root.artifacts definition.stageId key).entries.lookup attemptId = none) :
    Triple (fun m => I m ∧ m.store = root)
      (engine.publishAttempt platform env definition key attemptId attemptNumber)
      (executing I calm (fun _ m => ∃ manifest payloads, Publication platform engine definition
        root key attemptId attemptNumber manifest payloads m.store)) := by
  obtain ⟨upstream, hupstream⟩ := upstreamHashes_eq_ok (cacheKey_complete hkey)
  have hvalid := fun hc => ((hcalm hc).outputs definition hmem).2 key upstream
  unfold RunEngine.publishAttempt
  refine Triple.readKnown (s := root) (fun m hm => hm.2) ?_
  refine Triple.ofExceptKnown hupstream ?_
  refine ofExcept_triple (fun hc => (hvalid hc).imp (fun _ h => h.1))
    (fun e => executeValidated_eq_error) (fun payloads hpayloads => ?_)
  have hdelivered := executeValidated_eq_ok hpayloads
  have hperm := perm_sortedPayloads payloads
  have hwritable : calm → Writable platform payloads := by
    intro hc
    obtain ⟨found, hfound, hwritable⟩ := hvalid hc
    rw [hpayloads] at hfound
    exact Except.ok.inj hfound ▸ hwritable
  have hapart : calm → PathsApart
      ((sortedPayloads payloads).map ArtifactPayload.relativePath ++ [attemptManifestFile]) := by
    intro hc
    have hpermPaths := (hperm.map ArtifactPayload.relativePath).append_right [attemptManifestFile]
    exact (hpermPaths.pairwise_iff (fun h => ⟨h.2, h.1⟩)).mpr (hwritable hc).apart
  have hsortedPaths : (sortedPayloads payloads).map ArtifactPayload.relativePath =
      ((sortedPayloads payloads).map payloadFile).map Prod.fst := by simp [payloadFile]
  -- the payloads are written
  refine Triple.bind (R := fun entries m => I m ∧
    List.Forall₂ (fun payload entry => manifestEntry platform payload = .ok entry)
      (sortedPayloads payloads) entries ∧
    Attempting root.database root.artifacts attemptId
      ((sortedPayloads payloads).map payloadFile) m) ?_ (fun entries => ?_)
  · refine (writeOutputs_triple hI hcalm hname (sortedPayloads payloads) [] (fun hc payload hp => ?_)
      (fun hc => ?_)).weaken ?_ ?_ (fun _ _ h => h) (fun _ h => h)
    · exact ⟨(hwritable hc).checked payload (hperm.mem_iff.mp hp),
        (hwritable hc).described payload (hperm.mem_iff.mp hp)⟩
    · exact (List.pairwise_append.mp (hapart hc)).1
    · rintro m ⟨hIm, rfl⟩
      exact ⟨hIm, rfl, rfl, hfiles⟩
    · exact fun entries m hm => hm
  refine Triple.assume (fun m hm => hm.2.1) (fun hdescribed => ?_)
  refine (Triple.bind (call_triple hcalm) (fun _ => ?_)).strengthenPre
    (fun m hm => ⟨hm.1, hm.2.2⟩)
  -- the manifest is built and written
  refine ofExcept_triple (fun hc => ?_) (fun e => attemptManifest_eq_error)
    (fun manifest hmanifest => ?_)
  · exact exists_attemptManifest ((hcalm hc).outputs definition hmem).1 hpos
      (hopened.valid.outputs definition hmem) hdelivered hdescribed
  obtain ⟨_, hstageId, hattemptId, _, _, hartifacts⟩ := attemptManifest_eq_ok hmanifest
  subst hartifacts
  refine Triple.bind (writeAttemptFile_triple hI hcalm hname (fun hc => ?_)) (fun _ => ?_)
  · have hall : PathsApart (((sortedPayloads payloads).map payloadFile).map Prod.fst ++
        attemptManifestFile :: []) := hsortedPaths ▸ hapart hc
    exact canCreate_of_apart hall
  refine Triple.assume (fun m hm => hm.2.1) (fun hcreated => ?_)
  refine (Triple.bind (call_triple hcalm) (fun _ => ?_)).strengthenPre
    (fun m hm => ⟨hm.1, hm.2.2⟩)
  -- the directory is published
  have hproduced : Produced platform engine root definition key attemptId
      ((sortedPayloads payloads).map payloadFile ++
        [(attemptManifestFile, platform.manifests.encode manifest)]) manifest :=
    ⟨hmem, hkey, hrunning, hname, upstream, payloads, manifest.artifacts, hupstream, hpayloads,
      hdescribed, hnumber ▸ hmanifest, rfl⟩
  refine Triple.bind (makeCacheRoot_triple hI hcalm (fun hc => (hnew hc).1)) (fun _ => ?_)
  refine Triple.bind (publishDirectory_triple hI hcalm hproduced
    (lookup_manifestFile hcreated) (ArtifactTree.set_self _ _ _ _)
    (fun hc => (hnew hc).2)) (fun _ => ?_)
  refine Triple.assume (fun m hm => hm.2.1) (fun hunpublished => ?_)
  refine (Triple.bind (call_triple hcalm) (fun _ => ?_)).strengthenPre
    (fun m hm => ⟨hm.1, hm.2.2⟩)
  refine (finishAttempt_triple hI hcalm hopened hproduced (hattemptId ▸ hrow) hstageId hcreated
    hunpublished (fun hc => ?_) (by simp)).weaken (fun _ h => h) ?_ (fun _ _ h => h) (fun _ h => h)
  · refine ⟨_, verifyAttemptDirectory_of_written _ hdescribed ?_ (lookup_manifestFile hcreated)
      hattemptId.symm ((hwritable hc).small manifest hdescribed)⟩
    rw [(hperm.map _).nodup_iff]
    exact hdelivered.paths
  · rintro _ m ⟨hIm, hcompleted, htree⟩
    refine ⟨hIm, manifest, payloads, ⟨upstream, hupstream, hpayloads⟩, hdescribed, hmanifest,
      hcompleted, ?_, lookup_manifestFile hcreated⟩
    rw [htree, ArtifactTree.set_set]

end Attempt

/-! ## Executing one stage -/

theorem beginAttempt_eq_error {database : RunDatabase} {stageId : StageId} {key : Sha256}
    {uuid : String} {e : RunError} (hmem : stageId ∈ database.stageIds)
    (hbegins : RunDatabase.canBegin (database.stage stageId).state = true)
    (hclear : database.DependenciesComplete stageId)
    (h : database.beginAttempt stageId key uuid = .error e) :
    e = .constraintViolated ∧ ∃ row : AttemptRow, row.stageId = stageId ∧
      row.attemptNumber = (database.stage stageId).attemptCounter + 1 ∧
      row.attemptId = .issued row.stageId row.attemptNumber uuid ∧
      database.admitsAttempt row = false := by
  unfold RunDatabase.beginAttempt at h
  rw [RunDatabase.stageRow_of_mem hmem] at h
  dsimp only at h
  rw [if_neg (by simpa using hbegins), if_neg (by simpa using hclear)] at h
  split at h
  · rename_i hrefused
    obtain rfl := Except.error.inj h
    exact ⟨rfl, _, rfl, rfl, rfl, by simpa using hrefused⟩
  · exact absurd h (by simp)

section Stage

variable {definition : StageDefinition Bytes} {root : RunRoot Bytes}

/-- A stage does not depend on itself. -/
theorem Opened.not_mem_dependencies (hopened : Opened engine root)
    (hmem : definition ∈ engine.definitions) : definition.stageId ∉ definition.dependencies :=
  hopened.ordered.not_mem_dependencies (hopened.mem_topology hmem)

/-- Changes at a stage alone leave its own upstream hashes and cache key as they were. -/
theorem upstream_of_update (hopened : Opened engine root) (hmem : definition ∈ engine.definitions)
    {next : RunDatabase} {row : StageRow}
    (hstage : next.stage = Function.update root.database.stage definition.stageId row)
    (hartifact : next.artifact = root.database.artifact) :
    upstreamHashes next definition.dependencies =
        upstreamHashes root.database definition.dependencies ∧
      cacheKey platform next engine.inputs definition =
        cacheKey platform root.database engine.inputs definition := by
  have hstates : ∀ upstream ∈ definition.dependencies,
      (next.stage upstream).state = (root.database.stage upstream).state := by
    intro upstream hupstream
    have hne : upstream ≠ definition.stageId :=
      fun heq => hopened.not_mem_dependencies hmem (heq ▸ hupstream)
    rw [hstage, Function.update_of_ne hne]
  have hrows : ∀ upstream ∈ definition.dependencies,
      next.artifact upstream = root.database.artifact upstream :=
    fun upstream _ => congrFun hartifact upstream
  exact ⟨upstreamHashes_congr hstates hrows, cacheKey_congr hstates hrows⟩

/-- `_execute_stage` at a stage that can begin. -/
theorem executeStage_triple (hI : Preserved platform engine forceStage I B)
    (hcalm : calm → Productive platform engine env I) (hmem : definition ∈ engine.definitions)
    (hopened : Opened engine root)
    (hbegins : RunDatabase.canBegin (root.database.stage definition.stageId).state = true)
    (hclear : ∀ upstream ∈ definition.dependencies,
      (root.database.stage upstream).state = .complete) :
    Triple (fun m => I m ∧ m.store = root) (engine.executeStage platform env definition)
      (executing I calm (fun _ m => ∃ key attemptId manifest payloads,
        Executed platform engine definition root key attemptId manifest payloads m.store)) := by
  have hstage := hopened.mem_stageIds hmem
  refine Triple.assume (F := calm → ∀ uuid, root.attempts.lookup (.issued definition.stageId
      ((root.database.stage definition.stageId).attemptCounter + 1) uuid) = none ∧
      ∀ key, root.artifacts definition.stageId key ≠ .notDirectory ∧
        (root.artifacts definition.stageId key).entries.lookup (.issued definition.stageId
          ((root.database.stage definition.stageId).attemptCounter + 1) uuid) = none) ?_
    (fun hunused => ?_)
  · rintro m ⟨hIm, rfl⟩ hc uuid
    exact ⟨(hcalm hc).unused m hIm definition hmem uuid,
      fun key => (hcalm hc).unpublished m hIm definition hmem key uuid⟩
  unfold RunEngine.executeStage
  refine Triple.readKnown (s := root) (fun m hm => hm.2) ?_
  refine ofExcept_triple (fun hc => ?_) (fun e he => (cacheKey_eq_error hclear he).1)
    (fun key hkey => ?_)
  · cases hkey : cacheKey platform root.database engine.inputs definition with
    | ok key => exact ⟨key, rfl⟩
    | error e =>
      obtain ⟨relevant, hrelevant⟩ := (hcalm hc).configured definition hmem
      rw [(cacheKey_eq_error hclear hkey).2] at hrelevant
      cases hrelevant
  -- the attempt begins
  refine Triple.bind (R := fun begun m => I m ∧
    RunDatabase.Begun root.database definition.stageId key (env.uuid4 definition.stageId) begun.1
      begun.2 m.store.database ∧ m.store.artifacts = root.artifacts ∧
    m.store.attempts = root.attempts) ?_ ?_
  · refine Triple.transact ?_ ?_ ?_
    · exact fun m hm hlife => ⟨not_calm_of_dead (fun hc => (hcalm hc).lives) hm.1 hlife, hm.1⟩
    · rintro m e ⟨hIm, rfl⟩ herror
      split at herror
      · rename_i found hfound
        obtain rfl := Except.error.inj herror
        have hcomplete : m.store.database.DependenciesComplete definition.stageId := by
          unfold RunDatabase.DependenciesComplete
          rw [hopened.dependencies hmem]
          exact hclear
        obtain ⟨rfl, row, hrow, hnumber, hname, hrefused⟩ :=
          beginAttempt_eq_error hstage hbegins hcomplete hfound
        refine ⟨fun hc => ?_, rfl, hIm⟩
        rw [(hcalm hc).admits m hIm definition hmem row hrow hnumber ⟨_, hname⟩] at hrefused
        cases hrefused
      · exact absurd herror (by simp)
    · rintro m c ⟨hIm, rfl⟩ hok
      split at hok
      · exact absurd hok (by simp)
      · rename_i attemptId attemptNumber next hnext
        obtain rfl := Except.ok.inj hok
        exact ⟨hI.effect m _ _ hIm (.began hmem hkey hnext), RunDatabase.beginAttempt_eq_ok hnext,
          rfl, rfl⟩
  rintro ⟨attemptId, attemptNumber⟩
  refine Triple.bind (export_triple hI hcalm (fun m artifact h => h)) (fun _ => ?_)
  refine (Triple.bind (call_triple hcalm) (fun _ => ?_)).strengthenPre
    (fun m hm => ⟨hm.1, hm.2.1⟩)
  -- its directory is made
  refine Triple.bind (R := fun _ m => I m ∧
    RunDatabase.Begun root.database definition.stageId key (env.uuid4 definition.stageId) attemptId
      attemptNumber m.store.database ∧ m.store.artifacts = root.artifacts ∧
    m.store.attempts.lookup attemptId = some []) ?_ (fun _ => ?_)
  · refine Triple.transact ?_ ?_ ?_
    · exact fun m hm hlife => ⟨not_calm_of_dead (fun hc => (hcalm hc).lives) hm.1 hlife, hm.1⟩
    · rintro m e ⟨hIm, hbegun, _, hattempts⟩ herror
      rw [hattempts] at herror
      split at herror
      · rename_i hthere
        obtain rfl := Except.error.inj herror
        have hname : attemptId = .issued definition.stageId attemptNumber _ := hbegun.name
        have hnumber : attemptNumber = _ := hbegun.number
        refine ⟨fun hc => ?_, rfl, hIm⟩
        rw [hname, hnumber, (hunused hc _).1] at hthere
        cases hthere
      · exact absurd herror (by simp)
    · rintro m c ⟨hIm, hbegun, hartifacts, _⟩ hok
      split at hok
      · exact absurd hok (by simp)
      · obtain rfl := Except.ok.inj hok
        have hname : (m.store.database.stage definition.stageId).attemptId = some attemptId := by
          rw [hbegun.stage, Function.update_self]
          rfl
        exact ⟨hI.effect m _ _ hIm (.attemptChanged hname), hbegun, hartifacts,
          lookup_setAttempt _ _ _⟩
  -- it runs; when it raises, the stage is marked
  refine Triple.onRaise (E := fun e m => ¬ calm ∧ e.isRefusal = false ∧ I m) ?_ (fun e => ?_)
  · refine Triple.perStore (fun begun => ?_)
    refine Triple.assume (F := Opened engine begun ∧
      RunDatabase.Begun root.database definition.stageId key (env.uuid4 definition.stageId) attemptId
        attemptNumber begun.database ∧ begun.artifacts = root.artifacts ∧
      begun.attempts.lookup attemptId = some []) ?_ ?_
    · rintro m ⟨⟨hIm, hrest⟩, rfl⟩
      exact ⟨hI.opened m hIm, hrest⟩
    rintro ⟨hopenedBegun, hbegun, hartifacts, hfiles⟩
    have hrow : begun.database.stage definition.stageId =
        RunDatabase.begunRow (root.database.stage definition.stageId) attemptId key := by
      rw [hbegun.stage, Function.update_self]
    obtain ⟨hupstreamEq, hkeyEq⟩ : _ ∧ cacheKey platform begun.database engine.inputs definition =
        cacheKey platform root.database engine.inputs definition :=
      upstream_of_update hopened hmem hbegun.stage hbegun.artifact
    refine (publishAttempt_triple hI hcalm hmem hopenedBegun (hkeyEq.trans hkey) ?_ ?_ ?_ ?_ ?_
      hfiles ?_).weaken (fun m hm => ⟨hm.1.1, hm.2⟩) ?_ (fun _ _ h => h) (fun _ h => h)
    · rw [hrow]; rfl
    · rw [hrow]; rfl
    · rw [hrow]; exact hbegun.number
    · have := hbegun.number
      omega
    · obtain ⟨row, hattempt, hname, _⟩ := hbegun.attempt
      exact ⟨row, by simp [hattempt], hname⟩
    · intro hc
      rw [hartifacts, hbegun.name, hbegun.number]
      exact (hunused hc _).2 key
    · rintro _ m ⟨hIm, manifest, payloads, hpublication⟩
      obtain ⟨_, hstageId, hname, hnumber, hcacheKey, _⟩ := attemptManifest_eq_ok hpublication.built
      refine ⟨hIm, key, attemptId, manifest, payloads, {
        hasKey := hkey, begins := hbegins, described := hpublication.described,
        executed := hupstreamEq ▸ hpublication.executed, stageId := hstageId, name := hname,
        number := hnumber.trans hbegun.number, cacheKey := hcacheKey, stage := ?_, artifact := ?_,
        tree := hartifacts ▸ hpublication.tree, read := hpublication.read }⟩
      · rw [hpublication.completed.stage, hstageId, hrow, hbegun.stage, Function.update_idem]
      · rw [hpublication.completed.artifact, hstageId, hbegun.artifact]
  · refine Triple.assume (F := ¬ calm ∧ e.isRefusal = false) (fun m hm => ⟨hm.1, hm.2.1⟩) ?_
    rintro ⟨htrouble, hrefusal⟩
    exact (failAttempt_triple hI hcalm hmem).weaken (fun m hm => hm.2.2)
      (fun _ m hm => ⟨htrouble, hrefusal, hm.1⟩) (fun _ _ h => h) (fun _ h => h)

end Stage

end Triples

end CartoSentry.Runstate
