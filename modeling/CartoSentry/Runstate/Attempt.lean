import CartoSentry.Runstate.Reconciliation

set_option autoImplicit false

/-!
# Run state: what an attempt writes

The payloads of an executor, the files and the manifest an attempt makes of
them, and the reason the published directory verifies: every entry of the
manifest describes a file that was written once and never again.
-/

namespace CartoSentry.Runstate

open CartoSentry.Foundation RunEngine

variable {Bytes : Type}

/-- No path of the list lies at or below another. -/
def PathsApart (paths : List RelativePath) : Prop :=
  paths.Pairwise (fun left right => left.isPrefixOf right = false ∧ right.isPrefixOf left = false)

/-- Payloads that the engine can write and describe in a manifest. -/
structure Writable (platform : Platform Bytes) (payloads : List (ArtifactPayload Bytes)) : Prop where
  checked : ∀ payload ∈ payloads, checkPayload payload = .ok ()
  described : ∀ payload ∈ payloads, ∃ entry, manifestEntry platform payload = .ok entry
  apart : PathsApart (payloads.map ArtifactPayload.relativePath ++ [attemptManifestFile])
  small : ∀ manifest : AttemptManifest,
    List.Forall₂ (fun payload entry => manifestEntry platform payload = .ok entry)
      (sortedPayloads payloads) manifest.artifacts →
    platform.byteCount (platform.manifests.encode manifest) ≤ maxControlFileBytes

/-- The executor of a definition always delivers outputs that pass every check. -/
def ValidOutputs (platform : Platform Bytes) (inputs : RunInputs)
    (definition : StageDefinition Bytes) : Prop :=
  isIdentifier definition.stageId = true ∧ ∀ cacheKey upstream, ∃ payloads,
    executeValidated definition ⟨inputs, definition.stageId, cacheKey, upstream⟩ = .ok payloads ∧
      Writable platform payloads

/-- The file of an attempt directory that holds a payload. -/
def payloadFile (payload : ArtifactPayload Bytes) : RelativePath × Bytes :=
  (payload.relativePath, payload.content)

section Facts

variable {platform : Platform Bytes} {engine : RunEngine Bytes}
  {definition : StageDefinition Bytes}

/-! ## Paths -/

theorem canCreate_of_apart {files : AttemptFiles Bytes} {path : RelativePath}
    {rest : List RelativePath} (h : PathsApart (files.map Prod.fst ++ path :: rest)) :
    canCreate files path = true := by
  unfold PathsApart at h
  rw [List.pairwise_append] at h
  unfold canCreate
  rw [List.all_eq_true]
  intro file hfile
  have := h.2.2 file.1 (List.mem_map_of_mem hfile) path List.mem_cons_self
  simp [this.1, this.2]

theorem not_mem_of_canCreate {files : AttemptFiles Bytes} {path : RelativePath}
    (h : canCreate files path = true) : files.lookup path = none := by
  rw [List.lookup_eq_none_iff]
  intro file hfile
  have hapart := List.all_eq_true.mp h file hfile
  rw [bne_iff_ne]
  rintro rfl
  have hself : file.1.isPrefixOf file.1 = true := by simp
  simp [hself] at hapart

/-! ## Payloads -/

theorem checkPayload_eq_error {payload : ArtifactPayload Bytes} {e : RunError}
    (h : checkPayload payload = .error e) : e.isRefusal = false := by
  unfold checkPayload at h
  split at h
  · obtain rfl := Except.error.inj h; rfl
  · split at h
    · obtain rfl := Except.error.inj h; rfl
    · exact absurd h (by simp)

theorem manifestEntry_eq_error {payload : ArtifactPayload Bytes} {e : RunError}
    (h : manifestEntry platform payload = .error e) : e.isRefusal = false := by
  unfold manifestEntry at h
  split at h
  · exact absurd h (by simp)
  · obtain rfl := Except.error.inj h; rfl

/-- The entry of a payload repeats its identity and describes its content. -/
structure Describes (platform : Platform Bytes) (payload : ArtifactPayload Bytes)
    (entry : ArtifactManifestEntry) : Prop where
  key : entry.artifactKey = payload.artifactKey
  path : entry.relativePath = payload.relativePath
  sha256 : entry.sha256 = platform.sha256 payload.content
  byteCount : entry.byteCount = platform.byteCount payload.content
  mediaType : entry.mediaType = payload.mediaType

theorem manifestEntry_eq_ok {payload : ArtifactPayload Bytes} {entry : ArtifactManifestEntry}
    (h : manifestEntry platform payload = .ok entry) : Describes platform payload entry := by
  unfold manifestEntry at h
  split at h
  · obtain rfl := Except.ok.inj h
    exact ⟨rfl, rfl, rfl, rfl, rfl⟩
  · exact absurd h (by simp)

theorem map_eq_of_described {β : Type} {payloads : List (ArtifactPayload Bytes)}
    {entries : List ArtifactManifestEntry} (f : ArtifactManifestEntry → β)
    (g : ArtifactPayload Bytes → β)
    (hfg : ∀ payload entry, Describes platform payload entry → f entry = g payload)
    (h : List.Forall₂ (fun payload entry => manifestEntry platform payload = .ok entry)
      payloads entries) : entries.map f = payloads.map g := by
  induction h with
  | nil => rfl
  | cons hentry _ ih => rw [List.map_cons, List.map_cons, ih, hfg _ _ (manifestEntry_eq_ok hentry)]

theorem perm_sortedPayloads (payloads : List (ArtifactPayload Bytes)) :
    (sortedPayloads payloads).Perm payloads :=
  List.perm_insertionSort _ _

/-- What `executeValidated` has checked. -/
structure Delivered (definition : StageDefinition Bytes) (payloads : List (ArtifactPayload Bytes)) :
    Prop where
  keys : (payloads.map ArtifactPayload.artifactKey).insertionSort (· ≤ ·) =
    sortedOutputKeys definition
  paths : (payloads.map ArtifactPayload.relativePath).Nodup

theorem executeValidated_eq_ok {context : StageExecutionContext}
    {payloads : List (ArtifactPayload Bytes)}
    (h : executeValidated definition context = .ok payloads) : Delivered definition payloads := by
  unfold executeValidated at h
  split at h
  · exact absurd h (by simp)
  · split at h
    · exact absurd h (by simp)
    · rename_i hkeys
      split at h
      · exact absurd h (by simp)
      · rename_i hpaths
        split at h
        · exact absurd h (by simp)
        · obtain rfl := Except.ok.inj h
          exact ⟨not_not.mp hkeys, not_not.mp hpaths⟩

theorem executeValidated_eq_error {context : StageExecutionContext} {e : RunError}
    (h : executeValidated definition context = .error e) : e.isRefusal = false := by
  unfold executeValidated at h
  split at h
  · obtain rfl := Except.error.inj h; rfl
  · split at h
    · obtain rfl := Except.error.inj h; rfl
    · split at h
      · obtain rfl := Except.error.inj h; rfl
      · split at h
        · obtain rfl := Except.error.inj h; rfl
        · exact absurd h (by simp)

theorem Delivered.perm_keys {payloads : List (ArtifactPayload Bytes)}
    (h : Delivered definition payloads) :
    (payloads.map ArtifactPayload.artifactKey).Perm definition.outputKeys := by
  have hleft := List.perm_insertionSort (· ≤ ·) (payloads.map ArtifactPayload.artifactKey)
  have hright := List.perm_insertionSort (· ≤ ·) definition.outputKeys
  rw [h.keys] at hleft
  exact hleft.symm.trans hright

/-! ## The manifest -/

theorem attemptManifest_eq_ok {stageId : StageId} {attemptId : AttemptId} {attemptNumber : Nat}
    {key : Sha256} {entries : List ArtifactManifestEntry} {manifest : AttemptManifest}
    (h : engine.attemptManifest stageId attemptId attemptNumber key entries = .ok manifest) :
    manifest.workflowId = engine.inputs.workflowId ∧ manifest.stageId = stageId ∧
      manifest.attemptId = attemptId ∧ manifest.attemptNumber = attemptNumber ∧
      manifest.cacheKey = key ∧ manifest.artifacts = entries := by
  unfold RunEngine.attemptManifest at h
  split at h
  · split at h
    · obtain rfl := Except.ok.inj h
      exact ⟨rfl, rfl, rfl, rfl, rfl, rfl⟩
    · exact absurd h (by simp)
  · exact absurd h (by simp)

theorem attemptManifest_eq_error {stageId : StageId} {attemptId : AttemptId} {attemptNumber : Nat}
    {key : Sha256} {entries : List ArtifactManifestEntry} {e : RunError}
    (h : engine.attemptManifest stageId attemptId attemptNumber key entries = .error e) :
    e.isRefusal = false := by
  unfold RunEngine.attemptManifest at h
  split at h
  · split at h
    · exact absurd h (by simp)
    · obtain rfl := Except.error.inj h; rfl
  · obtain rfl := Except.error.inj h; rfl

/-- Delivered outputs always make a manifest. -/
theorem exists_attemptManifest {attemptId : AttemptId} {attemptNumber : Nat} {key : Sha256}
    {payloads : List (ArtifactPayload Bytes)} {entries : List ArtifactManifestEntry}
    (hstage : isIdentifier definition.stageId = true) (hnumber : 0 < attemptNumber)
    (houtputs : definition.outputKeys ≠ [] ∧ definition.outputKeys.Nodup)
    (hdelivered : Delivered definition payloads)
    (hdescribed : List.Forall₂ (fun payload entry => manifestEntry platform payload = .ok entry)
      (sortedPayloads payloads) entries) :
    ∃ manifest, engine.attemptManifest definition.stageId attemptId attemptNumber key entries =
      .ok manifest := by
  have hkeys := map_eq_of_described ArtifactManifestEntry.artifactKey ArtifactPayload.artifactKey
    (fun _ _ h => h.key) hdescribed
  have hpaths := map_eq_of_described ArtifactManifestEntry.relativePath
    ArtifactPayload.relativePath (fun _ _ h => h.path) hdescribed
  have hperm := perm_sortedPayloads payloads
  have hkeysNodup : (entries.map ArtifactManifestEntry.artifactKey).Nodup := by
    rw [hkeys, (hperm.map _).nodup_iff, hdelivered.perm_keys.nodup_iff]
    exact houtputs.2
  have hpathsNodup : (entries.map ArtifactManifestEntry.relativePath).Nodup := by
    rw [hpaths, (hperm.map _).nodup_iff]
    exact hdelivered.paths
  have hne : entries ≠ [] := by
    rintro rfl
    have hnone : (sortedPayloads payloads).map ArtifactPayload.artifactKey = [] := hkeys.symm
    have hnil := ((hperm.map ArtifactPayload.artifactKey).symm.trans (by rw [hnone])).eq_nil
    have := hdelivered.perm_keys
    rw [hnil] at this
    exact houtputs.1 this.nil_eq.symm
  unfold RunEngine.attemptManifest
  rw [dif_pos ⟨hnumber, hne, hkeysNodup, hpathsNodup⟩, if_pos hstage]
  exact ⟨_, rfl⟩

/-! ## The published directory -/

theorem lookup_payloadFile {payloads : List (ArtifactPayload Bytes)}
    (hpaths : (payloads.map ArtifactPayload.relativePath).Nodup) {payload : ArtifactPayload Bytes}
    (hmem : payload ∈ payloads) :
    (payloads.map payloadFile).lookup payload.relativePath = some payload.content := by
  have hkeys : (payloads.map payloadFile).map Prod.fst =
      payloads.map ArtifactPayload.relativePath := by simp [payloadFile]
  exact lookup_of_mem (hkeys ▸ hpaths) (List.mem_map_of_mem hmem)

theorem verifyArtifacts_of_described {files : AttemptFiles Bytes}
    {payloads : List (ArtifactPayload Bytes)} {entries : List ArtifactManifestEntry}
    (hdescribed : List.Forall₂ (fun payload entry => manifestEntry platform payload = .ok entry)
      payloads entries)
    (hfiles : ∀ payload ∈ payloads, files.lookup payload.relativePath = some payload.content) :
    verifyArtifacts platform files entries = .ok () := by
  induction hdescribed with
  | nil => rfl
  | @cons payload entry payloads entries hentry _ ih =>
    have hdescribes := manifestEntry_eq_ok hentry
    have hhash : hashRegularFile platform files entry.relativePath entry.byteCount =
        .ok entry.sha256 := by
      unfold hashRegularFile
      rw [hdescribes.path, hfiles payload List.mem_cons_self]
      simp [hdescribes.byteCount, hdescribes.sha256]
    unfold verifyArtifacts
    rw [hhash]
    simpa using ih (fun other hother => hfiles other (List.mem_cons_of_mem _ hother))

theorem lookup_manifestFile {files : AttemptFiles Bytes} {content : Bytes}
    (hcreated : canCreate files attemptManifestFile = true) :
    (files ++ [(attemptManifestFile, content)]).lookup attemptManifestFile = some content := by
  rw [List.lookup_append, not_mem_of_canCreate hcreated]
  simp

/-- The directory an attempt publishes verifies, when its manifest is small enough
to be read back. -/
theorem verifyAttemptDirectory_of_written (directory : PublishedDirectory)
    {payloads : List (ArtifactPayload Bytes)} {manifest : AttemptManifest}
    (hdescribed : List.Forall₂ (fun payload entry => manifestEntry platform payload = .ok entry)
      payloads manifest.artifacts)
    (hpaths : (payloads.map ArtifactPayload.relativePath).Nodup)
    (hmanifest : (payloads.map payloadFile ++
      [(attemptManifestFile, platform.manifests.encode manifest)]).lookup attemptManifestFile =
        some (platform.manifests.encode manifest))
    (hname : directory.name = manifest.attemptId)
    (hsmall : platform.byteCount (platform.manifests.encode manifest) ≤ maxControlFileBytes) :
    verifyAttemptDirectory platform directory
      (payloads.map payloadFile ++ [(attemptManifestFile, platform.manifests.encode manifest)]) =
      .ok ⟨directory, manifest, platform.sha256 (platform.manifests.encode manifest)⟩ := by
  have hread : readBoundedRegularFile platform
      (payloads.map payloadFile ++ [(attemptManifestFile, platform.manifests.encode manifest)])
      attemptManifestFile = .ok (platform.manifests.encode manifest) := by
    unfold readBoundedRegularFile
    rw [hmanifest]
    simpa using hsmall
  have hlookup : ∀ payload ∈ payloads,
      (payloads.map payloadFile ++ [(attemptManifestFile, platform.manifests.encode manifest)]).lookup
        payload.relativePath = some payload.content := by
    intro payload hmem
    rw [List.lookup_append, lookup_payloadFile hpaths hmem]
    rfl
  have hverified := verifyArtifacts_of_described hdescribed hlookup
  unfold verifyAttemptDirectory
  rw [hread]
  dsimp only
  rw [platform.manifests.parse_encode manifest hsmall]
  dsimp only
  rw [if_neg (by simpa using hname), hverified]

theorem verifyArtifacts_eq_error {files : AttemptFiles Bytes} {e : RunError} :
    ∀ {entries : List ArtifactManifestEntry}, verifyArtifacts platform files entries = .error e →
      e.isRefusal = false := by
  intro entries
  induction entries with
  | nil => intro h; exact absurd h (by simp [verifyArtifacts])
  | cons entry rest ih =>
    intro h
    unfold verifyArtifacts at h
    split at h
    · rename_i found hfound
      obtain rfl := Except.error.inj h
      unfold hashRegularFile at hfound
      split at hfound
      · obtain rfl := Except.error.inj hfound; rfl
      · split at hfound
        · obtain rfl := Except.error.inj hfound; rfl
        · exact absurd hfound (by simp)
    · split at h
      · obtain rfl := Except.error.inj h; rfl
      · exact ih h

theorem verifyAttemptDirectory_eq_error {directory : PublishedDirectory}
    {files : AttemptFiles Bytes} {e : RunError}
    (h : verifyAttemptDirectory platform directory files = .error e) : e.isRefusal = false := by
  unfold verifyAttemptDirectory at h
  split at h
  · obtain rfl := Except.error.inj h; rfl
  · split at h
    · obtain rfl := Except.error.inj h; rfl
    · split at h
      · obtain rfl := Except.error.inj h; rfl
      · split at h
        · rename_i found hfound
          obtain rfl := Except.error.inj h
          exact verifyArtifacts_eq_error hfound
        · exact absurd h (by simp)

/-- A directory that verifies has the manifest that was written into it. -/
theorem manifest_of_verified {files : AttemptFiles Bytes} {manifest : AttemptManifest}
    {directory : PublishedDirectory} {published : PublishedAttempt}
    (hread : files.lookup attemptManifestFile = some (platform.manifests.encode manifest))
    (h : verifyAttemptDirectory platform directory files = .ok published) :
    platform.manifests.parse (platform.manifests.encode manifest) = some manifest ∧
      published.manifest = manifest := by
  have hparse : platform.manifests.parse (platform.manifests.encode manifest) = some manifest := by
    unfold verifyAttemptDirectory readBoundedRegularFile at h
    rw [hread] at h
    dsimp only at h
    split at h
    · exact absurd h (by simp)
    · rename_i content hcontent
      split at hcontent
      · exact absurd hcontent (by simp)
      · rename_i hsmall
        exact platform.manifests.parse_encode manifest (Nat.le_of_not_lt hsmall)
  obtain ⟨_, _, ⟨content, hcontent, hfound⟩, _⟩ := verifyAttemptDirectory_eq_ok h
  rw [hread] at hcontent
  obtain rfl := Option.some.inj hcontent
  exact ⟨hparse, Option.some.inj (hfound.symm.trans hparse)⟩

end Facts

end CartoSentry.Runstate
