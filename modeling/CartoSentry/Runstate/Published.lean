import CartoSentry.Runstate.Contracts
import Mathlib.Data.List.Lex

set_option autoImplicit false

/-!
# Run state: published attempts

The tree below `artifacts/` and how the engine reads it.  A stage's attempts lie
in one cache root per cache key.  `_verify_attempt_directory` reads a directory
against the manifest inside it, and `_select_published` reads every directory of
a cache root, so one damaged attempt makes the whole cache root unreadable.
-/

namespace CartoSentry.Runstate

variable {Bytes : Type}

/-- The regular files of an attempt directory. -/
abbrev AttemptFiles (Bytes : Type) : Type := List (RelativePath × Bytes)

/-- An entry of a cache root.  `notDirectory` is anything but a real directory. -/
inductive CacheEntry (Bytes : Type) where
  | notDirectory
  | directory (files : AttemptFiles Bytes)

inductive CacheRoot (Bytes : Type) where
  | missing
  | notDirectory
  | directory (entries : List (AttemptId × CacheEntry Bytes))

/-- The cache root of every stage and cache key. -/
abbrev ArtifactTree (Bytes : Type) : Type := StageId → Sha256 → CacheRoot Bytes

def ArtifactTree.set (tree : ArtifactTree Bytes) (stageId : StageId) (cacheKey : Sha256)
    (root : CacheRoot Bytes) : ArtifactTree Bytes :=
  Function.update tree stageId (Function.update (tree stageId) cacheKey root)

@[simp] theorem ArtifactTree.set_self (tree : ArtifactTree Bytes) (stageId : StageId)
    (cacheKey : Sha256) (root : CacheRoot Bytes) :
    tree.set stageId cacheKey root stageId cacheKey = root := by
  simp [ArtifactTree.set]

theorem ArtifactTree.set_of_ne (tree : ArtifactTree Bytes) {stageId otherStage : StageId}
    {cacheKey otherKey : Sha256} (root : CacheRoot Bytes)
    (h : ¬ (otherStage = stageId ∧ otherKey = cacheKey)) :
    tree.set stageId cacheKey root otherStage otherKey = tree otherStage otherKey := by
  unfold ArtifactTree.set
  by_cases hstage : otherStage = stageId
  · subst hstage
    have hkey : otherKey ≠ cacheKey := fun hkey => h ⟨rfl, hkey⟩
    simp [hkey]
  · simp [hstage]

theorem ArtifactTree.set_eq_self (tree : ArtifactTree Bytes) {stageId : StageId}
    {cacheKey : Sha256} {root : CacheRoot Bytes} (h : tree stageId cacheKey = root) :
    tree.set stageId cacheKey root = tree := by
  subst h
  simp [ArtifactTree.set]

@[simp] theorem ArtifactTree.set_set (tree : ArtifactTree Bytes) (stageId : StageId)
    (cacheKey : Sha256) (first second : CacheRoot Bytes) :
    (tree.set stageId cacheKey first).set stageId cacheKey second =
      tree.set stageId cacheKey second := by
  simp [ArtifactTree.set]

/-- The entries of a cache root. -/
def CacheRoot.entries : CacheRoot Bytes → List (AttemptId × CacheEntry Bytes)
  | .directory entries => entries
  | _ => []

/-- An entry of a tree with one cache root replaced is one of the replacement or
was there before. -/
theorem ArtifactTree.mem_set {tree : ArtifactTree Bytes} {stageId otherStage : StageId}
    {cacheKey otherKey : Sha256} {root : CacheRoot Bytes} {entry : AttemptId × CacheEntry Bytes}
    (h : entry ∈ (tree.set stageId cacheKey root otherStage otherKey).entries) :
    (otherStage = stageId ∧ otherKey = cacheKey ∧ entry ∈ root.entries) ∨
      entry ∈ (tree otherStage otherKey).entries := by
  by_cases hsame : otherStage = stageId ∧ otherKey = cacheKey
  · obtain ⟨rfl, rfl⟩ := hsame
    rw [ArtifactTree.set_self] at h
    exact .inl ⟨rfl, rfl, h⟩
  · rw [ArtifactTree.set_of_ne _ _ hsame] at h
    exact .inr h

/-- An attempt whose directory matches its manifest. -/
structure PublishedAttempt where
  directory : PublishedDirectory
  manifest : AttemptManifest
  manifestSha256 : Sha256
  deriving DecidableEq

def attemptManifestFile : RelativePath := ["attempt-manifest.json"]

section Verify

variable (platform : Platform Bytes)

/-- `_read_bounded_regular_file`, within an attempt directory. -/
def readBoundedRegularFile (files : AttemptFiles Bytes) (path : RelativePath) :
    Except RunError Bytes :=
  match files.lookup path with
  | none => .error (.artifactIntegrity "control artifact is missing or unsafe")
  | some content =>
    if maxControlFileBytes < platform.byteCount content then
      .error (.artifactIntegrity "control artifact is unsafe or exceeds the size limit")
    else .ok content

/-- `_hash_regular_file`. -/
def hashRegularFile (files : AttemptFiles Bytes) (path : RelativePath) (expectedByteCount : Nat) :
    Except RunError Sha256 :=
  match files.lookup path with
  | none => .error (.artifactIntegrity "published artifact is missing or unsafe")
  | some content =>
    if platform.byteCount content ≠ expectedByteCount then
      .error (.artifactIntegrity "published artifact size mismatch")
    else .ok (platform.sha256 content)

/-- The loop over the artifacts of a manifest. -/
def verifyArtifacts (files : AttemptFiles Bytes) : List ArtifactManifestEntry → Except RunError Unit
  | [] => .ok ()
  | artifact :: rest =>
    match hashRegularFile platform files artifact.relativePath artifact.byteCount with
    | .error e => .error e
    | .ok digest =>
      if digest ≠ artifact.sha256 then
        .error (.artifactIntegrity "published artifact hash mismatch")
      else verifyArtifacts files rest

/-- `_verify_attempt_directory`.  Its last test compares the set of artifact keys
with itself and never fails. -/
def verifyAttemptDirectory (directory : PublishedDirectory) (files : AttemptFiles Bytes) :
    Except RunError PublishedAttempt :=
  match readBoundedRegularFile platform files attemptManifestFile with
  | .error _ => .error (.artifactIntegrity "attempt manifest is invalid")
  | .ok manifestBytes =>
    match platform.manifests.parse manifestBytes with
    | none => .error (.artifactIntegrity "attempt manifest is invalid")
    | some manifest =>
      if directory.name ≠ manifest.attemptId then
        .error (.artifactIntegrity "attempt directory identity mismatch")
      else
        match verifyArtifacts platform files manifest.artifacts with
        | .error e => .error e
        | .ok () => .ok ⟨directory, manifest, platform.sha256 manifestBytes⟩

/-- What `_select_published` compares between attempts of one cache root. -/
def fingerprint (attempt : PublishedAttempt) : List (String × Sha256 × Nat) :=
  attempt.manifest.artifacts.map (fun item => (item.artifactKey, item.sha256, item.byteCount))

/-- Attempts are ordered by number and then by the text of their name. -/
def newer (item best : PublishedAttempt) : Bool :=
  best.manifest.attemptNumber < item.manifest.attemptNumber
    || (best.manifest.attemptNumber = item.manifest.attemptNumber
        && best.manifest.attemptId.text < item.manifest.attemptId.text)

/-- `max` over the attempts, which keeps the first of equals. -/
def newest (first : PublishedAttempt) (rest : List PublishedAttempt) : PublishedAttempt :=
  rest.foldl (fun best item => if newer item best then item else best) first

variable (workflowId : String) (definition : StageDefinition Bytes) (cacheKey : Sha256)

/-- `tuple(sorted(definition.output_keys))`. -/
def sortedOutputKeys (definition : StageDefinition Bytes) : List String :=
  definition.outputKeys.insertionSort (· ≤ ·)

/-- One round of the loop of `_select_published`. -/
def verifyCandidate (name : AttemptId) : CacheEntry Bytes → Except RunError PublishedAttempt
  | .notDirectory => .error (.artifactIntegrity "published attempt entry is invalid")
  | .directory files =>
    match verifyAttemptDirectory platform ⟨definition.stageId, cacheKey, name⟩ files with
    | .error e => .error e
    | .ok attempt =>
      if attempt.manifest.workflowId ≠ workflowId ∨
          attempt.manifest.stageId ≠ definition.stageId ∨
          attempt.manifest.cacheKey ≠ cacheKey then
        .error (.artifactIntegrity "published attempt identity mismatch")
      else if attempt.manifest.artifacts.map ArtifactManifestEntry.artifactKey ≠
          sortedOutputKeys definition then
        .error (.artifactIntegrity "published attempt output contract mismatch")
      else .ok attempt

def verifyCandidates : List (AttemptId × CacheEntry Bytes) →
    Except RunError (List PublishedAttempt)
  | [] => .ok []
  | (name, entry) :: rest =>
    match verifyCandidate platform workflowId definition cacheKey name entry with
    | .error e => .error e
    | .ok attempt =>
      match verifyCandidates rest with
      | .error e => .error e
      | .ok attempts => .ok (attempt :: attempts)

/-- `sorted(cache_root.iterdir(), key=lambda item: item.name)`. -/
def sortedEntries (entries : List (AttemptId × CacheEntry Bytes)) :
    List (AttemptId × CacheEntry Bytes) :=
  entries.insertionSort (fun left right => left.1.text ≤ right.1.text)

/-- `_select_published`. -/
def selectPublished (tree : ArtifactTree Bytes) : Except RunError (Option PublishedAttempt) :=
  match tree definition.stageId cacheKey with
  | .missing => .ok none
  | .notDirectory => .error (.artifactIntegrity "published cache root is invalid")
  | .directory entries =>
    match verifyCandidates platform workflowId definition cacheKey (sortedEntries entries) with
    | .error e => .error e
    | .ok [] => .ok none
    | .ok (first :: rest) =>
      if rest.any (fun attempt => fingerprint attempt != fingerprint first) then
        .error (.artifactIntegrity "one cache key produced different immutable artifact bytes")
      else .ok (some (newest first rest))

end Verify

/-! ## What a verified attempt says -/

section Facts

variable {platform : Platform Bytes} {workflowId : String} {definition : StageDefinition Bytes}
  {cacheKey : Sha256}

theorem newest_mem : ∀ (rest : List PublishedAttempt) (first : PublishedAttempt),
    newest first rest ∈ first :: rest := by
  intro rest
  induction rest with
  | nil => intro first; simp [newest]
  | cons item rest ih =>
    intro first
    have hstep : newest first (item :: rest) =
        newest (if newer item first then item else first) rest := rfl
    rw [hstep]
    by_cases hnewer : newer item first = true
    · rw [if_pos hnewer]
      exact List.mem_cons_of_mem _ (ih item)
    · rw [if_neg hnewer]
      rcases List.mem_cons.mp (ih first) with h | h
      · rw [h]; exact List.mem_cons_self
      · exact List.mem_cons_of_mem _ (List.mem_cons_of_mem _ h)

/-- The newest attempt has the largest number. -/
theorem attemptNumber_le_newest : ∀ (rest : List PublishedAttempt) (first : PublishedAttempt),
    ∀ attempt ∈ first :: rest,
      attempt.manifest.attemptNumber ≤ (newest first rest).manifest.attemptNumber := by
  intro rest
  induction rest with
  | nil =>
    intro first attempt hmem
    rw [List.mem_singleton.mp hmem]
    exact Nat.le_refl _
  | cons item rest ih =>
    intro first attempt hmem
    have hstep : newest first (item :: rest) =
        newest (if newer item first then item else first) rest := rfl
    rw [hstep]
    have hkeep : first.manifest.attemptNumber ≤
          (if newer item first then item else first).manifest.attemptNumber ∧
        item.manifest.attemptNumber ≤
          (if newer item first then item else first).manifest.attemptNumber := by
      by_cases hnewer : newer item first = true
      · rw [if_pos hnewer]
        simp only [newer, Bool.or_eq_true, decide_eq_true_eq, Bool.and_eq_true] at hnewer
        omega
      · rw [if_neg hnewer]
        simp only [newer, Bool.or_eq_true, decide_eq_true_eq, Bool.and_eq_true, not_or] at hnewer
        omega
    have hfirst := ih (if newer item first then item else first) _ List.mem_cons_self
    rcases List.mem_cons.mp hmem with rfl | hmem
    · exact Nat.le_trans hkeep.1 hfirst
    · rcases List.mem_cons.mp hmem with rfl | hmem
      · exact Nat.le_trans hkeep.2 hfirst
      · exact ih _ attempt (List.mem_cons_of_mem _ hmem)

/-- What the engine has checked of an attempt it reads from a cache root. -/
structure Verified (platform : Platform Bytes) (workflowId : String)
    (definition : StageDefinition Bytes) (cacheKey : Sha256) (name : AttemptId)
    (files : AttemptFiles Bytes) (attempt : PublishedAttempt) : Prop where
  directory : attempt.directory = ⟨definition.stageId, cacheKey, name⟩
  name : attempt.manifest.attemptId = name
  manifest : ∃ manifestBytes, files.lookup attemptManifestFile = some manifestBytes ∧
    platform.manifests.parse manifestBytes = some attempt.manifest
  hashes : verifyArtifacts platform files attempt.manifest.artifacts = .ok ()
  workflow : attempt.manifest.workflowId = workflowId
  stage : attempt.manifest.stageId = definition.stageId
  key : attempt.manifest.cacheKey = cacheKey
  outputs : attempt.manifest.artifacts.map ArtifactManifestEntry.artifactKey =
    sortedOutputKeys definition

theorem readBoundedRegularFile_eq_ok {files : AttemptFiles Bytes} {path : RelativePath}
    {content : Bytes} (h : readBoundedRegularFile platform files path = .ok content) :
    files.lookup path = some content := by
  unfold readBoundedRegularFile at h
  split at h
  · exact absurd h (by simp)
  · rename_i found hfound
    split at h
    · exact absurd h (by simp)
    · rw [hfound, Except.ok.inj h]

theorem verifyAttemptDirectory_eq_ok {directory : PublishedDirectory} {files : AttemptFiles Bytes}
    {attempt : PublishedAttempt}
    (h : verifyAttemptDirectory platform directory files = .ok attempt) :
    attempt.directory = directory ∧ attempt.manifest.attemptId = directory.name ∧
      (∃ manifestBytes, files.lookup attemptManifestFile = some manifestBytes ∧
        platform.manifests.parse manifestBytes = some attempt.manifest) ∧
      verifyArtifacts platform files attempt.manifest.artifacts = .ok () := by
  unfold verifyAttemptDirectory at h
  split at h
  · exact absurd h (by simp)
  · rename_i manifestBytes hread
    split at h
    · exact absurd h (by simp)
    · rename_i manifest hparse
      split at h
      · exact absurd h (by simp)
      · rename_i hname
        split at h
        · exact absurd h (by simp)
        · rename_i hhashes
          obtain rfl := Except.ok.inj h
          exact ⟨rfl, (not_not.mp hname).symm,
            ⟨manifestBytes, readBoundedRegularFile_eq_ok hread, hparse⟩, hhashes⟩

theorem verifyCandidate_eq_ok {name : AttemptId} {entry : CacheEntry Bytes}
    {attempt : PublishedAttempt}
    (h : verifyCandidate platform workflowId definition cacheKey name entry = .ok attempt) :
    ∃ files, entry = .directory files ∧
      Verified platform workflowId definition cacheKey name files attempt := by
  unfold verifyCandidate at h
  split at h
  · exact absurd h (by simp)
  · rename_i files
    split at h
    · exact absurd h (by simp)
    · rename_i found hfound
      obtain ⟨hdirectory, hname, hmanifest, hhashes⟩ := verifyAttemptDirectory_eq_ok hfound
      split at h
      · exact absurd h (by simp)
      · rename_i hidentity
        split at h
        · exact absurd h (by simp)
        · rename_i houtputs
          obtain rfl := Except.ok.inj h
          simp only [not_or, not_not] at hidentity houtputs
          exact ⟨files, rfl, {
            directory := hdirectory, name := hname, manifest := hmanifest, hashes := hhashes,
            workflow := hidentity.1, stage := hidentity.2.1, key := hidentity.2.2,
            outputs := houtputs }⟩

/-- An accepted entry is a directory that verifies. -/
theorem verifyCandidate_directory {name : AttemptId} {entry : CacheEntry Bytes}
    {attempt : PublishedAttempt}
    (h : verifyCandidate platform workflowId definition cacheKey name entry = .ok attempt) :
    ∃ files, entry = .directory files ∧ verifyAttemptDirectory platform
      ⟨definition.stageId, cacheKey, name⟩ files = .ok attempt := by
  unfold verifyCandidate at h
  split at h
  · exact absurd h (by simp)
  · rename_i files
    split at h
    · exact absurd h (by simp)
    · rename_i found hfound
      split at h
      · exact absurd h (by simp)
      · split at h
        · exact absurd h (by simp)
        · rw [← Except.ok.inj h]
          exact ⟨files, rfl, hfound⟩

theorem verifyCandidate_of_verified {name : AttemptId} {files : AttemptFiles Bytes}
    {attempt : PublishedAttempt}
    (hverified : verifyAttemptDirectory platform ⟨definition.stageId, cacheKey, name⟩ files =
      .ok attempt)
    (hworkflow : attempt.manifest.workflowId = workflowId)
    (hstage : attempt.manifest.stageId = definition.stageId)
    (hkey : attempt.manifest.cacheKey = cacheKey)
    (houtputs : attempt.manifest.artifacts.map ArtifactManifestEntry.artifactKey =
      sortedOutputKeys definition) :
    verifyCandidate platform workflowId definition cacheKey name (.directory files) =
      .ok attempt := by
  unfold verifyCandidate
  dsimp only
  rw [hverified]
  dsimp only
  rw [if_neg (by simp [hworkflow, hstage, hkey]), if_neg (by simp [houtputs])]

theorem verifyCandidates_eq_ok : ∀ {entries : List (AttemptId × CacheEntry Bytes)}
    {attempts : List PublishedAttempt},
    verifyCandidates platform workflowId definition cacheKey entries = .ok attempts →
    List.Forall₂ (fun entry attempt =>
      verifyCandidate platform workflowId definition cacheKey entry.1 entry.2 = .ok attempt)
      entries attempts := by
  intro entries
  induction entries with
  | nil =>
    intro attempts h
    obtain rfl := Except.ok.inj h
    exact .nil
  | cons entry rest ih =>
    intro attempts h
    unfold verifyCandidates at h
    split at h
    · exact absurd h (by simp)
    · rename_i attempt hattempt
      split at h
      · exact absurd h (by simp)
      · rename_i others hothers
        obtain rfl := Except.ok.inj h
        exact .cons hattempt (ih hothers)

/-- `_select_published` found an attempt: every entry of the cache root verifies,
all have its fingerprint, and none has a larger number. -/
structure Selected (platform : Platform Bytes) (workflowId : String)
    (definition : StageDefinition Bytes) (cacheKey : Sha256) (tree : ArtifactTree Bytes)
    (attempt : PublishedAttempt) (entries : List (AttemptId × CacheEntry Bytes)) : Prop where
  root : tree definition.stageId cacheKey = .directory entries
  mem : ∃ entry ∈ entries,
    verifyCandidate platform workflowId definition cacheKey entry.1 entry.2 = .ok attempt
  all : ∀ entry ∈ entries, ∃ other,
    verifyCandidate platform workflowId definition cacheKey entry.1 entry.2 = .ok other ∧
      fingerprint other = fingerprint attempt ∧
      other.manifest.attemptNumber ≤ attempt.manifest.attemptNumber

theorem exists_of_forall₂_right {α β : Type} {R : α → β → Prop} {left : List α} {right : List β}
    (h : List.Forall₂ R left right) {b : β} (hb : b ∈ right) : ∃ a ∈ left, R a b := by
  induction h with
  | nil => simp at hb
  | cons hab _ ih =>
    rcases List.mem_cons.mp hb with rfl | hb
    · exact ⟨_, List.mem_cons_self, hab⟩
    · obtain ⟨a, ha, hR⟩ := ih hb
      exact ⟨a, List.mem_cons_of_mem _ ha, hR⟩

theorem exists_of_forall₂_left {α β : Type} {R : α → β → Prop} {left : List α} {right : List β}
    (h : List.Forall₂ R left right) {a : α} (ha : a ∈ left) : ∃ b ∈ right, R a b := by
  induction h with
  | nil => simp at ha
  | cons hab _ ih =>
    rcases List.mem_cons.mp ha with rfl | ha
    · exact ⟨_, List.mem_cons_self, hab⟩
    · obtain ⟨b, hb, hR⟩ := ih ha
      exact ⟨b, List.mem_cons_of_mem _ hb, hR⟩

theorem selectPublished_eq_some {tree : ArtifactTree Bytes} {attempt : PublishedAttempt}
    (h : selectPublished platform workflowId definition cacheKey tree = .ok (some attempt)) :
    ∃ entries, Selected platform workflowId definition cacheKey tree attempt entries := by
  unfold selectPublished at h
  split at h
  · exact absurd h (by simp)
  · exact absurd h (by simp)
  · rename_i entries hroot
    split at h
    · exact absurd h (by simp)
    · exact absurd h (by simp)
    · rename_i first rest hverified
      split at h
      · exact absurd h (by simp)
      · rename_i hsame
        obtain rfl : newest first rest = attempt := by simpa using h
        have hforall := verifyCandidates_eq_ok hverified
        have hfingerprint : ∀ other ∈ first :: rest, fingerprint other = fingerprint first := by
          intro other hother
          rcases List.mem_cons.mp hother with rfl | hother
          · rfl
          · by_contra hne
            exact hsame (List.any_eq_true.mpr ⟨other, hother, by simpa using hne⟩)
        refine ⟨entries, hroot, ?_, fun entry hentry => ?_⟩
        · obtain ⟨entry, hentry, hok⟩ := exists_of_forall₂_right hforall (newest_mem rest first)
          exact ⟨entry, (List.mem_insertionSort _).mp hentry, hok⟩
        · have hentry : entry ∈ sortedEntries entries := (List.mem_insertionSort _).mpr hentry
          obtain ⟨other, hother, hok⟩ := exists_of_forall₂_left hforall hentry
          refine ⟨other, hok, ?_, attemptNumber_le_newest rest first other hother⟩
          rw [hfingerprint other hother, hfingerprint _ (newest_mem rest first)]

theorem selectPublished_eq_none {tree : ArtifactTree Bytes}
    (h : selectPublished platform workflowId definition cacheKey tree = .ok none) :
    tree definition.stageId cacheKey = .missing ∨
      tree definition.stageId cacheKey = .directory [] := by
  unfold selectPublished at h
  split at h
  · rename_i hroot; exact .inl hroot
  · exact absurd h (by simp)
  · rename_i entries hroot
    split at h
    · exact absurd h (by simp)
    · rename_i hverified
      have hforall := verifyCandidates_eq_ok hverified
      have hempty : sortedEntries entries = [] := List.forall₂_nil_right_iff.mp hforall
      have hlength : entries.length = 0 := by
        rw [← List.length_insertionSort (r := fun left right => left.1.text ≤ right.1.text) entries]
        exact congrArg List.length hempty
      rw [List.length_eq_zero_iff.mp hlength] at hroot
      exact .inr hroot
    · split at h
      · exact absurd h (by simp)
      · exact absurd h (by simp)

end Facts

end CartoSentry.Runstate
