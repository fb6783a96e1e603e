import CartoSentry.Artifacts.MappingText
import CartoSentry.Ingestion.AcceptedManifests
import CartoSentry.Runstate.Steps

set_option autoImplicit false

/-!
# Run state: what a cache key binds

`build_stage_cache_key` with the canonical JSON of `identifiers.py`, over the upstream hashes and
the relevant configuration of `RunEngine.cache_key`.
-/

namespace CartoSentry.Runstate.Canonical

open Artifacts (IdentityError canonicalSha256 canonicalJsonBytes jsonText jsonEntries
  quoted quoted_inj separated textObject mappingText mappingText_inj jsonText_mapping sortedBy
  sortedBy_key_eq_iff append_separator_inj DigestsApart)
open Foundation (bind_eq_ok_iff bind_unit_eq_ok_iff ok_bind)

/-! ## The key -/

/-- What `build_stage_cache_key` hashes. -/
def stageCacheKeyPayload (workflowId : String) (stageId : StageId)
    (sourceHashes upstreamArtifactHashes relevantConfigurationHashes : List (String × String))
    (algorithmVersion numericalBackend : String) : Foundation.JsonValue String :=
  .object [("algorithm_version", .string algorithmVersion),
    ("numerical_backend", .string numericalBackend),
    ("relevant_configuration_hashes", textObject (sortedMapping relevantConfigurationHashes)),
    ("source_hashes", textObject (sortedMapping sourceHashes)),
    ("stage_id", .string stageId),
    ("upstream_artifact_hashes", textObject (sortedMapping upstreamArtifactHashes)),
    ("workflow_id", .string workflowId)]

/-- `build_stage_cache_key` -/
def buildStageCacheKey (platform : Artifacts.Platform) (workflowId : String) (stageId : StageId)
    (sourceHashes upstreamArtifactHashes relevantConfigurationHashes : List (String × String))
    (algorithmVersion numericalBackend : String) : Except IdentityError Artifacts.Sha256 :=
  canonicalSha256 platform (stageCacheKeyPayload workflowId stageId sourceHashes
    upstreamArtifactHashes relevantConfigurationHashes algorithmVersion numericalBackend)

inductive CacheKeyError where
  | run (error : RunError)
  | identity (error : IdentityError)

/-- A stage with the inputs and the database under which its key is built.  The hashes of the
sources are a mapping, and `(stage_id, artifact_key)` is the primary key of the artifacts. -/
structure Evaluation (Bytes : Type) where
  inputs : RunInputs
  definitions : List (StageDefinition Bytes)
  definition : StageDefinition Bytes
  database : RunDatabase
  valid : validateStageDefinitions definitions = .ok ()
  member : definition ∈ definitions
  sources : (inputs.sourceHashes.map Prod.fst).Nodup
  artifactKeys : ∀ stageId, ((database.artifact stageId).map ArtifactRow.artifactKey).Nodup

namespace Evaluation

variable {Bytes : Type}

/-- What the key of a stage hashes: its configuration is read first, then its upstream stages. -/
def payload (evaluation : Evaluation Bytes) : Except RunError (Foundation.JsonValue String) := do
  let relevant ← relevantConfiguration evaluation.inputs evaluation.definition.stageId
    evaluation.definition.relevantConfigurationKeys
  let upstream ← upstreamHashes evaluation.database evaluation.definition.dependencies
  return stageCacheKeyPayload evaluation.inputs.workflowId evaluation.definition.stageId
    evaluation.inputs.sourceHashes upstream relevant evaluation.definition.algorithmVersion
    evaluation.inputs.numericalBackend

/-- `RunEngine.cache_key` -/
def cacheKey (platform : Artifacts.Platform) (evaluation : Evaluation Bytes) :
    Except CacheKeyError Artifacts.Sha256 :=
  match evaluation.payload with
  | .error error => .error (.run error)
  | .ok payload =>
    match canonicalSha256 platform payload with
    | .error error => .error (.identity error)
    | .ok key => .ok key

/-! ## What is bound -/

/-- The configuration that the stage lists. -/
def Configured (evaluation : Evaluation Bytes) (key digest : String) : Prop :=
  key ∈ evaluation.definition.relevantConfigurationKeys ∧
    evaluation.inputs.configurationHashes.lookup key = some digest

/-- The artifacts of the stages in front of the stage. -/
def Upstream (evaluation : Evaluation Bytes) (stageId : StageId) (artifactKey digest : String) :
    Prop :=
  stageId ∈ evaluation.definition.dependencies ∧
    (artifactKey, digest) ∈ evaluation.database.artifactHashes stageId

/-- Two evaluations with the same semantic inputs. -/
structure SameInputs (left right : Evaluation Bytes) : Prop where
  workflowId : left.inputs.workflowId = right.inputs.workflowId
  stageId : left.definition.stageId = right.definition.stageId
  algorithmVersion : left.definition.algorithmVersion = right.definition.algorithmVersion
  numericalBackend : left.inputs.numericalBackend = right.inputs.numericalBackend
  sources : ∀ key digest,
    (key, digest) ∈ left.inputs.sourceHashes ↔ (key, digest) ∈ right.inputs.sourceHashes
  configured : ∀ key digest, left.Configured key digest ↔ right.Configured key digest
  upstream : ∀ stageId artifactKey digest,
    left.Upstream stageId artifactKey digest ↔ right.Upstream stageId artifactKey digest

end Evaluation

/-! ## Definitions -/

section Definitions

variable {Bytes : Type}

/-- A stage identifier that the validation has admitted. -/
def PortableId (stageId : StageId) : Prop :=
  ∀ c ∈ stageId.toList, isStageIdCharacter c = true

theorem PortableId.colon_notMem {stageId : StageId} (h : PortableId stageId) :
    ':' ∉ stageId.toList := by
  intro hmem
  cases h ':' hmem

/-- What the validation of a definition leaves for its key. -/
structure Admitted (definition : StageDefinition Bytes) : Prop where
  portable : PortableId definition.stageId
  dependencies : definition.dependencies.Nodup
  configuration : definition.relevantConfigurationKeys.Nodup

theorem admitted_of_eq_ok {seen : List StageId} {item : StageDefinition Bytes}
    (h : validateStageDefinition seen item = .ok ()) : Admitted item := by
  unfold validateStageDefinition at h
  split_ifs at h with hid hportable hversion houtputs hdependencies hseen hkeys
  rw [List.any_eq_true, not_exists] at hportable
  refine ⟨fun c hc => ?_, hdependencies, hkeys⟩
  have hc' := not_and.mp (hportable c) hc
  simpa using hc'

/-- Every definition is admitted, and depends on portable identifiers. -/
theorem admitted_of_validated {definitions : List (StageDefinition Bytes)} {seen : List StageId}
    (h : validateStageDefinitionsFrom seen definitions = .ok ())
    (hseen : ∀ stageId ∈ seen, PortableId stageId) :
    ∀ definition ∈ definitions, Admitted definition ∧
      ∀ upstream ∈ definition.dependencies, PortableId upstream := by
  induction definitions generalizing seen with
  | nil => exact List.forall_mem_nil _
  | cons item rest ih =>
    unfold validateStageDefinitionsFrom at h
    split at h
    · cases h
    · rename_i hitem
      have hadmitted := admitted_of_eq_ok hitem
      obtain ⟨-, hupstream, -⟩ := validateStageDefinition_eq_ok hitem
      refine List.forall_mem_cons.mpr
        ⟨⟨hadmitted, fun upstream hmem => hseen upstream (hupstream upstream hmem)⟩, ih h ?_⟩
      intro stageId hmem
      rcases List.mem_append.mp hmem with hold | hnew
      · exact hseen stageId hold
      · rw [List.mem_singleton.mp hnew]
        exact hadmitted.portable

theorem Evaluation.admitted (evaluation : Evaluation Bytes) :
    Admitted evaluation.definition ∧
      ∀ upstream ∈ evaluation.definition.dependencies, PortableId upstream := by
  have hvalid := evaluation.valid
  unfold validateStageDefinitions at hvalid
  split_ifs at hvalid
  exact admitted_of_validated hvalid (List.forall_mem_nil _) _ evaluation.member

end Definitions

/-! ## Hashes -/

theorem relevantConfiguration_spec {inputs : RunInputs} {stageId : StageId} {keys : List String}
    {hashes : List (String × String)}
    (h : relevantConfiguration inputs stageId keys = .ok hashes) :
    hashes.map Prod.fst = keys ∧ ∀ key digest, (key, digest) ∈ hashes ↔
      key ∈ keys ∧ inputs.configurationHashes.lookup key = some digest := by
  induction keys generalizing hashes with
  | nil =>
    obtain rfl := Except.ok.inj h
    exact ⟨rfl, fun key digest => by simp⟩
  | cons first rest ih =>
    unfold relevantConfiguration at h
    split at h
    · cases h
    · rename_i value hvalue
      split at h
      · cases h
      · rename_i later hlater
        obtain rfl := Except.ok.inj h
        obtain ⟨hkeys, hentries⟩ := ih hlater
        refine ⟨by rw [List.map_cons, hkeys], fun key digest => ?_⟩
        rw [List.mem_cons, List.mem_cons, hentries, Prod.mk.injEq]
        constructor
        · rintro (⟨rfl, rfl⟩ | ⟨hmem, hlookup⟩)
          · exact ⟨.inl rfl, hvalue⟩
          · exact ⟨.inr hmem, hlookup⟩
        · rintro ⟨rfl | hmem, hlookup⟩
          · exact .inl ⟨rfl, Option.some_inj.mp (hlookup.symm.trans hvalue)⟩
          · exact .inr ⟨hmem, hlookup⟩

/-- The name of an artifact among the upstream hashes. -/
def upstreamName (stageId : StageId) (artifactKey : String) : String :=
  stageId ++ ":" ++ artifactKey

theorem upstreamName_inj {left right : StageId} {artifactKey artifactKey' : String}
    (hleft : PortableId left) (hright : PortableId right)
    (h : upstreamName left artifactKey = upstreamName right artifactKey') :
    left = right ∧ artifactKey = artifactKey' := by
  unfold upstreamName at h
  rw [← String.toList_inj, String.toList_append, String.toList_append, String.toList_append,
    String.toList_append, List.append_assoc, List.append_assoc] at h
  obtain ⟨hids, hkeys⟩ := append_separator_inj hleft.colon_notMem hright.colon_notMem h
  exact ⟨String.toList_inj.mp hids, String.toList_inj.mp hkeys⟩

theorem mem_upstreamHashes {database : RunDatabase} {dependencies : List StageId}
    {hashes : List (String × String)} (h : upstreamHashes database dependencies = .ok hashes)
    (name digest : String) : (name, digest) ∈ hashes ↔ ∃ stageId ∈ dependencies, ∃ artifactKey,
      name = upstreamName stageId artifactKey ∧
        (artifactKey, digest) ∈ database.artifactHashes stageId := by
  induction dependencies generalizing hashes with
  | nil =>
    obtain rfl := Except.ok.inj h
    simp
  | cons first rest ih =>
    unfold upstreamHashes at h
    split_ifs at h
    split at h
    · cases h
    · rename_i later hlater
      obtain rfl := Except.ok.inj h
      rw [List.mem_append, ih hlater, List.exists_mem_cons_iff]
      refine or_congr_left ?_
      rw [List.mem_map]
      constructor
      · rintro ⟨⟨artifactKey, value⟩, hmem, heq⟩
        obtain ⟨rfl, rfl⟩ := Prod.mk.inj heq
        exact ⟨artifactKey, rfl, hmem⟩
      · rintro ⟨artifactKey, rfl, hmem⟩
        exact ⟨(artifactKey, digest), hmem, rfl⟩

theorem nodup_artifactHashes {database : RunDatabase} {stageId : StageId}
    (h : ((database.artifact stageId).map ArtifactRow.artifactKey).Nodup) :
    ((database.artifactHashes stageId).map Prod.fst).Nodup := by
  unfold RunDatabase.artifactHashes RunDatabase.sortedArtifacts
  rw [List.map_map]
  exact ((List.perm_insertionSort _ _).map _).nodup_iff.mpr h

/-- The names of upstream artifacts are distinct. -/
theorem nodup_upstreamHashes {database : RunDatabase} {dependencies : List StageId}
    {hashes : List (String × String)} (h : upstreamHashes database dependencies = .ok hashes)
    (hdependencies : dependencies.Nodup) (hportable : ∀ stageId ∈ dependencies, PortableId stageId)
    (hkeys : ∀ stageId, ((database.artifact stageId).map ArtifactRow.artifactKey).Nodup) :
    (hashes.map Prod.fst).Nodup := by
  induction dependencies generalizing hashes with
  | nil =>
    obtain rfl := Except.ok.inj h
    exact List.nodup_nil
  | cons first rest ih =>
    obtain ⟨hfirst, hrest⟩ := List.nodup_cons.mp hdependencies
    obtain ⟨hid, hids⟩ := List.forall_mem_cons.mp hportable
    unfold upstreamHashes at h
    split_ifs at h
    split at h
    · cases h
    · rename_i later hlater
      obtain rfl := Except.ok.inj h
      rw [List.map_append, List.nodup_append', List.map_map]
      refine ⟨?_, ih hlater hrest hids, ?_⟩
      · have hnames := (nodup_artifactHashes (hkeys first)).map
          (f := upstreamName first) fun left right hname => (upstreamName_inj hid hid hname).2
        rwa [List.map_map] at hnames
      · intro name hhere hthere
        obtain ⟨⟨artifactKey, digest⟩, -, rfl⟩ := List.mem_map.mp hhere
        obtain ⟨⟨name, value⟩, hmem, hname⟩ := List.mem_map.mp hthere
        obtain ⟨stageId, hstage, otherKey, rfl, -⟩ := (mem_upstreamHashes hlater name value).mp hmem
        obtain ⟨rfl, -⟩ := upstreamName_inj (hids stageId hstage) hid hname
        exact hfirst hstage

/-! ## The text under the key -/

def payloadText (workflowId : String) (stageId : StageId)
    (sourceHashes upstreamArtifactHashes relevantConfigurationHashes : List (String × String))
    (algorithmVersion numericalBackend : String) : List Char :=
  '{' :: (separated [
    quoted "algorithm_version" ++ ':' :: quoted algorithmVersion,
    quoted "numerical_backend" ++ ':' :: quoted numericalBackend,
    quoted "relevant_configuration_hashes" ++
      ':' :: mappingText (sortedBy Prod.fst relevantConfigurationHashes),
    quoted "source_hashes" ++ ':' :: mappingText (sortedBy Prod.fst sourceHashes),
    quoted "stage_id" ++ ':' :: quoted stageId,
    quoted "upstream_artifact_hashes" ++
      ':' :: mappingText (sortedBy Prod.fst upstreamArtifactHashes),
    quoted "workflow_id" ++ ':' :: quoted workflowId] ++ ['}'])

theorem jsonText_sortedMapping (platform : Artifacts.Platform) (entries : List (String × String)) :
    jsonText platform (textObject (sortedMapping entries)) =
      .ok (mappingText (sortedBy Prod.fst entries)) := by
  rw [jsonText_mapping]
  exact congrArg (fun sorted => Except.ok (mappingText sorted))
    (Artifacts.sortedBy_sortedBy Prod.fst entries)

theorem jsonText_stageCacheKeyPayload (platform : Artifacts.Platform) (workflowId : String)
    (stageId : StageId)
    (sourceHashes upstreamArtifactHashes relevantConfigurationHashes : List (String × String))
    (algorithmVersion numericalBackend : String) :
    jsonText platform (stageCacheKeyPayload workflowId stageId sourceHashes upstreamArtifactHashes
      relevantConfigurationHashes algorithmVersion numericalBackend) =
    .ok (payloadText workflowId stageId sourceHashes upstreamArtifactHashes
      relevantConfigurationHashes algorithmVersion numericalBackend) := by
  have hsorted : ∀ (first second third fourth fifth sixth seventh : List Char),
      ([("algorithm_version", first), ("numerical_backend", second),
        ("relevant_configuration_hashes", third), ("source_hashes", fourth), ("stage_id", fifth),
        ("upstream_artifact_hashes", sixth), ("workflow_id", seventh)] :
          List (String × List Char)).Pairwise fun left right => left.1 ≤ right.1 := by
    intro first second third fourth fifth sixth seventh
    apply List.Pairwise.of_map Prod.fst fun _ _ hle => hle
    simp only [List.map_cons, List.map_nil]
    decide
  unfold stageCacheKeyPayload
  simp only [jsonText, jsonEntries, jsonText_sortedMapping, ok_bind]
  dsimp only [bind, Except.bind, pure, Except.pure]
  rw [(hsorted _ _ _ _ _ _ _).insertionSort_eq]
  rfl

/-- A field is what stands behind its name. -/
theorem field_inj {key : String} {left right : List Char}
    (h : quoted key ++ ':' :: left = quoted key ++ ':' :: right) : left = right :=
  (List.cons.inj (List.append_cancel_left h)).2

/-- The text under a key determines what is bound by it. -/
theorem payloadText_inj {workflowId workflowId' : String} {stageId stageId' : StageId}
    {sources sources' upstream upstream' relevant relevant' : List (String × String)}
    {algorithm algorithm' backend backend' : String}
    (h : payloadText workflowId stageId sources upstream relevant algorithm backend =
      payloadText workflowId' stageId' sources' upstream' relevant' algorithm' backend') :
    algorithm = algorithm' ∧ backend = backend' ∧
      sortedBy Prod.fst relevant = sortedBy Prod.fst relevant' ∧
      sortedBy Prod.fst sources = sortedBy Prod.fst sources' ∧ stageId = stageId' ∧
      sortedBy Prod.fst upstream = sortedBy Prod.fst upstream' ∧ workflowId = workflowId' := by
  unfold payloadText at h
  simp only [separated, List.append_assoc, List.cons_append] at h
  obtain ⟨halgorithm, h⟩ := quoted_inj (field_inj (List.cons.inj h).2)
  obtain ⟨hbackend, h⟩ := quoted_inj (field_inj (List.cons.inj h).2)
  obtain ⟨hrelevant, h⟩ := mappingText_inj (field_inj (List.cons.inj h).2)
  obtain ⟨hsources, h⟩ := mappingText_inj (field_inj (List.cons.inj h).2)
  obtain ⟨hstage, h⟩ := quoted_inj (field_inj (List.cons.inj h).2)
  obtain ⟨hupstream, h⟩ := mappingText_inj (field_inj (List.cons.inj h).2)
  obtain ⟨hworkflow, -⟩ := quoted_inj (field_inj (List.cons.inj h).2)
  exact ⟨halgorithm, hbackend, hrelevant, hsources, hstage, hupstream, hworkflow⟩

/-! ## Keys -/

section Keys

variable {Bytes : Type} {platform : Artifacts.Platform} {left right : Evaluation Bytes}
  {payload payload' : Foundation.JsonValue String}

/-- The mappings under a key, with distinct keys and the entries that they are made of. -/
structure Mappings (evaluation : Evaluation Bytes) (relevant upstream : List (String × String)) :
    Prop where
  relevantKeys : (relevant.map Prod.fst).Nodup
  upstreamKeys : (upstream.map Prod.fst).Nodup
  configured : ∀ key digest, (key, digest) ∈ relevant ↔ evaluation.Configured key digest
  named : ∀ name digest, (name, digest) ∈ upstream ↔ ∃ stageId artifactKey,
    name = upstreamName stageId artifactKey ∧ evaluation.Upstream stageId artifactKey digest

theorem Evaluation.payload_spec {evaluation : Evaluation Bytes}
    (h : evaluation.payload = .ok payload) : ∃ relevant upstream,
      Mappings evaluation relevant upstream ∧
      payload = stageCacheKeyPayload evaluation.inputs.workflowId evaluation.definition.stageId
        evaluation.inputs.sourceHashes upstream relevant evaluation.definition.algorithmVersion
        evaluation.inputs.numericalBackend := by
  obtain ⟨relevant, hrelevant, h⟩ := bind_eq_ok_iff.mp h
  obtain ⟨upstream, hupstream, h⟩ := bind_eq_ok_iff.mp h
  obtain ⟨hadmitted, hportable⟩ := evaluation.admitted
  obtain ⟨hkeys, hconfigured⟩ := relevantConfiguration_spec hrelevant
  refine ⟨relevant, upstream, ⟨?_, ?_, hconfigured, fun name digest => ?_⟩, (Except.ok.inj h).symm⟩
  · rw [hkeys]
    exact hadmitted.configuration
  · exact nodup_upstreamHashes hupstream hadmitted.dependencies hportable evaluation.artifactKeys
  · rw [mem_upstreamHashes hupstream]
    constructor
    · rintro ⟨stageId, hstage, artifactKey, hname, hmem⟩
      exact ⟨stageId, artifactKey, hname, hstage, hmem⟩
    · rintro ⟨stageId, artifactKey, hname, hstage, hmem⟩
      exact ⟨stageId, hstage, artifactKey, hname, hmem⟩

/-- An upstream artifact is found under its name. -/
theorem Mappings.upstream_iff {evaluation : Evaluation Bytes}
    {relevant upstream : List (String × String)} (h : Mappings evaluation relevant upstream)
    {stageId : StageId} (hid : PortableId stageId) (artifactKey digest : String) :
    (upstreamName stageId artifactKey, digest) ∈ upstream ↔
      evaluation.Upstream stageId artifactKey digest := by
  rw [h.named]
  constructor
  · rintro ⟨otherId, otherKey, hname, hstage, hmem⟩
    obtain ⟨rfl, rfl⟩ := upstreamName_inj hid (evaluation.admitted.2 otherId hstage) hname
    exact ⟨hstage, hmem⟩
  · exact fun hupstream => ⟨stageId, artifactKey, rfl, hupstream⟩

/-- The upstream mappings have the same entries where the upstream artifacts are the same. -/
theorem upstream_entries_iff {relevant relevant' upstream upstream' : List (String × String)}
    (hleft : Mappings left relevant upstream) (hright : Mappings right relevant' upstream') :
    (∀ entry, entry ∈ upstream ↔ entry ∈ upstream') ↔ ∀ stageId artifactKey digest,
      left.Upstream stageId artifactKey digest ↔ right.Upstream stageId artifactKey digest := by
  constructor
  · intro hentries stageId artifactKey digest
    by_cases hid : PortableId stageId
    · rw [← hleft.upstream_iff hid, ← hright.upstream_iff hid]
      exact hentries _
    · have hnone : ∀ evaluation : Evaluation Bytes,
          ¬ evaluation.Upstream stageId artifactKey digest :=
        fun evaluation hupstream => hid (evaluation.admitted.2 stageId hupstream.1)
      exact iff_of_false (hnone left) (hnone right)
  · rintro hsame ⟨name, digest⟩
    rw [hleft.named, hright.named]
    simp only [hsame]

/-- The same semantic inputs are hashed in the same form. -/
theorem payload_eq (hleft : left.payload = .ok payload) (hright : right.payload = .ok payload')
    (hsame : left.SameInputs right) : payload = payload' := by
  obtain ⟨relevant, upstream, hmaps, rfl⟩ := left.payload_spec hleft
  obtain ⟨relevant', upstream', hmaps', rfl⟩ := right.payload_spec hright
  have hsources : sortedMapping left.inputs.sourceHashes =
      sortedMapping right.inputs.sourceHashes :=
    (sortedBy_key_eq_iff left.sources right.sources).mpr fun entry =>
      hsame.sources entry.1 entry.2
  have hrelevant : sortedMapping relevant = sortedMapping relevant' :=
    (sortedBy_key_eq_iff hmaps.relevantKeys hmaps'.relevantKeys).mpr fun entry => by
      rw [hmaps.configured, hmaps'.configured]
      exact hsame.configured _ _
  have hupstream : sortedMapping upstream = sortedMapping upstream' :=
    (sortedBy_key_eq_iff hmaps.upstreamKeys hmaps'.upstreamKeys).mpr
      ((upstream_entries_iff hmaps hmaps').mpr hsame.upstream)
  unfold stageCacheKeyPayload
  rw [hsame.workflowId, hsame.stageId, hsame.algorithmVersion, hsame.numericalBackend, hsources,
    hrelevant, hupstream]

/-- The text under a key determines the semantic inputs. -/
theorem sameInputs_of_text {text : List Char} (hleft : left.payload = .ok payload)
    (hright : right.payload = .ok payload') (htext : jsonText platform payload = .ok text)
    (htext' : jsonText platform payload' = .ok text) : left.SameInputs right := by
  obtain ⟨relevant, upstream, hmaps, rfl⟩ := left.payload_spec hleft
  obtain ⟨relevant', upstream', hmaps', rfl⟩ := right.payload_spec hright
  rw [jsonText_stageCacheKeyPayload] at htext htext'
  obtain ⟨halgorithm, hbackend, hrelevant, hsources, hstage, hupstream, hworkflow⟩ :=
    payloadText_inj (Except.ok.inj (htext.trans htext'.symm))
  rw [sortedBy_key_eq_iff left.sources right.sources] at hsources
  rw [sortedBy_key_eq_iff hmaps.relevantKeys hmaps'.relevantKeys] at hrelevant
  rw [sortedBy_key_eq_iff hmaps.upstreamKeys hmaps'.upstreamKeys] at hupstream
  exact {
    workflowId := hworkflow
    stageId := hstage
    algorithmVersion := halgorithm
    numericalBackend := hbackend
    sources := fun key digest => hsources (key, digest)
    configured := fun key digest => by
      rw [← hmaps.configured, ← hmaps'.configured]
      exact hrelevant (key, digest)
    upstream := (upstream_entries_iff hmaps hmaps').mp hupstream }

theorem cacheKey_of_payload (h : left.payload = .ok payload) {key : Artifacts.Sha256}
    (hkey : left.cacheKey platform = .ok key) : ∃ text, jsonText platform payload = .ok text ∧
      key = platform.sha256 (text.flatMap String.utf8EncodeChar) := by
  unfold Evaluation.cacheKey at hkey
  rw [h] at hkey
  dsimp only at hkey
  split at hkey
  · cases hkey
  · rename_i digest hdigest
    obtain ⟨bytes, hbytes, hdigest⟩ := bind_eq_ok_iff.mp hdigest
    obtain ⟨text, htext, hbytes⟩ := bind_eq_ok_iff.mp (bind_unit_eq_ok_iff.mp hbytes).2
    obtain rfl := Except.ok.inj hbytes
    obtain rfl := Except.ok.inj hdigest
    exact ⟨text, htext, (Except.ok.inj hkey).symm⟩

/-- Two evaluations whose texts do not collide have one key when their semantic inputs are the
same; then they also fail alike. -/
theorem cache_key_binds (platform : Artifacts.Platform) (left right : Evaluation Bytes)
    (hleft : left.payload = .ok payload) (hright : right.payload = .ok payload')
    (hapart : DigestsApart platform [payload, payload']) :
    (∀ key key', left.cacheKey platform = .ok key → right.cacheKey platform = .ok key' →
      (key = key' ↔ left.SameInputs right)) ∧
    (left.SameInputs right → left.cacheKey platform = right.cacheKey platform) := by
  refine ⟨fun key key' hkey hkey' => ?_, fun hsame => ?_⟩
  · obtain ⟨text, htext, rfl⟩ := cacheKey_of_payload hleft hkey
    obtain ⟨text', htext', rfl⟩ := cacheKey_of_payload hright hkey'
    constructor
    · intro hdigests
      obtain rfl := hapart payload List.mem_cons_self payload'
        (List.mem_cons_of_mem _ List.mem_cons_self) text text' htext htext' hdigests
      exact sameInputs_of_text hleft hright htext htext'
    · intro hsame
      obtain rfl := payload_eq hleft hright hsame
      rw [Except.ok.inj (htext.symm.trans htext')]
  · unfold Evaluation.cacheKey
    rw [hleft, hright, payload_eq hleft hright hsame]

end Keys

/-! ## The key of the engine -/

section Engine

variable {Bytes : Type} {platform : Artifacts.Platform} {engine : Platform Bytes}

mutual

/-- A value of the engine among the values of `identifiers.py`. -/
def canonicalValue : JsonValue → Foundation.JsonValue String
  | .string value => .string value
  | .array items => .array (canonicalItems items)
  | .object entries => .object (canonicalEntries entries)

def canonicalItems : List JsonValue → List (Foundation.JsonValue String)
  | [] => []
  | item :: items => canonicalValue item :: canonicalItems items

def canonicalEntries : List (String × JsonValue) → List (String × Foundation.JsonValue String)
  | [] => []
  | (key, value) :: entries => (key, canonicalValue value) :: canonicalEntries entries

end

theorem canonicalValue_ofMapping (entries : List (String × String)) :
    canonicalValue (.ofMapping entries) = textObject (sortedMapping entries) := by
  unfold JsonValue.ofMapping textObject
  rw [canonicalValue]
  induction sortedMapping entries with
  | nil => rfl
  | cons entry rest ih =>
    rw [List.map_cons, List.map_cons, canonicalEntries, canonicalValue,
      Foundation.JsonValue.object.inj ih]

/-- Where the engine hashes values with `canonical_sha256`, its key is the one built here. -/
theorem engine_cacheKey_eq (hhash : ∀ value digest,
    canonicalSha256 platform (canonicalValue value) = .ok digest →
      engine.canonicalSha256 value = digest.text)
    {evaluation : Evaluation Bytes} {key : Artifacts.Sha256}
    (h : evaluation.cacheKey platform = .ok key) :
    Runstate.cacheKey engine evaluation.database evaluation.inputs evaluation.definition =
      .ok key.text := by
  unfold Evaluation.cacheKey at h
  split at h
  · cases h
  · rename_i payload hpayload
    split at h
    · cases h
    · rename_i digest hdigest
      obtain rfl := Except.ok.inj h
      obtain ⟨relevant, hrelevant, hpayload⟩ := bind_eq_ok_iff.mp hpayload
      obtain ⟨upstream, hupstream, hpayload⟩ := bind_eq_ok_iff.mp hpayload
      obtain rfl := Except.ok.inj hpayload
      unfold Runstate.cacheKey Runstate.buildStageCacheKey
      rw [hrelevant, hupstream]
      refine congrArg Except.ok (hhash _ digest ?_)
      rw [← hdigest]
      simp only [canonicalValue, canonicalEntries, canonicalValue_ofMapping]
      rfl

end Engine

/-! ## A stage with its sources in two orders -/

/-- The detection of a run on two sources, with one threshold of two that it lists. -/
def sampleDetection : StageDefinition Unit where
  stageId := "detect"
  dependencies := []
  algorithmVersion := "detect-v1"
  relevantConfigurationKeys := ["thresholds"]
  outputKeys := ["events"]
  execute _ := .ok []
  validateOutputs _ _ := .ok ()

def sampleInputs (sourceHashes : List (String × String)) (unlisted : String) : RunInputs where
  workflowId := "cache-contract-v1"
  sequenceId := "sequence"
  roadGraphId := "graph"
  profileId := "profile"
  engineVersion := "1.0.0"
  sourceHashes := sourceHashes
  configurationHashes := [("display", unlisted), ("thresholds", "aa")]
  numericalBackend := "cpu-reference"

def sampleEvaluation (sourceHashes : List (String × String)) (unlisted : String)
    (h : (sourceHashes.map Prod.fst).Nodup) : Evaluation Unit where
  inputs := sampleInputs sourceHashes unlisted
  definitions := [sampleDetection]
  definition := sampleDetection
  database := .created (sampleInputs sourceHashes unlisted) [sampleDetection]
  valid := by decide +kernel
  member := List.mem_cons_self
  sources := h
  artifactKeys _ := List.nodup_nil

/-- The order of the sources and an entry that is not listed are no semantic inputs. -/
theorem sample_sameInputs :
    (sampleEvaluation [("gps", "01"), ("lidar", "02")] "bb" (by decide)).SameInputs
      (sampleEvaluation [("lidar", "02"), ("gps", "01")] "cc" (by decide)) where
  workflowId := rfl
  stageId := rfl
  algorithmVersion := rfl
  numericalBackend := rfl
  sources key digest := by
    have hswap : [("gps", "01"), ("lidar", "02")].Perm [("lidar", "02"), ("gps", "01")] :=
      List.Perm.swap _ _ _
    exact hswap.mem_iff
  configured key digest := by
    refine and_congr_right fun hkey => ?_
    obtain rfl := List.mem_singleton.mp hkey
    exact Iff.rfl
  upstream _ _ _ := Iff.rfl

theorem cache_key_binds_reordered :
    (sampleEvaluation [("gps", "01"), ("lidar", "02")] "bb" (by decide)).cacheKey
        Ingestion.samplePlatform =
      (sampleEvaluation [("lidar", "02"), ("gps", "01")] "cc" (by decide)).cacheKey
        Ingestion.samplePlatform := by
  refine (cache_key_binds Ingestion.samplePlatform _ _ rfl rfl ?_).2 sample_sameInputs
  have hsame := payload_eq rfl rfl sample_sameInputs
  intro left hleft right hright text text' htext htext' _
  rw [← hsame, List.mem_pair, or_self] at hleft hright
  rw [hleft] at htext
  rw [hright] at htext'
  exact Except.ok.inj (htext.symm.trans htext')

end CartoSentry.Runstate.Canonical
