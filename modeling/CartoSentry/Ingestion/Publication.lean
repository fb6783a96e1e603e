import CartoSentry.Ingestion.AcceptedManifests
import CartoSentry.Ingestion.Staging

set_option autoImplicit false

/-!
# Ingestion: publication

Whatever an adapter does and whichever calls fail, and wherever the process is killed: the
output is not there, or it is there with its four files and their digests. What an accepted
result says is what the adapter has, and a rejected one names what blocks.
-/

namespace CartoSentry.Ingestion

open Artifacts (Identifier Platform Sha256 StreamId SequenceManifest)
open Foundation (Machine Outcome Proc Guarded JsonValue)

/-- A call fails that comes after the output is replaced. -/
def Environment.parentFails (env : Environment) : Prop :=
  env.fails .openParent = true ∨ env.fails .syncParent = true ∨ env.fails .closeParent = true

/-- A call of the `finally` clause fails. -/
def Environment.cleanUpFails (env : Environment) : Prop :=
  env.fails .closeWriter = true ∨ env.fails .findAttempt = true ∨ env.fails .removeAttempt = true

section Index

variable {env : Environment} {maximum : Nat} {F : Prop}

/-! ## The index -/

/-- The manifest is written. -/
def Written (manifestText : List UInt8) (d : Directory) : Prop :=
  d.manifest = some manifestText

/-- The manifest and the index are written, and the database is gone. -/
def Indexed (manifestText : List UInt8) (index : FrameIndex) (d : Directory) : Prop :=
  (Written manifestText d ∧ d.index = some index.content) ∧ d.database = none

/-- An index of what a scan has read. -/
def IndexRead (env : Environment) (budget : IngestionBudget) (adapter : ReadOnlyAdapter)
    (streamByKey : List (Identifier × StreamId)) (ranges : List SourceRangeSummary)
    (index : FrameIndex) : Prop :=
  ∃ writer, ScanRead env adapter streamByKey (.create budget.indexBatchBytes) ranges writer ∧
    index = writer.finish env.platform

theorem digest_of_indexRead {budget : IngestionBudget} {adapter : ReadOnlyAdapter}
    {streamByKey : List (Identifier × StreamId)} {ranges : List SourceRangeSummary}
    {index : FrameIndex} (h : IndexRead env budget adapter streamByKey ranges index) :
    index.digest = env.platform.sha256 index.content := by
  obtain ⟨writer, hscanned, rfl⟩ := h
  obtain ⟨_, _, _, _, _, hframes⟩ := hscanned.streams
  obtain ⟨entries, -, happended⟩ := hframes.appended
  obtain ⟨lines, -, hholds⟩ := IndexWriter.appendAll_spec happended (IndexWriter.holds_create _)
  unfold IndexWriter.finish
  rw [IndexWriter.flush_hashed, IndexWriter.flush_stream, hholds.hashed]

theorem collect_eq_ok {A : Type} {source : Yield A} {items : List A}
    (h : source.collect = .ok items) : source.raised = none ∧ source.items = items := by
  unfold Yield.collect at h
  cases hraised : source.raised with
  | none =>
    rw [hraised] at h
    exact ⟨rfl, Except.ok.inj h⟩
  | some e =>
    rw [hraised] at h
    cases h

theorem guarded_finishWriter (manifestText : List UInt8) (writer : IndexWriter) :
    Guarded (WholeOutput env.platform) (Attempting maximum F (Written manifestText))
      (finishWriter env writer)
      (fun index w => Attempting maximum F (fun d => Written manifestText d ∧
        d.index = some index.content) w ∧ index = writer.finish env.platform)
      (fun _ => NoOutput maximum) := by
  unfold finishWriter
  refine Guarded.bind (guarded_call moves_id) fun _ => ?_
  refine Guarded.bind (guarded_flushStream (T := fun d => Written manifestText d ∧
    d.index = some (writer.finish env.platform).content) (fun _ _ hd => hd)
    fun _ hd => ⟨hd, rfl⟩) fun _ => ?_
  refine Guarded.bind (guarded_call moves_id) fun _ => ?_
  refine Guarded.bind (guarded_remember (moves_writer _)) fun _ => ?_
  exact Guarded.bind (guarded_call moves_id) fun _ => Guarded.pure fun _ h => ⟨h, rfl⟩

theorem guarded_writeIndexFile (manifestText : List UInt8) (adapter : ReadOnlyAdapter)
    (budget : IngestionBudget) (streamByKey : List (Identifier × StreamId)) :
    Guarded (WholeOutput env.platform) (Attempting maximum F (Written manifestText))
      (writeIndexFile env adapter budget streamByKey)
      (fun result w =>
        Attempting maximum (F ∨ Repeats result.1) (Indexed manifestText result.2) w ∧
          IndexRead env budget adapter streamByKey result.1 result.2)
      (fun _ => NoOutput maximum) := by
  unfold writeIndexFile
  have hconnect : ∀ d, Written manifestText d →
      Seen (Written manifestText) (fun _ => False) { d with database := some [] } :=
    fun d hd => ⟨hd, [], rfl, fun row => ⟨fun hrow => absurd hrow List.not_mem_nil, False.elim⟩⟩
  have hopen : Moves (Seen (Written manifestText) fun _ => False)
      (Seen (Written manifestText) fun _ => False) fun w =>
        { onAttempt (·.put .index []) w with
          writer := some ⟨IndexWriter.create budget.indexBatchBytes, false⟩ } := by
    refine ⟨fun _ => rfl, fun _ => rfl, fun w d hattempt hd => ⟨d.put .index [], ?_, hd⟩⟩
    change w.attempt.map _ = _
    rw [hattempt]
    rfl
  refine Guarded.bind (guarded_call (moves_onAttempt hconnect)) fun _ => ?_
  refine Guarded.tryFinally (G := fun _ => NoOutput maximum)
    (Q := fun result : List SourceRangeSummary × FrameIndex => fun w =>
      Attempting maximum (F ∨ Repeats result.1)
        (fun d => Written manifestText d ∧ d.index = some result.2.content) w ∧
        IndexRead env budget adapter streamByKey result.1 result.2)
    ?_ (fun result => guarded_assuming fun hread => ?_) (fun e => ?_)
  · refine Guarded.bind (guarded_call moves_id) fun _ => ?_
    refine Guarded.bind (guarded_call hopen) fun _ => ?_
    refine Guarded.bind (guarded_scan (fun _ _ hd => hd) _ _ _) fun scanned =>
      guarded_assuming fun hscanned => ?_
    refine Guarded.bind (guarded_call moves_id) fun _ => ?_
    exact Guarded.bind (guarded_finishWriter manifestText _) fun index =>
      guarded_assuming fun hindex => Guarded.pure fun _ h => ⟨h, _, hscanned, hindex⟩
  · refine Guarded.bind (guarded_call moves_id) fun _ => ?_
    have hremove : Moves (fun d => Written manifestText d ∧ d.index = some result.2.content)
        (Indexed manifestText result.2)
        (onAttempt fun directory => { directory with database := none }) :=
      moves_onAttempt fun d hd => ⟨hd, rfl⟩
    exact (guarded_call hremove).weaken (fun _ hw => hw) (fun _ _ hw => ⟨hw, hread⟩)
      fun _ _ hw => hw
  · refine Guarded.bind (guarded_callNoOutput (D := fun _ => True) moves_id) fun _ => ?_
    exact guarded_callNoOutput (D := fun _ => True) (T := fun _ => True)
      (moves_onAttempt fun _ hd => hd)

end Index

/-! ## What is reported -/

/-- A result with what blocks it, beside an output on which `A` holds where it is accepted. -/
structure Reported (env : Environment) (budget : IngestionBudget)
    (A : IngestionQualification → Directory → Prop) (q : IngestionQualification) (w : Workspace) :
    Prop where
  flags : q.published = q.accepted
  blocked : q.structuralFindings.any StructuralFinding.isBlocking = !q.accepted
  limited : q.structuralFindings.length ≤ budget.maximumStructuralFindings
  accepted : q.accepted = true → ∃ directory artifacts, w.output = some directory ∧
    q.artifactSha256 = some artifacts ∧ directory.Published env.platform artifacts ∧ A q directory
  rejected : q.accepted = false → w.output = none ∨ env.parentFails

/-- What an error inside the `try` statement leaves. -/
structure Interrupted (env : Environment) (maximum : Nat) (e : Raised) (w : Workspace) : Prop where
  sound : w.findings.Sound maximum
  output : w.output = none ∨ e = .system ∧ env.parentFails

/-- The output is replaced by a directory with `D`. -/
structure Settled (platform : Platform) (maximum : Nat) (artifacts : ArtifactSha256)
    (D : Directory → Prop) (w : Workspace) : Prop where
  sound : w.findings.Sound maximum
  output : ∃ directory, w.output = some directory ∧ directory.Published platform artifacts ∧
    D directory

section Pass

variable {env : Environment} {budget : IngestionBudget} {maximum : Nat} {F : Prop}
  {D : Directory → Prop} {A A' : IngestionQualification → Directory → Prop}
  {artifacts : ArtifactSha256}

theorem NoOutput.interrupted {w : Workspace} (h : NoOutput maximum w) (e : Raised) :
    Interrupted env maximum e w :=
  ⟨h.sound, .inl h.absent⟩

/-- A call once the output is replaced: it changes nothing, or fails. -/
theorem guarded_callSettled {c : FileCall} (hc : env.fails c = true → env.parentFails) :
    Guarded (WholeOutput env.platform) (Settled env.platform maximum artifacts D) (call env c id)
      (fun _ => Settled env.platform maximum artifacts D)
      (fun e w => e = .system ∧ env.parentFails ∧ w.findings.Sound maximum) := by
  unfold call
  refine Guarded.ite (fun hfails => Guarded.raise fun w hw => ⟨rfl, hc hfails, hw.sound⟩)
    fun _ => ?_
  exact Guarded.transact fun w hwhole hw => ⟨_, rfl, hwhole, hw⟩

theorem guarded_syncParent :
    Guarded (WholeOutput env.platform) (Settled env.platform maximum artifacts D)
      (syncDirectory env .openParent .syncParent .closeParent)
      (fun _ => Settled env.platform maximum artifacts D) (Interrupted env maximum) := by
  have hclose : ∀ e : Raised, Guarded (WholeOutput env.platform)
      (fun w => e = .system ∧ env.parentFails ∧ w.findings.Sound maximum) (call env .closeParent id)
      (fun _ w => e = .system ∧ env.parentFails ∧ w.findings.Sound maximum)
      (fun e' w => e' = .system ∧ env.parentFails ∧ w.findings.Sound maximum) := by
    intro e
    unfold call
    exact Guarded.ite (fun _ => Guarded.raise fun w hw => ⟨rfl, hw.2⟩) fun _ =>
      Guarded.transact fun w hwhole hw => ⟨_, rfl, hwhole, hw⟩
  unfold syncDirectory
  refine (Guarded.bind (guarded_callSettled .inl) fun _ => ?_).raising fun e w (hw : e = .system ∧ env.parentFails ∧ w.findings.Sound maximum) =>
      ⟨hw.2.2, .inr ⟨hw.1, hw.2.1⟩⟩
  exact Guarded.tryFinally (guarded_callSettled fun h => .inr (.inl h))
    (fun _ => guarded_callSettled fun h => .inr (.inr h)) hclose

/-- The replacement publishes a directory that holds the four files. -/
theorem guarded_replace (artifacts : ArtifactSha256) (hD : ∀ d, D d → d.Published env.platform artifacts) :
    Guarded (WholeOutput env.platform) (Attempting maximum F D)
      (call env .replace fun w => { w with output := w.attempt, attempt := none })
      (fun _ => Settled env.platform maximum artifacts D) (fun _ => NoOutput maximum) := by
  unfold call
  refine Guarded.ite (fun _ => Guarded.raise fun w hw => hw.noOutput) fun _ => ?_
  refine Guarded.transact fun w _ hw => ?_
  obtain ⟨directory, hattempt, hdirectory⟩ := hw.directory
  refine ⟨_, rfl, fun other hother => ?_, hw.noted.1, directory, hattempt, hD _ hdirectory,
    hdirectory⟩
  obtain rfl := Option.some.inj (hattempt.symm.trans hother)
  exact ⟨artifacts, hD _ hdirectory⟩

/-- What an accepted result says, and what its directory holds. -/
structure Recorded (env : Environment) (budget : IngestionBudget) (adapter : ReadOnlyAdapter)
    (sources : List AdapterSourceFile) (q : IngestionQualification) (directory : Directory) :
    Prop where
  content : ∃ files identity manifest streamByKey text index,
    hashSources env.platform adapter.sourceChunks budget.hashChunkBytes sources =
      .ok (files, identity) ∧
    buildManifest env.platform adapter.toManifestAdapter files identity =
      .ok (manifest, streamByKey) ∧
    env.canonicalizePortableArtifact manifest = .ok text ∧
    Indexed (text ++ String.utf8EncodeChar '\n') index directory ∧
    IndexRead env budget adapter streamByKey q.sourceRanges index ∧
    q.sequenceId = some manifest.sequenceId ∧ q.frameIndexEntryCount = index.entryCount
  distinct : ¬ Repeats q.sourceRanges
  unchanged : adapter.latestSourceFiles.raised = none ∧
    sameSnapshots adapter.latestSourceFiles.items sources = true

section Budget

variable (budgetSha256 : Sha256)

theorem guarded_publish (manifest : SequenceManifest) (manifestText : List UInt8)
    (index : FrameIndex) (hindex : index.digest = env.platform.sha256 index.content)
    (ranges : List SourceRangeSummary) (findings : List StructuralFinding)
    (hfindings : findings.any StructuralFinding.isBlocking = false)
    (hlimited : findings.length ≤ budget.maximumStructuralFindings)
    (hA : ∀ q d, q.sourceRanges = ranges → q.sequenceId = some manifest.sequenceId →
      q.frameIndexEntryCount = index.entryCount → Indexed manifestText index d → A q d) :
    Guarded (WholeOutput env.platform) (Attempting maximum F (Indexed manifestText index))
      (publish env budget budgetSha256 manifest (env.platform.sha256 manifestText) index ranges
        findings) (Reported env budget A) (Interrupted env maximum) := by
  unfold publish
  refine guarded_bindExcept (fun e _ hw => hw.noOutput.interrupted e) fun summary hsummary => ?_
  refine Guarded.bind ((guarded_writeJson .summary fun _ _ hd => hd).raising fun e _ hw => hw.interrupted e) fun summarySha256 => ?_
  refine Guarded.bind ((guarded_writeJson .completion fun _ _ hd => hd).raising fun e _ hw => hw.interrupted e) fun completionSha256 => ?_
  refine Guarded.bind (guarded_syncDirectory.raising fun e _ hw => hw.interrupted e) fun _ => ?_
  let artifacts : ArtifactSha256 :=
    ⟨completionSha256, index.digest, env.platform.sha256 manifestText, summarySha256⟩
  refine Guarded.bind ((guarded_replace artifacts fun d hd => ?_).raising fun e _ hw => hw.interrupted e) fun _ => ?_
  · obtain ⟨⟨⟨⟨hmanifest, hfile⟩, hdatabase⟩, text, -, hsummary, hdigest⟩, listed, hlisted,
      hcompletion, hcompletionDigest⟩ := hd
    refine ⟨fun name => ?_, ⟨_, listed, hlisted, hcompletion, rfl, rfl, rfl⟩, hdatabase⟩
    cases name with
    | manifest => exact ⟨_, hmanifest, rfl⟩
    | index => exact ⟨_, hfile, hindex⟩
    | summary => exact ⟨_, hsummary, hdigest⟩
    | completion => exact ⟨_, hcompletion, hcompletionDigest⟩
  · refine Guarded.bind guarded_syncParent fun _ => Guarded.pure fun w hw => ?_
    have hsaid : summary.sequenceId = manifest.sequenceId ∧ summary.sourceRanges = ranges ∧
        summary.structuralFindings = findings := by
      unfold summarize at hsummary
      obtain ⟨_, -, hsummary⟩ := Foundation.bind_eq_ok_iff.mp hsummary
      obtain ⟨_, -, hsummary⟩ := Foundation.bind_eq_ok_iff.mp hsummary
      obtain ⟨_, -, hsummary⟩ := Foundation.bind_eq_ok_iff.mp hsummary
      obtain ⟨_, -, hsummary⟩ := Foundation.bind_eq_ok_iff.mp hsummary
      obtain rfl := Except.ok.inj hsummary
      exact ⟨rfl, rfl, rfl⟩
    obtain ⟨hsequence, hranges, hreported⟩ := hsaid
    obtain ⟨directory, houtput, hpublished, hdirectory⟩ := hw.output
    refine ⟨rfl, ?_, ?_, fun _ => ⟨directory, artifacts, houtput, rfl, hpublished, ?_⟩, ?_⟩
    · change summary.structuralFindings.any _ = _
      rw [hreported, hfindings]
      rfl
    · change summary.structuralFindings.length ≤ _
      rwa [hreported]
    · exact hA _ _ hranges (congrArg some hsequence) rfl hdirectory.1.1
    · intro hrejected
      cases hrejected

/-! ## The statement with its handlers -/

theorem guarded_failure {X : Workspace → Prop} {sources : List AdapterSourceFile}
    {ranges : List SourceRangeSummary} {maximumBatchBytes : Workspace → Nat}
    {E : Raised → Workspace → Prop}
    (hX : ∀ w, X w → w.findings.Noted budget.maximumStructuralFindings True ∧
      (w.output = none ∨ env.parentFails)) :
    Guarded (WholeOutput env.platform) X
      (failure budget budgetSha256 sources ranges maximumBatchBytes)
      (fun q w => Reported env budget A q w ∧ X w) E := by
  unfold failure
  refine Guarded.readBind fun w hw => Guarded.pure ?_
  rintro s rfl
  obtain ⟨hnoted, houtput⟩ := hX s hw
  refine ⟨⟨rfl, ?_, hnoted.1.values_length_le, ?_, fun _ => houtput⟩, hw⟩
  · exact (FindingCollector.any_values _).trans (hnoted.2 trivial)
  · intro haccepted
    cases haccepted

theorem guarded_stage (adapter : ReadOnlyAdapter) (sources : List AdapterSourceFile) :
    Guarded (WholeOutput env.platform)
      (Attempting budget.maximumStructuralFindings False fun _ => True)
      (stage env budget budgetSha256 adapter sources)
      (Reported env budget (Recorded env budget adapter sources))
      (Interrupted env budget.maximumStructuralFindings) := by
  unfold stage
  refine guarded_bindExcept (fun e _ hw => hw.noOutput.interrupted e) fun hashed hhashed => ?_
  obtain ⟨files, identity⟩ := hashed
  refine guarded_bindExcept (fun e _ hw => hw.noOutput.interrupted e) fun built hbuilt => ?_
  obtain ⟨manifest, streamByKey⟩ := built
  refine guarded_bindExcept (fun e _ hw => hw.noOutput.interrupted e) fun text htext => ?_
  have hwritten : Guarded (WholeOutput env.platform)
      (Attempting budget.maximumStructuralFindings False fun _ => True)
      (writeFile env .manifest (text ++ String.utf8EncodeChar '\n'))
      (fun _ => Attempting budget.maximumStructuralFindings False
        (Written (text ++ String.utf8EncodeChar '\n')))
      (fun _ => NoOutput budget.maximumStructuralFindings) :=
    guarded_writeFile _ _ (fun _ _ _ => trivial) fun _ _ => rfl
  refine Guarded.bind (hwritten.raising fun e _ hw => hw.interrupted e) fun _ => ?_
  refine Guarded.bind ((guarded_writeIndexFile _ adapter budget _).raising
    fun e _ hw => hw.interrupted e) fun result => guarded_assuming fun hread => ?_
  refine guarded_bindExcept (fun e _ hw => hw.noOutput.interrupted e) fun latest hlatest => ?_
  have hcompared : Guarded (WholeOutput env.platform)
      (Attempting budget.maximumStructuralFindings (False ∨ Repeats result.1)
        (Indexed (text ++ String.utf8EncodeChar '\n') result.2))
      (Proc.when (!sameSnapshots latest sources) (addFinding sourceChanged))
      (fun _ => Attempting budget.maximumStructuralFindings
        (Repeats result.1 ∨ sameSnapshots latest sources = false)
        (Indexed (text ++ String.utf8EncodeChar '\n') result.2))
      (Interrupted env budget.maximumStructuralFindings) := by
    refine Guarded.when (fun _ => ?_) fun hsame w hw => ?_
    · exact (guarded_addFinding _).weaken (fun _ hw => hw)
        (fun _ _ hw => hw.of_imp (fun _ => .inr rfl) fun _ hd => hd) fun e _ hw => hw.interrupted e
    · refine hw.of_imp ?_ fun _ hd => hd
      rintro (hrepeats | hchanged)
      · exact .inr hrepeats
      · rw [hchanged] at hsame
        cases hsame
  refine Guarded.bind hcompared fun _ => ?_
  refine Guarded.ite (fun _ => Guarded.raise fun w hw => hw.noOutput.interrupted _) fun _ => ?_
  refine Guarded.readBind fun w hw => Guarded.ite (fun hblocking => ?_) fun hclear => ?_
  · refine (guarded_failure budgetSha256 ?_).weaken (fun _ hs => hs) (fun _ _ hs => hs.1)
      fun _ _ hs => hs
    rintro _ rfl
    exact ⟨⟨hw.noted.1, fun _ => hblocking⟩, .inl hw.absent⟩
  · obtain ⟨writer, hscanned, hindex⟩ := id hread
    have hquiet : ¬ (Repeats result.1 ∨ sameSnapshots latest sources = false) :=
      fun hF => hclear (hw.noted.2 hF)
    have hsame : sameSnapshots latest sources = true :=
      Bool.of_not_eq_false fun hchanged => hquiet (.inr hchanged)
    obtain ⟨hraised, hitems⟩ := collect_eq_ok hlatest
    have hfindings : w.findings.values.any StructuralFinding.isBlocking = false := by
      rw [FindingCollector.any_values]
      exact Bool.eq_false_iff.mpr hclear
    refine (guarded_publish (F := Repeats result.1 ∨ sameSnapshots latest sources = false)
      budgetSha256 manifest _ result.2 (digest_of_indexRead hread) result.1 _ hfindings
      hw.noted.1.values_length_le ?_).before ?_
    · intro q d hranges hsequence hcount hd
      refine ⟨⟨files, identity, manifest, streamByKey, text, result.2, hhashed, hbuilt, htext, hd,
        ?_, hsequence, hcount⟩, ?_, hraised, ?_⟩
      · rw [hranges]
        exact hread
      · rw [hranges]
        exact fun hrepeats => hquiet (.inl hrepeats)
      · rw [hitems]
        exact hsame
    · rintro _ rfl
      exact hw

theorem guarded_addKeeps {X Y : Workspace → Prop} (finding : StructuralFinding)
    {E : Raised → Workspace → Prop}
    (hX : ∀ w, X w → Y { w with findings := w.findings.add finding }) :
    Guarded (WholeOutput env.platform) X (addFinding finding) (fun _ => Y) E := by
  unfold addFinding remember
  exact Guarded.transact fun w hwhole hw => ⟨_, rfl, hwhole, hX w hw⟩

theorem add_blocking {collector : FindingCollector} (h : collector.Sound maximum)
    {finding : StructuralFinding} (hblocking : finding.isBlocking = true) :
    (collector.add finding).Noted maximum True :=
  ⟨(h.add finding).1, fun _ => (h.add finding).2 (.inr hblocking)⟩

theorem adapterFailure_blocking {field sourceKey : String} {record : Nat}
    {finding : StructuralFinding} (h : adapterFailure field sourceKey record = .ok finding) :
    finding.isBlocking = true := by
  unfold adapterFailure at h
  simp only at h
  split at h
  · cases h
  · obtain rfl := Except.ok.inj h
    rfl

/-- The handlers leave the output as they find it, and name what blocks. -/
theorem guarded_answer (sources : List AdapterSourceFile) (e : Raised)
    (answer' : Indexing IngestionQualification)
    (hanswer : answer budget budgetSha256 sources e = some answer') :
    Guarded (WholeOutput env.platform) (Interrupted env budget.maximumStructuralFindings e) answer'
      (Reported env budget A) (fun _ => NoOutput budget.maximumStructuralFindings) := by
  cases e with
  | boreas field sourceKey record =>
    obtain rfl := Option.some.inj hanswer
    have hnone : ∀ w, Interrupted env budget.maximumStructuralFindings
        (.boreas field sourceKey record) w → NoOutput budget.maximumStructuralFindings w := by
      intro w hw
      rcases hw.output with houtput | ⟨herror, -⟩
      · exact ⟨houtput, hw.sound⟩
      · cases herror
    refine guarded_bindExcept (fun e w hw => hnone w hw) fun finding hfinding => ?_
    refine Guarded.bind (guarded_addKeeps (Y := fun w => w.output = none ∧
      w.findings.Noted budget.maximumStructuralFindings True) finding fun w hw => ?_) fun _ =>
        (guarded_failure budgetSha256 fun w hw => ⟨hw.2, .inl hw.1⟩).weaken (fun _ hw => hw)
          (fun _ _ hw => hw.1) fun _ _ hw => hw
    exact ⟨(hnone w hw).absent, add_blocking hw.sound (adapterFailure_blocking hfinding)⟩
  | system =>
    obtain rfl := Option.some.inj hanswer
    refine Guarded.bind (guarded_addKeeps (Y := fun w => (w.output = none ∨ env.parentFails) ∧
      w.findings.Noted budget.maximumStructuralFindings True) readError fun w hw => ?_) fun _ =>
        (guarded_failure budgetSha256 fun w hw => ⟨hw.2, hw.1⟩).weaken (fun _ hw => hw)
          (fun _ _ hw => hw.1) fun _ _ hw => hw
    exact ⟨hw.output.imp_right And.right, add_blocking hw.sound rfl⟩
  | identity error => cases hanswer
  | missingKey key => cases hanswer
  | other message => cases hanswer

/-- The `finally` clause removes the attempt, unless one of its calls fails. -/
theorem guarded_cleanUp {X : Workspace → Prop}
    (hX : ∀ w, X w → X { w with attempt := none }) :
    Guarded (WholeOutput env.platform) X (cleanUp env) (fun _ w => X w ∧ w.attempt = none)
      (fun _ w => X w ∧ env.cleanUpFails) := by
  have hcall : ∀ c, (env.fails c = true → env.cleanUpFails) →
      Guarded (WholeOutput env.platform) X (call env c id) (fun _ => X)
        (fun _ w => X w ∧ env.cleanUpFails) := by
    intro c hc
    unfold call
    exact Guarded.ite (fun hfails => Guarded.raise fun w hw => ⟨hw, hc hfails⟩) fun _ =>
      Guarded.transact fun w hwhole hw => ⟨_, rfl, hwhole, hw⟩
  unfold cleanUp
  refine Guarded.readBind fun w hw => ?_
  refine Guarded.before ?_ (fun s (hs : s = w) => hs ▸ hw)
  refine Guarded.bind (Guarded.when (fun _ => hcall .closeWriter .inl) fun _ _ hw => hw) fun _ => ?_
  refine Guarded.bind (hcall .findAttempt fun h => .inr (.inl h)) fun _ => ?_
  refine Guarded.readBind fun w hw => Guarded.when (fun _ => ?_) fun hnone s hs => ?_
  · refine Guarded.before ?_ (fun s (hs : s = w) => hs ▸ hw)
    unfold call
    refine Guarded.ite (fun hfails => Guarded.raise fun s hs => ⟨hs, .inr (.inr hfails)⟩) fun _ =>
      Guarded.transact fun s hwhole hs => ⟨_, rfl, hwhole, hX s hs, rfl⟩
  · obtain rfl := hs
    exact ⟨hw, Option.isNone_iff_eq_none.mp (Option.isSome_eq_false_iff.mp hnone)⟩

/-! ## The whole pass -/

/-- Neither an output nor an attempt, and that `F` blocks. -/
structure Clear (maximum : Nat) (F : Prop) (w : Workspace) : Prop where
  absent : w.output = none
  fresh : w.attempt = none
  noted : w.findings.Noted maximum F

/-- What is left when an error is raised: nothing, unless a call of the cleanup failed. -/
def Abandoned (env : Environment) (w : Workspace) : Prop :=
  (w.output = none ∧ w.attempt = none) ∨ env.cleanUpFails

theorem Clear.abandoned {w : Workspace} (h : Clear maximum F w) : Abandoned env w :=
  .inl ⟨h.absent, h.fresh⟩

theorem Clear.of_imp {F' : Prop} {w : Workspace} (h : Clear maximum F w) (hF : F' → F) :
    Clear maximum F' w :=
  ⟨h.absent, h.fresh, h.noted.of_imp hF⟩

theorem guarded_addClear (finding : StructuralFinding) (hblocking : finding.isBlocking = true) :
    Guarded (WholeOutput env.platform) (Clear maximum F) (addFinding finding)
      (fun _ => Clear maximum True) (fun _ => Abandoned env) :=
  guarded_addKeeps finding fun _ hw => ⟨hw.absent, hw.fresh, add_blocking hw.noted.1 hblocking⟩

theorem guarded_enumerateSources (sources : Yield AdapterSourceFile) :
    Guarded (WholeOutput env.platform) (Clear maximum False) (enumerateSources budget sources)
      (fun enumerated w =>
        Clear maximum (¬ (enumerated = sources.items ∧ sources.raised = none ∧
          sources.items.length ≤ budget.maximumSourceFiles)) w)
      (fun _ w => Clear maximum False w) := by
  unfold enumerateSources
  refine Guarded.ite (fun hmany => ?_) fun hfew => Guarded.ofExcept ?_ fun _ _ _ hw => hw
  · refine Guarded.bind (guarded_addKeeps (Y := Clear maximum True) _ fun w hw =>
      ⟨hw.absent, hw.fresh, add_blocking hw.noted.1 rfl⟩) fun _ => ?_
    exact Guarded.pure fun w hw => hw.of_imp fun _ => trivial
  · intro enumerated hcollected w hw
    obtain ⟨hraised, hitems⟩ := collect_eq_ok hcollected
    refine hw.of_imp fun hnot => hnot ⟨hitems.symm, hraised, ?_⟩
    exact Nat.le_of_not_lt hfew

theorem guarded_checkSources (enumerated : List AdapterSourceFile) :
    Guarded (WholeOutput env.platform) (Clear maximum F) (checkSources enumerated)
      (fun _ => Clear maximum (F ∨ ¬ (enumerated ≠ [] ∧
        (enumerated.map AdapterSourceFile.sourceKey).Nodup))) (fun _ => Abandoned env) := by
  have hempty : Guarded (WholeOutput env.platform) (Clear maximum F)
      (Proc.when enumerated.isEmpty (addFinding noSources))
      (fun _ => Clear maximum (F ∨ enumerated = [])) (fun _ => Abandoned env) := by
    refine Guarded.when (fun _ => ?_) fun hsome w hw => hw.of_imp ?_
    · exact (guarded_addClear noSources rfl).weaken (fun _ hw => hw)
        (fun _ _ hw => hw.of_imp fun _ => trivial) fun _ _ hw => hw
    · rintro (hF | rfl)
      · exact hF
      · cases hsome
  have hstep : ∀ (front : List AdapterSourceFile) (source : AdapterSourceFile)
      (seen : List String), Guarded (WholeOutput env.platform)
        (fun w => (∀ key, key ∈ seen ↔ key ∈ front.map AdapterSourceFile.sourceKey) ∧
          Clear maximum ((F ∨ enumerated = []) ∨
            ¬ (front.map AdapterSourceFile.sourceKey).Nodup) w)
        (do
          Proc.when (seen.contains source.sourceKey) (addFinding (duplicateSourceKey source))
          return source.sourceKey :: seen)
        (fun next w =>
          (∀ key, key ∈ next ↔ key ∈ (front ++ [source]).map AdapterSourceFile.sourceKey) ∧
          Clear maximum ((F ∨ enumerated = []) ∨
            ¬ ((front ++ [source]).map AdapterSourceFile.sourceKey).Nodup) w)
        (fun _ => Abandoned env) := by
    intro front source seen
    refine Guarded.perStore fun w hw => Guarded.before ?_ (fun s (hs : s = w) => hs ▸ hw.2)
    have hseen := hw.1
    have hnext : ∀ key, key ∈ source.sourceKey :: seen ↔
        key ∈ (front ++ [source]).map AdapterSourceFile.sourceKey := by
      intro key
      rw [List.mem_cons, hseen, List.map_append, List.map_singleton, List.mem_append,
        List.mem_singleton, or_comm]
    refine Guarded.bind (R := fun _ => Clear maximum ((F ∨ enumerated = []) ∨
      ¬ ((front ++ [source]).map AdapterSourceFile.sourceKey).Nodup)) ?_ fun _ =>
        Guarded.pure fun s hs => ⟨hnext, hs⟩
    refine Guarded.when (fun _ => ?_) fun hfresh s hs => hs.of_imp ?_
    · exact (guarded_addClear _ rfl).weaken (fun _ hw => hw)
        (fun _ _ hw => hw.of_imp fun _ => trivial) fun _ _ hw => hw
    · rintro (hF | hrepeated)
      · exact .inl hF
      · refine .inr fun hnodup => hrepeated ?_
        rw [List.map_append, List.map_singleton]
        refine hnodup.append (List.nodup_singleton _) fun key hkey hsource => ?_
        obtain rfl := List.mem_singleton.mp hsource
        rw [← hseen] at hkey
        rw [List.contains_iff_mem.mpr hkey] at hfresh
        cases hfresh
  unfold checkSources
  refine Guarded.bind hempty fun _ => ?_
  have hloop := Guarded.forEach (S := WholeOutput env.platform) (E := fun _ => Abandoned env)
    enumerated []
    (I := fun (front : List AdapterSourceFile) (seen : List String) w =>
      (∀ key, key ∈ seen ↔ key ∈ front.map AdapterSourceFile.sourceKey) ∧
        Clear maximum ((F ∨ enumerated = []) ∨
          ¬ (front.map AdapterSourceFile.sourceKey).Nodup) w)
    fun front source seen _ => hstep front source seen
  refine Guarded.bind (hloop.before fun w hw => ⟨fun key => Iff.rfl, hw.of_imp ?_⟩) fun _ =>
    Guarded.pure fun w hw => hw.2.of_imp ?_
  · rintro (hF | hrepeated)
    · exact hF
    · exact absurd List.nodup_nil hrepeated
  · rintro (hF | hnot)
    · exact .inl (.inl hF)
    · by_cases hnil : enumerated = []
      · exact .inl (.inr hnil)
      · exact .inr fun hnodup => hnot ⟨hnil, hnodup⟩

theorem guarded_answerEnumeration (e : Raised)
    (answer' : Indexing (Option (List AdapterSourceFile)))
    (hanswer : answerEnumeration e = some answer') :
    Guarded (WholeOutput env.platform) (Clear maximum False) answer'
      (fun enumerated w => enumerated = none ∧ Clear maximum True w) (fun _ => Abandoned env) := by
  cases e with
  | boreas field sourceKey record =>
    obtain rfl := Option.some.inj hanswer
    refine guarded_bindExcept (fun _ _ hw => hw.abandoned) fun finding hfinding => ?_
    exact Guarded.bind (guarded_addClear _ (adapterFailure_blocking hfinding)) fun _ =>
      Guarded.pure fun w hw => ⟨rfl, hw⟩
  | system => cases hanswer
  | identity error => cases hanswer
  | missingKey key => cases hanswer
  | other message => cases hanswer

theorem Reported.imp {q : IngestionQualification} {w : Workspace} (h : Reported env budget A q w)
    (hA : ∀ directory, A q directory → A' q directory) : Reported env budget A' q w := by
  refine ⟨h.flags, h.blocked, h.limited, fun haccepted => ?_, h.rejected⟩
  obtain ⟨directory, artifacts, houtput, hartifacts, hpublished, hdirectory⟩ := h.accepted haccepted
  exact ⟨directory, artifacts, houtput, hartifacts, hpublished, hA directory hdirectory⟩

/-- The attempt from its directory to its cleanup. -/
theorem guarded_attempt (adapter : ReadOnlyAdapter) (sources : List AdapterSourceFile) :
    Guarded (WholeOutput env.platform)
      (Attempting budget.maximumStructuralFindings False fun _ => True)
      (Proc.tryFinally
        (Proc.tryExcept (stage env budget budgetSha256 adapter sources)
          (answer budget budgetSha256 sources)) (cleanUp env))
      (fun q w => Reported env budget (Recorded env budget adapter sources) q w ∧
        w.attempt = none) (fun _ => Abandoned env) := by
  have hbody : Guarded (WholeOutput env.platform)
      (Attempting budget.maximumStructuralFindings False fun _ => True)
      (Proc.tryExcept (stage env budget budgetSha256 adapter sources)
        (answer budget budgetSha256 sources))
      (Reported env budget (Recorded env budget adapter sources))
      (fun _ => NoOutput budget.maximumStructuralFindings) := by
    refine Guarded.tryExcept (guarded_stage budgetSha256 adapter sources)
      (guarded_answer budgetSha256 sources) fun e hpassed w hw => ?_
    rcases hw.output with houtput | ⟨rfl, -⟩
    · exact ⟨houtput, hw.sound⟩
    · cases hpassed
  refine Guarded.tryFinally hbody (fun q => ?_) fun e => ?_
  · refine (guarded_cleanUp fun w hw => ?_).raising fun _ _ hw => .inr hw.2
    exact ⟨hw.flags, hw.blocked, hw.limited, hw.accepted, hw.rejected⟩
  · refine (guarded_cleanUp (X := NoOutput budget.maximumStructuralFindings) fun w hw => ?_).weaken
      (fun _ hw => hw) (fun _ _ hw => .inl ⟨hw.1.absent, hw.2⟩) fun _ _ hw => .inr hw.2
    exact ⟨hw.absent, hw.sound⟩

/-- The sources of an accepted recording, and what was made of them. -/
structure AcceptedRecording (env : Environment) (budget : IngestionBudget)
    (adapter : ReadOnlyAdapter) (q : IngestionQualification) (directory : Directory) : Prop where
  enumerated : adapter.sourceFiles.raised = none ∧ adapter.sourceFiles.items ≠ [] ∧
    adapter.sourceFiles.items.length ≤ budget.maximumSourceFiles ∧
    (adapter.sourceFiles.items.map AdapterSourceFile.sourceKey).Nodup
  recorded : Recorded env budget adapter (orderedSources adapter.sourceFiles.items) q directory

theorem guarded_indexFresh (adapter : ReadOnlyAdapter) :
    Guarded (WholeOutput env.platform) (fun w => w.output = none ∧ w.attempt = none)
      (indexFresh env budget budgetSha256 adapter)
      (fun q w => Reported env budget (AcceptedRecording env budget adapter) q w ∧
        w.attempt = none) (fun _ => Abandoned env) := by
  have hfailure : ∀ sources, Guarded (WholeOutput env.platform)
      (Clear budget.maximumStructuralFindings True)
      (failure budget budgetSha256 sources [] fun _ => 0)
      (fun q w => Reported env budget (AcceptedRecording env budget adapter) q w ∧
        w.attempt = none) (fun _ => Abandoned env) :=
    fun sources => (guarded_failure budgetSha256 fun w hw => ⟨hw.noted, .inl hw.absent⟩).weaken
      (fun _ hw => hw) (fun _ _ hw => ⟨hw.1, hw.2.fresh⟩) fun _ _ hw => hw
  unfold indexFresh
  refine Guarded.bind (R := fun _ w => w.output = none ∧ w.attempt = none) ?_ fun _ => ?_
  · unfold call
    exact Guarded.ite (fun _ => Guarded.raise fun _ hw => .inl hw) fun _ =>
      Guarded.transact fun w hwhole hw => ⟨_, rfl, hwhole, hw⟩
  refine Guarded.bind (R := fun _ => Clear budget.maximumStructuralFindings False) ?_ fun _ => ?_
  · unfold remember
    refine Guarded.transact fun w hwhole hw => ⟨_, rfl, hwhole, hw.1, hw.2, ?_⟩
    exact ⟨FindingCollector.sound_create budget.maximumStructuralFindings.pos, False.elim⟩
  refine Guarded.bind (R := fun enumerated w =>
    (enumerated = none ∧ Clear budget.maximumStructuralFindings True w) ∨
      ∃ sources, enumerated = some sources ∧ Clear budget.maximumStructuralFindings
        (¬ (sources = adapter.sourceFiles.items ∧ adapter.sourceFiles.raised = none ∧
          adapter.sourceFiles.items.length ≤ budget.maximumSourceFiles)) w) ?_ fun enumerated => ?_
  · refine Guarded.tryExcept (G := fun _ => Clear budget.maximumStructuralFindings False) ?_
      (fun e answer' hanswer => (guarded_answerEnumeration e answer' hanswer).weaken
        (fun _ hw => hw) (fun _ _ hw => .inl hw) fun _ _ hw => hw)
      fun _ _ _ hw => hw.abandoned
    exact Guarded.bind (guarded_enumerateSources adapter.sourceFiles) fun sources =>
      Guarded.pure fun w hw => .inr ⟨sources, rfl, hw⟩
  cases enumerated with
  | none =>
    refine (hfailure []).before fun w hw => ?_
    rcases hw with ⟨-, hclear⟩ | ⟨sources, hsome, -⟩
    · exact hclear
    · cases hsome
  | some enumerated =>
    have hstart : ∀ w, ((some enumerated = none ∧ Clear budget.maximumStructuralFindings True w) ∨
        ∃ sources, some enumerated = some sources ∧ Clear budget.maximumStructuralFindings
          (¬ (sources = adapter.sourceFiles.items ∧ adapter.sourceFiles.raised = none ∧
            adapter.sourceFiles.items.length ≤ budget.maximumSourceFiles)) w) →
        Clear budget.maximumStructuralFindings
          (¬ (enumerated = adapter.sourceFiles.items ∧ adapter.sourceFiles.raised = none ∧
            adapter.sourceFiles.items.length ≤ budget.maximumSourceFiles)) w := by
      rintro w (⟨hnone, -⟩ | ⟨sources, hsome, hclear⟩)
      · cases hnone
      · obtain rfl := Option.some.inj hsome
        exact hclear
    refine Guarded.before ?_ hstart
    refine Guarded.bind (guarded_checkSources enumerated) fun _ => ?_
    refine Guarded.readBind fun w hw => Guarded.ite (fun hblocking => ?_) fun hclear => ?_
    · refine (hfailure _).before ?_
      rintro _ rfl
      exact ⟨hw.absent, hw.fresh, hw.noted.1, fun _ => hblocking⟩
    · have hquiet := fun hF => hclear (hw.noted.2 hF)
      obtain ⟨rfl, hraised, hlimit⟩ := not_not.mp fun hnot => hquiet (.inl hnot)
      obtain ⟨hnil, hnodup⟩ := not_not.mp fun hnot => hquiet (.inr hnot)
      refine Guarded.bind (R := fun _ =>
        Attempting budget.maximumStructuralFindings False fun _ => True) ?_ fun _ =>
          (guarded_attempt budgetSha256 adapter _).weaken (fun _ hw => hw)
            (fun q s hs => ⟨hs.1.imp fun d hd => ⟨⟨hraised, hnil, hlimit, hnodup⟩, hd⟩, hs.2⟩)
            fun _ _ hw => hw
      unfold call
      refine Guarded.ite (fun _ => Guarded.raise fun s hs => ?_) fun _ => ?_
      · obtain rfl := hs
        exact hw.abandoned
      · refine Guarded.transact fun s hwhole hs => ⟨_, rfl, ?_, ?_⟩
        · exact hwhole
        · obtain rfl := hs
          exact ⟨hw.absent, hw.noted.of_imp False.elim, {}, rfl, trivial⟩

/-- The recording behind an accepted result: no source key and no timestamp of a stream twice,
exact ranges, and an index of one entry for each frame in their order. -/
structure ExactRecording (env : Environment) (budget : IngestionBudget) (adapter : ReadOnlyAdapter)
    (q : IngestionQualification) (directory : Directory) : Prop
    extends AcceptedRecording env budget adapter q directory where
  sources : (adapter.sourceFiles.items.map AdapterSourceFile.sourceKey).Nodup
  trajectory : (poseTimes adapter.poseSamples.items).Nodup
  lidarPoses : (poseTimes adapter.lidarPoseSamples.items).Nodup
  frames : (frameTimes adapter.frames.items).Nodup ∧
    ∀ frame ∈ adapter.frames.items, frame.times.sensorTime.isSome = true
  ranges : ∃ trajectoryId lidarId, RangesOf adapter trajectoryId lidarId q.sourceRanges
  index : ∃ lidarId entries index,
    List.Forall₂ (fun frame entry => frameEntry env.platform lidarId frame.2 frame.1 = .ok entry)
      adapter.frames.items.zipIdx entries ∧
    writeIndex env.platform env.sizes budget.indexBatchBytes entries = .ok index ∧
    directory.index = some index.content
  counted : q.frameIndexEntryCount = adapter.frames.items.length

theorem AcceptedRecording.exact {adapter : ReadOnlyAdapter} {q : IngestionQualification}
    {directory : Directory} (h : AcceptedRecording env budget adapter q directory) :
    ExactRecording env budget adapter q directory := by
  obtain ⟨files, identity, manifest, streamByKey, text, index, -, -, -, hindexed,
    ⟨writer, hscanned, hindex⟩, -, hcount⟩ := h.recorded.content
  obtain ⟨trajectoryId, lidarId, -, -, hranges, hread⟩ := hscanned.streams
  obtain ⟨entries, hentries, happended⟩ := hread.appended
  have hwritten : writeIndex env.platform env.sizes budget.indexBatchBytes entries = .ok index := by
    unfold writeIndex
    rw [happended, hindex]
    rfl
  obtain ⟨trajectory, lidarPose, lidarFrames, hlist, htrajectory, hlidarPose, hframes⟩ :=
    hranges.described
  have hnone : ∀ range ∈ q.sourceRanges, range.duplicateTimestampCount = 0 := by
    intro range hrange
    by_contra hpositive
    exact h.recorded.distinct ⟨range, hrange, Nat.pos_of_ne_zero hpositive⟩
  rw [hlist] at hnone
  refine ⟨h, h.enumerated.2.2.2, htrajectory.nodup (hnone _ (by simp)),
    hlidarPose.nodup (hnone _ (by simp)), ⟨hframes.nodup (hnone _ (by simp)), ?_⟩,
    ⟨trajectoryId, lidarId, hranges⟩, ⟨lidarId, entries, index, hentries, hwritten,
    hindexed.1.2⟩, ?_⟩
  · intro frame hframe
    obtain ⟨place, hplace, rfl⟩ := List.mem_iff_getElem.mp hframe
    exact hread.timed (adapter.frames.items[place], place)
      (List.mem_iff_getElem.mpr ⟨place, by simpa using hplace, by simp⟩)
  · rw [hcount, (writeIndex_spec hwritten).counted, ← hentries.length_eq, List.length_zipIdx]

/-- How a pass ends. -/
structure Ended (env : Environment) (budget : IngestionBudget) (adapter : ReadOnlyAdapter)
    (outcome : Outcome Raised IngestionQualification) (m : Machine Workspace Action) : Prop where
  throughout : m.Throughout (WholeOutput env.platform)
  returned : ∀ q, outcome = .returned q →
    Reported env budget (ExactRecording env budget adapter) q m.store ∧ m.store.attempt = none
  raised : ∀ e, outcome = .raised e → Abandoned env m.store

theorem ended_indexFresh (adapter : ReadOnlyAdapter) {m : Machine Workspace Action}
    (hattempt : m.store.attempt = none) (hlog : m.log = []) (houtput : m.store.output = none) :
    Ended env budget adapter (indexFresh env budget budgetSha256 adapter m).1
      (indexFresh env budget budgetSha256 adapter m).2 := by
  have hstart : m.Throughout (WholeOutput env.platform) := by
    refine ⟨.of_none houtput, fun effect heffect => ?_⟩
    rw [hlog] at heffect
    cases heffect
  have hended := @guarded_indexFresh env budget budgetSha256 adapter m
    ⟨hstart, houtput, hattempt⟩
  generalize indexFresh env budget budgetSha256 adapter m = ended at hended ⊢
  obtain ⟨outcome, m'⟩ := ended
  refine ⟨hended.machine (fun _ _ h => h.1) (fun _ _ h => h.1) fun _ h => h, ?_, ?_⟩
  · rintro q rfl
    exact ⟨hended.2.1.imp fun _ hrecording => hrecording.exact, hended.2.2⟩
  · rintro e rfl
    exact hended.2

theorem indexRecording_run (adapter : ReadOnlyAdapter) (m : Machine Workspace Action) :
    indexRecording env budget budgetSha256 adapter m =
      (if m.store.output.isSome then
        Proc.raise (.other "ingestion output must not already exist")
      else indexFresh env budget budgetSha256 adapter) m :=
  rfl

/-- An output that is there stays as it is. Otherwise the output is at every moment not there or
complete. An accepted result goes with the recording of the adapter, a rejected one with a
finding that blocks; and a result that is not accepted goes with no output, unless a call failed
after the replacement. No attempt is left, unless its removal failed. -/
theorem recording_published_atomically (env : Environment) (budget : IngestionBudget)
    (budgetSha256 : Sha256) (adapter : ReadOnlyAdapter) (m : Machine Workspace Action)
    (hattempt : m.store.attempt = none) (hlog : m.log = []) :
    (m.store.output.isSome = true →
      indexRecording env budget budgetSha256 adapter m =
        (.raised (.other "ingestion output must not already exist"), m)) ∧
    (m.store.output = none →
      Ended env budget adapter (indexRecording env budget budgetSha256 adapter m).1
        (indexRecording env budget budgetSha256 adapter m).2) := by
  constructor
  · intro houtput
    rw [indexRecording_run, if_pos houtput]
    rfl
  · intro houtput
    have hnone : ¬ m.store.output.isSome = true := by
      rw [houtput]
      exact Bool.false_ne_true
    rw [indexRecording_run, if_neg hnone]
    exact ended_indexFresh budgetSha256 adapter hattempt hlog houtput

end Budget

end Pass

/-! ## A recording of one frame -/

/-- An environment in which the calls of one kind fail. -/
def sampleEnvironment (fails : FileCall → Bool) : Environment where
  platform := samplePlatform
  sizes := sampleSizes
  canonicalizePortableArtifact manifest := ofIdentity (canonicalJson samplePlatform manifest.dump)
  fails := fails
  kept _ := 0

def sampleBudget : IngestionBudget where
  budgetId := ⟨"budget-v1", by decide⟩
  hashChunkBytes := 16
  indexBatchBytes := 100000
  maximumSourceFiles := 4
  maximumStructuralFindings := 2

theorem isIdentifier_one : Artifacts.isIdentifier "1".toList = true := by decide

theorem isIdentifier_trajectory :
    Artifacts.isIdentifier "trajectory-postprocessed".toList = true := by decide

theorem isIdentifier_lidarStream : Artifacts.isIdentifier "lidar-lidar".toList = true := by decide

theorem isIdentifier_lidar : Artifacts.isIdentifier "lidar".toList = true := by decide

theorem isNonempty_payload : Contracts.isNonempty "lidar/1.bin".toList = true := by decide

theorem one_lt_hundred : 1 < 100 := by decide

theorem two_lt_hundred : 2 < 100 := by decide

theorem interval_none : ∀ start ∈ (none : Option Artifacts.TimePoint),
    ∀ finish ∈ (none : Option Artifacts.TimePoint), ∃ duration,
      finish.difference start = .ok duration ∧ 0 < duration.value :=
  fun start h => absurd h (Option.not_mem_none start)

theorem retained_none : ∀ time ∈ some (Artifacts.gpsTime ⟨2, two_lt_hundred⟩),
    ∀ corrected ∈ (none : Option CorrectedTime), sameTime corrected.original time :=
  fun _ _ corrected h => absurd h (Option.not_mem_none corrected)

theorem isNone_none : (none : Option Artifacts.TimePoint).isNone =
    (none : Option Artifacts.TimePoint).isNone := rfl

def oneFrame : LidarFrameView where
  sourceFrameKey := ⟨"1", isIdentifier_one⟩
  times := {
    captureStart := none
    captureEnd := none
    sensorTime := some (Artifacts.gpsTime ⟨2, two_lt_hundred⟩)
    hostReceiveTime := none
    correctedSensorTime := none
    together := isNone_none
    interval := interval_none
    retained := retained_none }
  payload := ⟨⟨"lidar/1.bin", isNonempty_payload⟩, 24, 1⟩

/-- Two streams, with one sample of each pose and one frame. -/
def sampleRecording : ReadOnlyAdapter :=
  { sampleAdapter with
    sensors := .ok [
      { sampleSensor with streamKey := ⟨"trajectory-postprocessed", isIdentifier_trajectory⟩ },
      { sampleSensor with
        streamKey := ⟨"lidar-lidar", isIdentifier_lidarStream⟩
        modality := .lidar
        sensorId := ⟨"lidar", isIdentifier_lidar⟩ }]
    sourceFiles := ⟨[sampleSource], none⟩
    latestSourceFiles := ⟨[sampleSource], none⟩
    sourceChunks := sampleChunks
    poseSamples := ⟨[⟨Artifacts.gpsTime ⟨1, one_lt_hundred⟩, "gps.csv", 0⟩], none⟩
    lidarPoseSamples := ⟨[⟨Artifacts.gpsTime ⟨1, one_lt_hundred⟩, "gps.csv", 0⟩], none⟩
    frames := ⟨[oneFrame], none⟩ }

/-- A machine with an empty disk. -/
def emptyDisk : Machine Workspace Action where
  store := { output := none, attempt := none, findings := .create 0, writer := none }
  lifespan := none
  log := []

theorem recording_published_atomically_sample :
    Ended (sampleEnvironment fun c => c == .syncParent) sampleBudget sampleRecording
      (indexRecording (sampleEnvironment fun c => c == .syncParent) sampleBudget
        (samplePlatform.sha256 []) sampleRecording emptyDisk).1
      (indexRecording (sampleEnvironment fun c => c == .syncParent) sampleBudget
        (samplePlatform.sha256 []) sampleRecording emptyDisk).2 :=
  (recording_published_atomically (sampleEnvironment fun c => c == .syncParent) sampleBudget
    (samplePlatform.sha256 []) sampleRecording emptyDisk rfl rfl).2 rfl

end CartoSentry.Ingestion
