import CartoSentry.Ingestion.IndexRecording
import CartoSentry.Ingestion.Observations

set_option autoImplicit false

/-!
# Ingestion: staging an attempt

What the calls do to the attempt directory and to the findings as long as there is no output,
and what the scan has read when it returns.
-/

namespace CartoSentry.Ingestion

open Artifacts (Identifier Platform Sha256 StreamId)
open Foundation (Proc Guarded JsonValue bind_eq_ok_iff)

/-! ## Published directories -/

def ArtifactSha256.of (artifacts : ArtifactSha256) : FileName → Sha256
  | .manifest => artifacts.manifest
  | .index => artifacts.index
  | .summary => artifacts.summary
  | .completion => artifacts.completion

/-- The four files of a directory with their digests, which the completion lists. -/
structure Directory.Published (platform : Platform) (directory : Directory)
    (artifacts : ArtifactSha256) : Prop where
  hashed : ∀ name, ∃ content, directory.file name = some content ∧
    artifacts.of name = platform.sha256 content
  listed : ∃ (completion : IngestionCompletion) (text : List UInt8),
    canonicalJson platform completion.dump = .ok text ∧
      directory.completion = some (text ++ String.utf8EncodeChar '\n') ∧
      completion.manifest = artifacts.manifest ∧ completion.index = artifacts.index ∧
      completion.summary = artifacts.summary
  temporary : directory.database = none

/-- An output that is there is complete. -/
def WholeOutput (platform : Platform) (w : Workspace) : Prop :=
  ∀ directory, w.output = some directory → ∃ artifacts, directory.Published platform artifacts

theorem WholeOutput.of_none {platform : Platform} {w : Workspace} (h : w.output = none) :
    WholeOutput platform w := by
  intro directory hdirectory
  rw [h] at hdirectory
  cases hdirectory

/-! ## Calls before the output is replaced -/

/-- There is no output. What the attempt directory holds, and that `F` blocks. -/
structure Attempting (maximum : Nat) (F : Prop) (D : Directory → Prop) (w : Workspace) : Prop where
  absent : w.output = none
  noted : w.findings.Noted maximum F
  directory : ∃ d, w.attempt = some d ∧ D d

/-- There is no output. -/
structure NoOutput (maximum : Nat) (w : Workspace) : Prop where
  absent : w.output = none
  sound : w.findings.Sound maximum

section Calls

variable {platform : Platform} {env : Environment} {maximum : Nat} {F F' : Prop}
  {D T : Directory → Prop} {w : Workspace}

theorem Attempting.noOutput (h : Attempting maximum F D w) : NoOutput maximum w :=
  ⟨h.absent, h.noted.1⟩

theorem Attempting.whole (h : Attempting maximum F D w) : WholeOutput platform w :=
  .of_none h.absent

theorem Attempting.of_imp (h : Attempting maximum F D w) (hF : F' → F) (hD : ∀ d, D d → T d) :
    Attempting maximum F' T w := by
  obtain ⟨d, hattempt, hd⟩ := h.directory
  exact ⟨h.absent, h.noted.of_imp hF, d, hattempt, hD d hd⟩

/-- A change of the workspace that leaves no output and the findings leads from `D` to `T`. -/
structure Moves (D T : Directory → Prop) (effect : Workspace → Workspace) : Prop where
  output : ∀ w, (effect w).output = w.output
  findings : ∀ w, (effect w).findings = w.findings
  directory : ∀ w d, w.attempt = some d → D d → ∃ d', (effect w).attempt = some d' ∧ T d'

theorem Moves.attempting {effect : Workspace → Workspace} (hmoves : Moves D T effect)
    (h : Attempting maximum F D w) : Attempting maximum F T (effect w) := by
  obtain ⟨d, hattempt, hd⟩ := h.directory
  refine ⟨(hmoves.output w).trans h.absent, ?_, hmoves.directory w d hattempt hd⟩
  rw [hmoves.findings w]
  exact h.noted

theorem moves_id : Moves D D id :=
  ⟨fun _ => rfl, fun _ => rfl, fun _ d hattempt hd => ⟨d, hattempt, hd⟩⟩

theorem moves_onAttempt {change : Directory → Directory} (h : ∀ d, D d → T (change d)) :
    Moves D T (onAttempt change) := by
  refine ⟨fun _ => rfl, fun _ => rfl, fun w d hattempt hd => ⟨change d, ?_, h d hd⟩⟩
  change w.attempt.map change = _
  rw [hattempt]
  rfl

theorem moves_writer (opened : Workspace → Option OpenWriter) :
    Moves D D fun w => { w with writer := opened w } :=
  ⟨fun _ => rfl, fun _ => rfl, fun _ d hattempt hd => ⟨d, hattempt, hd⟩⟩

theorem guarded_call {c : FileCall} {effect : Workspace → Workspace} (h : Moves D T effect) :
    Guarded (WholeOutput platform) (Attempting maximum F D) (call env c effect)
      (fun _ => Attempting maximum F T) (fun _ => NoOutput maximum) := by
  unfold call
  refine Guarded.ite (fun _ => Guarded.raise fun w hw => hw.noOutput) fun _ => ?_
  exact Guarded.transact fun w _ hw => ⟨_, rfl, (h.attempting hw).whole, h.attempting hw⟩

theorem guarded_remember {effect : Workspace → Workspace} (h : Moves D T effect) :
    Guarded (WholeOutput platform) (Attempting maximum F D) (remember effect)
      (fun _ => Attempting maximum F T) (fun _ => NoOutput maximum) := by
  unfold remember
  exact Guarded.transact fun w _ hw => ⟨_, rfl, (h.attempting hw).whole, h.attempting hw⟩

theorem guarded_addFinding (finding : StructuralFinding) :
    Guarded (WholeOutput platform) (Attempting maximum F D) (addFinding finding)
      (fun _ => Attempting maximum (F ∨ finding.isBlocking = true) D)
      (fun _ => NoOutput maximum) := by
  unfold addFinding remember
  refine Guarded.transact fun w _ hw => ⟨_, rfl, ?_, ?_⟩
  · exact .of_none hw.absent
  · exact ⟨hw.absent, hw.noted.add finding, hw.directory⟩

/-- A fact of the values at hand may be assumed. -/
theorem guarded_assuming {A : Type} {P : Prop} {p : Indexing A} {R : A → Workspace → Prop}
    {E : Raised → Workspace → Prop} {X : Workspace → Prop}
    (h : P → Guarded (WholeOutput platform) X p R E) :
    Guarded (WholeOutput platform) (fun w => X w ∧ P) p R E :=
  fun m hm => h hm.2.2 m ⟨hm.1, hm.2.1⟩

/-- A step that may raise, and the rest with what it returned. -/
theorem guarded_bindExcept {A B : Type} {x : Except Raised A} {f : A → Indexing B}
    {R : B → Workspace → Prop} {E : Raised → Workspace → Prop} {X : Workspace → Prop}
    (hE : ∀ e w, X w → E e w)
    (h : ∀ a, x = .ok a → Guarded (WholeOutput platform) X (f a) R E) :
    Guarded (WholeOutput platform) X (Proc.ofExcept x >>= f) R E :=
  Guarded.bind (R := fun a w => X w ∧ x = .ok a)
    (Guarded.ofExcept (fun _ ha _ hw => ⟨hw, ha⟩) fun e _ w hw => hE e w hw)
    fun a => guarded_assuming (h a)

theorem ofIdentity_eq_ok {A : Type} {x : Except Artifacts.IdentityError A} {a : A}
    (h : ofIdentity x = .ok a) : x = .ok a := by
  cases x with
  | error e => cases h
  | ok found => exact congrArg _ (Except.ok.inj h)

/-! ## Files -/

theorem guarded_flushStream {name : FileName} {content : List UInt8}
    (h : ∀ d bytes, D d → D (d.put name bytes)) (h' : ∀ d, D d → T (d.put name content)) :
    Guarded (WholeOutput platform) (Attempting maximum F D) (flushStream env name content)
      (fun _ => Attempting maximum F T) (fun _ => NoOutput maximum) := by
  unfold flushStream
  refine Guarded.ite (fun _ => ?_) fun _ => ?_
  · refine Guarded.bind (R := fun _ => Attempting maximum F D) (Guarded.transact fun w _ hw => ?_)
      fun _ => Guarded.raise fun w hw => hw.noOutput
    have hmoved := (moves_onAttempt (h · (content.take (env.kept name)))).attempting hw
    exact ⟨_, rfl, hmoved.whole, hmoved⟩
  · refine Guarded.transact fun w _ hw => ?_
    have hmoved := (moves_onAttempt h').attempting hw
    exact ⟨_, rfl, hmoved.whole, hmoved⟩

/-- A call of a cleanup after a failure that has left no output. -/
theorem guarded_callNoOutput {c : FileCall} {effect : Workspace → Workspace}
    (h : Moves D T effect) :
    Guarded (WholeOutput platform) (NoOutput maximum) (call env c effect)
      (fun _ => NoOutput maximum) (fun _ => NoOutput maximum) := by
  unfold call
  refine Guarded.ite (fun _ => Guarded.raise fun w hw => hw) fun _ => ?_
  refine Guarded.transact fun w _ hw => ?_
  have habsent : (effect w).output = none := (h.output w).trans hw.absent
  refine ⟨_, rfl, .of_none habsent, habsent, ?_⟩
  rw [h.findings w]
  exact hw.sound

theorem guarded_writeFile (name : FileName) (content : List UInt8)
    (h : ∀ d bytes, D d → D (d.put name bytes)) (h' : ∀ d, D d → T (d.put name content)) :
    Guarded (WholeOutput platform) (Attempting maximum F D) (writeFile env name content)
      (fun _ => Attempting maximum F T) (fun _ => NoOutput maximum) := by
  unfold writeFile
  refine Guarded.bind (guarded_call (moves_onAttempt fun d hd => h d [] hd)) fun _ => ?_
  refine Guarded.tryFinally (Q := fun _ => Attempting maximum F T) ?_
    (fun _ => guarded_call moves_id) fun _ => guarded_callNoOutput (D := D) moves_id
  refine Guarded.bind (guarded_call moves_id) fun _ => ?_
  exact Guarded.bind (guarded_flushStream h h') fun _ => guarded_call moves_id

/-- What a directory holds once a model has been written to a file, with this digest. -/
def WithJson (D : Directory → Prop) (platform : Platform) (name : FileName)
    (value : JsonValue String) (digest : Sha256) (d : Directory) : Prop :=
  D d ∧ ∃ text, canonicalJson platform value = .ok text ∧
    d.file name = some (text ++ String.utf8EncodeChar '\n') ∧
    digest = platform.sha256 (text ++ String.utf8EncodeChar '\n')

theorem guarded_writeJson (name : FileName) {value : JsonValue String}
    (h : ∀ d bytes, D d → D (d.put name bytes)) :
    Guarded (WholeOutput platform) (Attempting maximum F D) (writeJson env name value)
      (fun digest => Attempting maximum F (WithJson D env.platform name value digest))
      (fun _ => NoOutput maximum) := by
  unfold writeJson
  refine guarded_bindExcept (fun _ _ hw => hw.noOutput) fun text htext => ?_
  refine Guarded.bind (guarded_writeFile name _ (T := fun d => D d ∧
    d.file name = some (text ++ String.utf8EncodeChar '\n')) h
    fun d hd => ⟨h d _ hd, Directory.file_put d name _⟩) fun _ => ?_
  exact Guarded.pure fun w hw => hw.of_imp id fun d hd =>
    ⟨hd.1, text, ofIdentity_eq_ok htext, hd.2, rfl⟩

theorem guarded_syncDirectory {opening syncing closing : FileCall} :
    Guarded (WholeOutput platform) (Attempting maximum F D)
      (syncDirectory env opening syncing closing) (fun _ => Attempting maximum F D)
      (fun _ => NoOutput maximum) := by
  unfold syncDirectory
  refine Guarded.bind (guarded_call moves_id) fun _ => ?_
  exact Guarded.tryFinally (guarded_call moves_id) (fun _ => guarded_call moves_id)
    fun _ => guarded_callNoOutput (D := D) moves_id

/-! ## Timestamps -/

/-- The database has exactly the rows of `P`. -/
def Seen (D : Directory → Prop) (P : SeenTimestamp → Prop) (d : Directory) : Prop :=
  D d ∧ ∃ rows, d.database = some rows ∧ ∀ row, row ∈ rows ↔ P row

/-- What a directory holds however many timestamps have been inserted. -/
def Insertable (D : Directory → Prop) : Prop :=
  ∀ d row, D d → D (d.insert row)

theorem Seen.insert {P : SeenTimestamp → Prop} (hD : Insertable D) (row : SeenTimestamp)
    (d : Directory) (h : Seen D P d) : Seen D (fun other => P other ∨ other = row) (d.insert row) := by
  obtain ⟨hd, rows, hrows, hP⟩ := h
  refine ⟨hD d row hd, rows ++ [row], ?_, fun other => ?_⟩
  · change d.database.map (· ++ [row]) = _
    rw [hrows]
    rfl
  · rw [List.mem_append, List.mem_singleton, hP]

theorem mem_seen_iff {P : SeenTimestamp → Prop} (h : Attempting maximum F (Seen D P) w)
    (row : SeenTimestamp) : row ∈ w.seen ↔ P row := by
  obtain ⟨d, hattempt, -, rows, hrows, hP⟩ := h.directory
  unfold Workspace.seen
  rw [hattempt, Option.bind_some, hrows]
  exact hP row

/-- The rows of timestamps of one kind and stream, after those of `P`. -/
def RowsWith (P : SeenTimestamp → Prop) (streamId : StreamId) (kind : RecordKind)
    (times : List Int) (row : SeenTimestamp) : Prop :=
  P row ∨ row.recordKind = kind ∧ row.streamId = streamId ∧ row.timestampNs ∈ times

/-- An accumulator of the timestamps observed so far, with their rows. -/
structure Counting (maximum : Nat) (F : Prop) (D : Directory → Prop) (P : SeenTimestamp → Prop)
    (streamId : StreamId) (kind : RecordKind) (times : List Int) (accumulator : RangeAccumulator)
    (w : Workspace) : Prop where
  describes : accumulator.Describes streamId kind times
  attempting : Attempting maximum (F ∨ 0 < accumulator.duplicates)
    (Seen D (RowsWith P streamId kind times)) w

variable {P : SeenTimestamp → Prop} {streamId : StreamId} {kind : RecordKind} {times : List Int}
  {accumulator : RangeAccumulator}

theorem Counting.noOutput (h : Counting maximum F D P streamId kind times accumulator w) :
    NoOutput maximum w :=
  h.attempting.noOutput

theorem counting_nil (h : Attempting maximum F (Seen D P) w) :
    Counting maximum F D P streamId kind [] { streamId := streamId, recordKind := kind } w := by
  refine ⟨RangeAccumulator.describes_nil streamId kind, h.of_imp ?_ ?_⟩
  · rintro (hF | hduplicates)
    · exact hF
    · cases hduplicates
  · rintro d ⟨hd, rows, hrows, hP⟩
    refine ⟨hd, rows, hrows, fun row => (hP row).trans ?_⟩
    unfold RowsWith
    simp

theorem Seen.congr {P' : SeenTimestamp → Prop} (h : ∀ row, P row ↔ P' row) (d : Directory)
    (hd : Seen D P d) : Seen D P' d := by
  obtain ⟨hkept, rows, hrows, hP⟩ := hd
  exact ⟨hkept, rows, hrows, fun row => (hP row).trans (h row)⟩

theorem rowsWith_concat (P : SeenTimestamp → Prop) (streamId : StreamId) (kind : RecordKind)
    (times : List Int) (time : Int) (row : SeenTimestamp) :
    RowsWith P streamId kind (times ++ [time]) row ↔
      RowsWith P streamId kind times row ∨ row = ⟨kind, streamId, time⟩ := by
  obtain ⟨rowKind, rowStream, rowTime⟩ := row
  unfold RowsWith
  rw [List.mem_append, List.mem_singleton, SeenTimestamp.mk.injEq]
  tauto

theorem rowsWith_seen {time : Int} (h : time ∈ times) (row : SeenTimestamp) :
    RowsWith P streamId kind times row ↔ RowsWith P streamId kind (times ++ [time]) row := by
  rw [rowsWith_concat]
  constructor
  · exact .inl
  · rintro (hrow | rfl)
    · exact hrow
    · exact .inr ⟨rfl, rfl, h⟩

/-- One timestamp more: its row is there already, or it is added. -/
theorem guarded_observeTimestamp (hD : Insertable D) (hP : ∀ row, P row → row.recordKind ≠ kind)
    (ordinal : Nat) (time : Int) (sourceKey : String) (recordIndex : Nat) :
    Guarded (WholeOutput platform) (Counting maximum F D P streamId kind times accumulator)
      (observeTimestamp env accumulator ordinal time sourceKey recordIndex)
      (Counting maximum F D P streamId kind (times ++ [time])) (fun _ => NoOutput maximum) := by
  unfold observeTimestamp
  refine Guarded.readBind fun w hw => ?_
  have hdescribes := hw.describes
  have hrow : (⟨accumulator.recordKind, accumulator.streamId, time⟩ : SeenTimestamp) ∈ w.seen ↔
      time ∈ times := by
    rw [mem_seen_iff hw.attempting, hdescribes.kind, hdescribes.stream]
    constructor
    · rintro (hearlier | ⟨-, -, htime⟩)
      · exact absurd rfl (hP _ hearlier)
      · exact htime
    · exact fun htime => .inr ⟨rfl, rfl, htime⟩
  have hstart : ∀ s, s = w → Attempting maximum (F ∨ 0 < accumulator.duplicates)
      (Seen D (RowsWith P streamId kind times)) s := by
    rintro _ rfl
    exact hw.attempting
  refine Guarded.before ?_ hstart
  split
  · rename_i hseen
    have htime := hrow.mp hseen
    refine Guarded.bind (guarded_call moves_id) fun _ => ?_
    refine Guarded.bind (guarded_addFinding _) fun _ => Guarded.pure fun s hs => ?_
    exact ⟨hdescribes.observeRepeated htime,
      hs.of_imp (fun _ => .inr rfl) (Seen.congr (rowsWith_seen htime))⟩
  · rename_i hseen
    have htime : time ∉ times := fun htime => hseen (hrow.mpr htime)
    have hinsert : ∀ d, Seen D (RowsWith P streamId kind times) d →
        Seen D (RowsWith P streamId kind (times ++ [time]))
          (d.insert ⟨accumulator.recordKind, accumulator.streamId, time⟩) := by
      intro d hd
      refine Seen.congr (fun row => ?_) _ (Seen.insert hD _ d hd)
      rw [rowsWith_concat, hdescribes.kind, hdescribes.stream]
    refine Guarded.bind (guarded_call (moves_onAttempt hinsert)) fun _ =>
      Guarded.pure fun s hs => ⟨hdescribes.observeFresh htime, ?_⟩
    exact hs

/-! ## Samples -/

theorem exhausted_eq_ok {A : Type} {source : Yield A}
    (h : source.collect.map (fun _ => ()) = .ok ()) : source.raised = none := by
  unfold Yield.collect at h
  cases hraised : source.raised with
  | none => rfl
  | some e =>
    rw [hraised] at h
    cases h

def poseTimes (samples : List PoseSample) : List Int :=
  samples.map fun sample => sample.time.valueNs.value

theorem poseTimes_concat (samples : List PoseSample) (sample : PoseSample) :
    poseTimes (samples ++ [sample]) = poseTimes samples ++ [sample.time.valueNs.value] :=
  List.map_append

theorem guarded_scanPoses (hD : Insertable D) (hP : ∀ row, P row → row.recordKind ≠ kind)
    (samples : Yield PoseSample) :
    Guarded (WholeOutput platform) (Attempting maximum F (Seen D P))
      (scanPoses env streamId kind samples)
      (fun accumulator w =>
        Counting maximum F D P streamId kind (poseTimes samples.items) accumulator w ∧
          samples.raised = none) (fun _ => NoOutput maximum) := by
  unfold scanPoses
  have hstep : ∀ (front : List (PoseSample × Nat)) (sample : PoseSample × Nat) accumulator,
      Guarded (WholeOutput platform)
        (Counting maximum F D P streamId kind (poseTimes (front.map Prod.fst)) accumulator)
        (observeTimestamp env accumulator sample.2 sample.1.time.valueNs.value sample.1.sourceKey
          sample.1.recordIndex)
        (Counting maximum F D P streamId kind (poseTimes ((front ++ [sample]).map Prod.fst)))
        (fun _ => NoOutput maximum) := by
    intro front sample accumulator
    rw [List.map_append, List.map_singleton, poseTimes_concat]
    exact guarded_observeTimestamp hD hP _ _ _ _
  have hloop := Guarded.forEach (S := WholeOutput platform) samples.items.zipIdx
    ({ streamId := streamId, recordKind := kind } : RangeAccumulator)
    (I := fun (front : List (PoseSample × Nat)) accumulator =>
      Counting maximum F D P streamId kind (poseTimes (front.map Prod.fst)) accumulator)
    (E := fun _ => NoOutput maximum) fun front sample accumulator _ => hstep front sample accumulator
  refine Guarded.bind (hloop.before fun w hw => counting_nil hw) fun accumulator => ?_
  rw [List.zipIdx_map_fst]
  refine guarded_bindExcept (fun _ _ hw => hw.noOutput) fun _ hcollected => ?_
  exact Guarded.pure fun w hw => ⟨hw, exhausted_eq_ok hcollected⟩

/-! ## Frames -/

/-- The sensor times of frames. -/
def frameTimes (frames : List LidarFrameView) : List Int :=
  frames.filterMap fun frame => frame.times.sensorTime.map fun time => time.valueNs.value

/-- What was read of numbered frames: each has a sensor time, and its entry is appended. -/
structure FramesRead (env : Environment) (streamId : StreamId) (start : IndexWriter)
    (frames : List (LidarFrameView × Nat)) (writer : IndexWriter) : Prop where
  timed : ∀ frame ∈ frames, frame.1.times.sensorTime.isSome = true
  appended : ∃ entries,
    List.Forall₂ (fun frame entry => frameEntry env.platform streamId frame.2 frame.1 = .ok entry)
      frames entries ∧ start.appendAll env.platform env.sizes entries = .ok writer

theorem framesRead_nil (streamId : StreamId) (start : IndexWriter) :
    FramesRead env streamId start [] start :=
  ⟨fun _ hframe => absurd hframe List.not_mem_nil, [], .nil, rfl⟩

theorem FramesRead.concat {start writer next : IndexWriter} {frames : List (LidarFrameView × Nat)}
    {frame : LidarFrameView × Nat} {entry : FrameIndexEntry}
    (h : FramesRead env streamId start frames writer)
    (htimed : frame.1.times.sensorTime.isSome = true)
    (hentry : frameEntry env.platform streamId frame.2 frame.1 = .ok entry)
    (happend : writer.append env.platform env.sizes entry = .ok next) :
    FramesRead env streamId start (frames ++ [frame]) next := by
  obtain ⟨entries, hentries, hwriter⟩ := h.appended
  refine ⟨fun other hother => ?_, entries ++ [entry], ?_, ?_⟩
  · rw [List.mem_append, List.mem_singleton] at hother
    rcases hother with hfront | rfl
    · exact h.timed other hfront
    · exact htimed
  · exact List.rel_append hentries (.cons hentry .nil)
  · rw [IndexWriter.appendAll_append, hwriter]
    change (writer.append env.platform env.sizes entry >>= fun next => .ok next) = _
    rw [happend]
    rfl

theorem guarded_appendEntry (writer : IndexWriter) (ordinal : Nat) (entry : FrameIndexEntry) :
    Guarded (WholeOutput platform) (Attempting maximum F D) (appendEntry env writer ordinal entry)
      (fun next w => Attempting maximum F D w ∧
        writer.append env.platform env.sizes entry = .ok next) (fun _ => NoOutput maximum) := by
  unfold appendEntry
  refine guarded_bindExcept (fun _ _ hw => hw.noOutput) fun serialized _ => ?_
  refine guarded_bindExcept (fun _ _ hw => hw.noOutput) fun _ _ => ?_
  refine Guarded.bind (Guarded.when (fun _ => guarded_call moves_id) fun _ _ h => h) fun _ => ?_
  refine guarded_bindExcept (fun _ _ hw => hw.noOutput) fun next hnext => ?_
  exact Guarded.bind (guarded_remember (moves_writer _)) fun _ =>
    Guarded.pure fun _ hw => ⟨hw, ofIdentity_eq_ok hnext⟩

/-- What the loop over frames carries along. -/
structure Framing (env : Environment) (maximum : Nat) (F : Prop) (D : Directory → Prop)
    (P : SeenTimestamp → Prop) (streamId : StreamId) (start : IndexWriter)
    (frames : List (LidarFrameView × Nat)) (carried : RangeAccumulator × IndexWriter)
    (w : Workspace) : Prop where
  counting : Counting maximum F D P streamId .lidarFrame (frameTimes (frames.map Prod.fst))
    carried.1 w
  read : FramesRead env streamId start frames carried.2

theorem guarded_scanFrame (hD : Insertable D) (hP : ∀ row, P row → row.recordKind ≠ .lidarFrame)
    {streamByKey : List (Identifier × StreamId)}
    (hstream : streamOf streamByKey "lidar-lidar" = .ok streamId) {start : IndexWriter}
    (front : List (LidarFrameView × Nat)) (frame : LidarFrameView × Nat)
    (carried : RangeAccumulator × IndexWriter) :
    Guarded (WholeOutput platform) (Framing env maximum F D P streamId start front carried)
      (scanFrame env streamByKey carried frame)
      (Framing env maximum F D P streamId start (front ++ [frame])) (fun _ => NoOutput maximum) := by
  refine Guarded.perStore fun w hw => ?_
  have hread := hw.read
  have hstart : ∀ s, s = w → Counting maximum F D P streamId .lidarFrame
      (frameTimes (front.map Prod.fst)) carried.1 s := by
    rintro _ rfl
    exact hw.counting
  refine Guarded.before ?_ hstart
  unfold scanFrame
  refine guarded_bindExcept (fun _ _ hw => hw.noOutput) fun point hpoint => ?_
  have htime : frame.1.times.sensorTime = some point := by
    cases hsensor : frame.1.times.sensorTime with
    | none =>
      rw [hsensor] at hpoint
      cases hpoint
    | some found =>
      rw [hsensor] at hpoint
      exact congrArg _ (Except.ok.inj hpoint)
  have htimes : frameTimes ((front ++ [frame]).map Prod.fst) =
      frameTimes (front.map Prod.fst) ++ [point.valueNs.value] := by
    unfold frameTimes
    rw [List.map_append, List.filterMap_append, List.map_singleton, List.filterMap_cons, htime]
    rfl
  refine Guarded.bind (guarded_observeTimestamp hD hP _ _ _ _) fun accumulator => ?_
  refine Guarded.perStore fun s hs => ?_
  have hdescribes := hs.describes
  have hattempting : ∀ s', s' = s → Attempting maximum (F ∨ 0 < accumulator.duplicates)
      (Seen D (RowsWith P streamId .lidarFrame
        (frameTimes (front.map Prod.fst) ++ [point.valueNs.value]))) s' := by
    rintro _ rfl
    exact hs.attempting
  refine Guarded.before ?_ hattempting
  refine guarded_bindExcept (fun _ _ hw => hw.noOutput) fun found hfound => ?_
  obtain rfl := Except.ok.inj (hfound.symm.trans hstream)
  refine guarded_bindExcept (fun _ _ hw => hw.noOutput) fun entry hentry => ?_
  refine Guarded.bind (guarded_appendEntry _ _ _) fun writer =>
    guarded_assuming fun happend => Guarded.pure fun s' hs' => ⟨?_, ?_⟩
  · rw [htimes]
    exact ⟨hdescribes, hs'⟩
  · exact hread.concat (by rw [htime]; rfl) (ofIdentity_eq_ok hentry) happend

theorem guarded_reportReordered (accumulators : List RangeAccumulator) :
    Guarded (WholeOutput platform) (Attempting maximum F D) (reportReordered accumulators)
      (fun _ => Attempting maximum F D) (fun _ => NoOutput maximum) := by
  unfold reportReordered
  refine Guarded.forEachKeeps fun _ accumulator _ => ?_
  refine Guarded.when (fun _ => ?_) fun _ _ h => h
  exact (guarded_addFinding _).weaken (fun _ hw => hw)
    (fun _ _ hw => hw.of_imp .inl fun _ hd => hd) fun _ _ hw => hw

/-! ## The scan -/

/-- The three ranges of a recording. -/
structure RangesOf (adapter : ReadOnlyAdapter) (trajectoryId lidarId : StreamId)
    (ranges : List SourceRangeSummary) : Prop where
  described : ∃ trajectory lidarPose lidarFrames, ranges = [trajectory, lidarPose, lidarFrames] ∧
    RangeOf trajectoryId .trajectorySample (poseTimes adapter.poseSamples.items) trajectory ∧
    RangeOf lidarId .lidarPoseSample (poseTimes adapter.lidarPoseSamples.items) lidarPose ∧
    RangeOf lidarId .lidarFrame (frameTimes adapter.frames.items) lidarFrames

/-- Some range repeats a timestamp. -/
def Repeats (ranges : List SourceRangeSummary) : Prop :=
  ∃ range ∈ ranges, 0 < range.duplicateTimestampCount

/-- What a scan has read when it returns. -/
structure ScanRead (env : Environment) (adapter : ReadOnlyAdapter)
    (streamByKey : List (Identifier × StreamId)) (start : IndexWriter)
    (ranges : List SourceRangeSummary) (writer : IndexWriter) : Prop where
  streams : ∃ trajectoryId lidarId, streamOf streamByKey "trajectory-postprocessed" = .ok trajectoryId ∧
    streamOf streamByKey "lidar-lidar" = .ok lidarId ∧
    RangesOf adapter trajectoryId lidarId ranges ∧
    FramesRead env lidarId start adapter.frames.items.zipIdx writer
  exhausted : adapter.poseSamples.raised = none ∧ adapter.lidarPoseSamples.raised = none ∧
    adapter.frames.raised = none

theorem mapM_finish {trajectory lidarPose lidarFrames : RangeAccumulator}
    {ranges : List SourceRangeSummary}
    (h : [trajectory, lidarPose, lidarFrames].mapM RangeAccumulator.finish = .ok ranges) :
    ∃ first second third, ranges = [first, second, third] ∧ trajectory.finish = .ok first ∧
      lidarPose.finish = .ok second ∧ lidarFrames.finish = .ok third := by
  have hall := Foundation.forall₂_of_mapM_eq_ok h
  obtain _ | ⟨hfirst, hall⟩ := hall
  obtain _ | ⟨hsecond, hall⟩ := hall
  obtain _ | ⟨hthird, hall⟩ := hall
  cases hall
  exact ⟨_, _, _, rfl, hfirst, hsecond, hthird⟩

/-- The rows before a loop over records of another kind. -/
theorem rowsWith_kind {other : RecordKind} (hP : ∀ row, P row → row.recordKind ≠ other)
    (hkind : kind ≠ other) (row : SeenTimestamp) (h : RowsWith P streamId kind times row) :
    row.recordKind ≠ other := by
  rcases h with hrow | ⟨rfl, -, -⟩
  · exact hP row hrow
  · exact hkind

theorem guarded_scan (hD : Insertable D) (adapter : ReadOnlyAdapter)
    (streamByKey : List (Identifier × StreamId)) (start : IndexWriter) :
    Guarded (WholeOutput platform) (Attempting maximum F (Seen D fun _ => False))
      (scanRangesAndFrames env adapter streamByKey start)
      (fun scanned w => Attempting maximum (F ∨ Repeats scanned.1) D w ∧
        ScanRead env adapter streamByKey start scanned.1 scanned.2) (fun _ => NoOutput maximum) := by
  unfold scanRangesAndFrames
  refine guarded_bindExcept (fun _ _ hw => hw.noOutput) fun trajectoryId htrajectoryId => ?_
  refine Guarded.bind (guarded_scanPoses hD (fun row hrow => hrow.elim) _) fun trajectory =>
    guarded_assuming fun htrajectoryRaised => ?_
  refine Guarded.perStore fun w hw => ?_
  have htrajectory := hw.describes
  refine Guarded.before ?_ (fun s (hs : s = w) => hs ▸ hw.attempting)
  refine guarded_bindExcept (fun _ _ hw => hw.noOutput) fun lidarId hlidarId => ?_
  have hrows : ∀ other, RecordKind.trajectorySample ≠ other → ∀ row,
      RowsWith (fun _ => False) trajectoryId .trajectorySample
        (poseTimes adapter.poseSamples.items) row → row.recordKind ≠ other :=
    fun other hkind row hrow => rowsWith_kind (fun _ hnone => hnone.elim) hkind row hrow
  refine Guarded.bind (guarded_scanPoses hD (hrows _ (by decide)) _) fun lidarPose =>
    guarded_assuming fun hlidarPoseRaised => ?_
  refine Guarded.perStore fun w hw => ?_
  have hlidarPose := hw.describes
  refine Guarded.before ?_ (fun s (hs : s = w) => hs ▸ hw.attempting)
  have hearlier : ∀ row, RowsWith (RowsWith (fun _ => False) trajectoryId .trajectorySample
      (poseTimes adapter.poseSamples.items)) lidarId .lidarPoseSample
      (poseTimes adapter.lidarPoseSamples.items) row → row.recordKind ≠ .lidarFrame :=
    rowsWith_kind (hrows _ (by decide)) (by decide)
  have hloop := Guarded.forEach (S := WholeOutput platform) adapter.frames.items.zipIdx
    ({ streamId := lidarId, recordKind := .lidarFrame }, start)
    (I := Framing env maximum ((F ∨ 0 < trajectory.duplicates) ∨ 0 < lidarPose.duplicates) D
      (RowsWith (RowsWith (fun _ => False) trajectoryId .trajectorySample
        (poseTimes adapter.poseSamples.items)) lidarId .lidarPoseSample
        (poseTimes adapter.lidarPoseSamples.items)) lidarId start)
    (E := fun _ => NoOutput maximum) fun front frame carried _ =>
      guarded_scanFrame hD hearlier hlidarId front frame carried
  refine Guarded.bind (hloop.before fun w hw => ⟨counting_nil hw, framesRead_nil _ _⟩)
    fun scanned => ?_
  refine Guarded.perStore fun w hw => ?_
  have hframes := hw.counting.describes
  have hread := hw.read
  rw [List.zipIdx_map_fst] at hframes
  refine Guarded.before ?_ (fun s (hs : s = w) => hs ▸ hw.counting.attempting)
  refine guarded_bindExcept (fun _ _ hw => hw.noOutput) fun _ hframesRaised => ?_
  refine Guarded.bind (guarded_reportReordered _) fun _ => ?_
  refine guarded_bindExcept (fun _ _ hw => hw.noOutput) fun ranges hranges => ?_
  obtain ⟨first, second, third, rfl, hfirst, hsecond, hthird⟩ := mapM_finish hranges
  refine Guarded.pure fun s hs => ⟨hs.of_imp ?_ fun d hd => hd.1, ?_, ?_⟩
  · rintro (hF | ⟨range, hrange, hrepeats⟩)
    · exact .inl (.inl (.inl hF))
    simp only [List.mem_cons, List.not_mem_nil, or_false] at hrange
    rcases hrange with rfl | rfl | rfl
    · rw [RangeAccumulator.finish_duplicates hfirst] at hrepeats
      exact .inl (.inl (.inr hrepeats))
    · rw [RangeAccumulator.finish_duplicates hsecond] at hrepeats
      exact .inl (.inr hrepeats)
    · rw [RangeAccumulator.finish_duplicates hthird] at hrepeats
      exact .inr hrepeats
  · exact ⟨trajectoryId, lidarId, htrajectoryId, hlidarId, ⟨first, second, third, rfl,
      htrajectory.finish hfirst, hlidarPose.finish hsecond, hframes.finish hthird⟩, hread⟩
  · exact ⟨htrajectoryRaised, hlidarPoseRaised, exhausted_eq_ok hframesRaised⟩

end Calls

end CartoSentry.Ingestion
