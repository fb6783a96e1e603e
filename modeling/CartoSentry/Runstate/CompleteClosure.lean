import CartoSentry.Runstate.Runs

set_option autoImplicit false

/-!
# Run state: complete stages after reconciliation

Reconciliation leaves every complete stage settled: its dependencies are
complete, its recorded cache key is the current one, and its artifact rows are
those of a published attempt that verifies under that key.  A stage it leaves
running waits for an upstream stage that failed finally, so the loop of `run`
stops before it reaches it.
-/

namespace CartoSentry.Runstate

open CartoSentry.Foundation RunEngine

variable {Bytes : Type}

section Settled

variable (platform : Platform Bytes) (engine : RunEngine Bytes)

/-- A complete stage whose row and artifact rows are those of a published attempt
that verifies under the cache key the stage has now. -/
def Settled (root : RunRoot Bytes) (definition : StageDefinition Bytes) : Prop :=
  IsComplete root definition.stageId → ∃ key attempt,
    HasKey platform engine root definition key ∧
    (root.database.stage definition.stageId).cacheKey = some key ∧
    selection platform engine root definition key = .ok (some attempt) ∧
    (root.database.stage definition.stageId).attemptId = some attempt.manifest.attemptId ∧
    root.database.artifact definition.stageId =
      attempt.manifest.artifacts.map (RunDatabase.artifactRowOf attempt.directory)

/-- What a visit leaves behind at its stage. -/
structure Visited (root : RunRoot Bytes) (definition : StageDefinition Bytes) : Prop where
  settled : Settled platform engine root definition
  running : (root.database.stage definition.stageId).state = .running →
    upstreamIncomplete root.database definition = true

end Settled

section Facts

variable {platform : Platform Bytes} {engine : RunEngine Bytes} {root mid next : RunRoot Bytes}
  {definition : StageDefinition Bytes} {front rest : List (StageDefinition Bytes)}

/-- Two roots agree on the rows of a stage. -/
def SameRows (root next : RunRoot Bytes) (stageId : StageId) : Prop :=
  next.database.stage stageId = root.database.stage stageId ∧
    next.database.artifact stageId = root.database.artifact stageId

theorem SameRows.trans {stageId : StageId} (h : SameRows root mid stageId)
    (h' : SameRows mid next stageId) : SameRows root next stageId :=
  ⟨h'.1.trans h.1, h'.2.trans h.2⟩

theorem HasKey.congr {key : Sha256} (h : HasKey platform engine root definition key)
    (hupstream : ∀ upstream ∈ definition.dependencies, SameRows root next upstream) :
    HasKey platform engine next definition key := by
  unfold HasKey at h ⊢
  rw [← h]
  exact cacheKey_congr (fun u hu => congrArg StageRow.state (hupstream u hu).1)
    (fun u hu => (hupstream u hu).2)

theorem upstreamIncomplete_congr
    (hupstream : ∀ upstream ∈ definition.dependencies, SameRows root next upstream) :
    upstreamIncomplete next.database definition = upstreamIncomplete root.database definition := by
  unfold upstreamIncomplete
  rw [Bool.eq_iff_iff, List.any_eq_true, List.any_eq_true]
  constructor
  · rintro ⟨u, hu, h⟩
    exact ⟨u, hu, by rwa [(hupstream u hu).1] at h⟩
  · rintro ⟨u, hu, h⟩
    exact ⟨u, hu, by rwa [(hupstream u hu).1]⟩

theorem Visited.congr (h : Visited platform engine root definition)
    (hself : SameRows root next definition.stageId)
    (hupstream : ∀ upstream ∈ definition.dependencies, SameRows root next upstream)
    (hartifacts : next.artifacts = root.artifacts) : Visited platform engine next definition := by
  obtain ⟨hstage, hartifact⟩ := hself
  refine ⟨fun hcomplete => ?_, fun hrunning => ?_⟩
  · unfold IsComplete at hcomplete
    rw [hstage] at hcomplete
    obtain ⟨key, attempt, hkey, hrow, hselected, hname, hrows⟩ := h.settled hcomplete
    unfold selection at hselected
    refine ⟨key, attempt, hkey.congr hupstream, by rwa [hstage], ?_, by rwa [hstage],
      by rwa [hartifact]⟩
    unfold selection
    rwa [hartifacts]
  · rw [hstage] at hrunning
    rw [upstreamIncomplete_congr hupstream]
    exact h.running hrunning

/-- The stages before a definition are neither it nor downstream of it. -/
theorem Opened.front_not_mem_closure (hopened : Opened engine root)
    (hsplit : engine.definitions = front ++ definition :: rest) {other : StageId}
    (hother : other ∈ (topologyOf front).nodes) :
    other ∉ closure root.database.topology definition.stageId := by
  have htopology : root.database.topology = topologyOf front ++
      (definition.stageId, definition.dependencies) :: topologyOf rest := by
    rw [hopened.topology, hsplit]
    simp [topologyOf]
  have hordered := hopened.ordered
  rw [htopology] at hordered ⊢
  exact fun hdown => hordered.downstream_not_mem_front (downstream_of_mem_closure hdown) hother

theorem Opened.front_ne (hopened : Opened engine root)
    (hsplit : engine.definitions = front ++ definition :: rest) {other : StageId}
    (hother : other ∈ (topologyOf front).nodes) : other ≠ definition.stageId := by
  rintro rfl
  have hmem : definition ∈ engine.definitions := by simp [hsplit]
  have hstage := hopened.mem_stageIds hmem
  exact hopened.front_not_mem_closure hsplit hother (mem_closure_self hstage)

/-- What a definition depends on comes before it. -/
theorem Opened.dependency_front (hopened : Opened engine root)
    (hsplit : engine.definitions = front ++ definition :: rest) :
    ∀ upstream ∈ definition.dependencies, upstream ∈ (topologyOf front).nodes := by
  have htopology : root.database.topology = topologyOf front ++
      (definition.stageId, definition.dependencies) :: topologyOf rest := by
    rw [hopened.topology, hsplit]
    simp [topologyOf]
  have hordered := hopened.ordered
  rw [htopology] at hordered
  exact hordered.dependency_mem_front

theorem mem_front_nodes (hmem : definition ∈ front) :
    definition.stageId ∈ (topologyOf front).nodes :=
  DependencyGraph.mem_nodes (mem_topologyOf hmem)

/-- What a definition among the first ones depends on is among them too. -/
theorem Opened.front_dependency (hopened : Opened engine root)
    (hsplit : engine.definitions = front ++ rest) (hmem : definition ∈ front) :
    ∀ upstream ∈ definition.dependencies, upstream ∈ (topologyOf front).nodes := by
  intro upstream hupstream
  obtain ⟨before, after, rfl⟩ := List.append_of_mem hmem
  have hsplit' : engine.definitions = before ++ definition :: (after ++ rest) := by
    simp [hsplit]
  have := hopened.dependency_front hsplit' upstream hupstream
  simp only [topologyOf, List.map_append, DependencyGraph.nodes_append, List.mem_append] at this ⊢
  exact .inl this

theorem VisitStart.rows (h : VisitStart platform engine definition root mid) {other : StageId}
    (hother : other ∉ closure root.database.topology definition.stageId) :
    SameRows root mid other := by
  cases h with
  | current => exact ⟨rfl, rfl⟩
  | stale _ hinvalidated =>
    exact ⟨hinvalidated.stage_of_not_mem other hother, hinvalidated.artifact_of_not_mem other hother⟩

theorem VisitStart.artifacts (h : VisitStart platform engine definition root mid) :
    mid.artifacts = root.artifacts := by
  cases h with
  | current => rfl
  | stale => rfl

theorem VisitEnd.artifacts (h : VisitEnd platform engine definition mid next) :
    next.artifacts = mid.artifacts := by
  cases h with
  | waiting => rfl
  | adopted _ _ hartifacts => exact hartifacts
  | failedFinal _ _ _ hartifacts => exact hartifacts
  | failedRetryable _ _ _ _ hartifacts => exact hartifacts
  | unpublished => rfl

/-- A visit changes the rows of its own stage only, once it has started. -/
theorem VisitEnd.rows (h : VisitEnd platform engine definition mid next) {other : StageId}
    (hother : other ≠ definition.stageId) : SameRows mid next other := by
  cases h with
  | waiting => exact ⟨rfl, rfl⟩
  | adopted hadoptable hcompleted =>
    have hid := hadoptable.stageId
    refine ⟨?_, ?_⟩
    · rw [hcompleted.stage, hid, Function.update_of_ne hother]
    · rw [hcompleted.artifact, hid, Function.update_of_ne hother]
  | failedFinal _ _ hmarked =>
    rw [SameRows, hmarked.next_eq]
    exact ⟨RunDatabase.setStage_stage_of_ne _ hother, rfl⟩
  | failedRetryable _ _ _ hmarked =>
    rw [SameRows, hmarked.next_eq]
    exact ⟨RunDatabase.setStage_stage_of_ne _ hother, rfl⟩
  | unpublished => exact ⟨rfl, rfl⟩

/-- A visit leaves its stage settled. -/
theorem VisitEnd.visited (hopened : Opened engine mid) (hmem : definition ∈ engine.definitions)
    (h : VisitEnd platform engine definition mid next) :
    Visited platform engine next definition := by
  have hupstream : ∀ upstream ∈ definition.dependencies, SameRows mid next upstream := by
    intro upstream hdep
    refine h.rows (fun heq => hopened.not_mem_dependencies hmem (heq ▸ hdep))
  cases h with
  | waiting hwaiting hstate => exact ⟨fun hcomplete => absurd hcomplete hstate, fun _ => hwaiting⟩
  | @adopted key attempt _ hadoptable hcompleted hartifacts =>
    have hid := hadoptable.stageId
    obtain ⟨name, files, hverified⟩ := hadoptable.verified
    have hrow : next.database.stage definition.stageId = RunDatabase.completedRow
        (mid.database.stage definition.stageId) attempt.manifest := by
      rw [hcompleted.stage, hid, Function.update_self]
    refine ⟨fun _ => ⟨key, attempt, hadoptable.hasKey.congr hupstream, ?_, ?_, ?_, ?_⟩,
      fun hrunning => ?_⟩
    · rw [hrow]
      exact congrArg some hverified.key
    · have hselected := hadoptable.selected
      unfold selection at hselected ⊢
      rwa [hartifacts]
    · rw [hrow]
      rfl
    · rw [hcompleted.artifact, hid, Function.update_self]
    · rw [hrow] at hrunning
      exact absurd hrunning (by simp [RunDatabase.completedRow])
  | failedFinal _ _ hmarked =>
    have hstate : (next.database.stage definition.stageId).state = .failedFinal := by
      rw [hmarked.next_eq, RunDatabase.setStage_stage_self]
    refine ⟨fun hcomplete => ?_, fun hrunning => ?_⟩
    · exact absurd (hstate.symm.trans hcomplete) (by simp)
    · exact absurd (hstate.symm.trans hrunning) (by simp)
  | failedRetryable _ _ _ hmarked =>
    have hstate : (next.database.stage definition.stageId).state = .failedRetryable := by
      rw [hmarked.next_eq, RunDatabase.setStage_stage_self]
    refine ⟨fun hcomplete => ?_, fun hrunning => ?_⟩
    · exact absurd (hstate.symm.trans hcomplete) (by simp)
    · exact absurd (hstate.symm.trans hrunning) (by simp)
  | unpublished _ _ _ hcomplete hrunning =>
    exact ⟨fun h => absurd h hcomplete, fun h => absurd h hrunning⟩

theorem VisitStart.opened (hopened : Opened engine root)
    (h : VisitStart platform engine definition root mid) : Opened engine mid := by
  cases h with
  | current => exact hopened
  | stale _ hinvalidated => exact hopened.keep hinvalidated.inputs hinvalidated.topology

/-- A visit leaves the rows of the stages before its own alone. -/
theorem visit_front_rows (hopened : Opened engine root)
    (hsplit : engine.definitions = front ++ definition :: rest)
    (hstart : VisitStart platform engine definition root mid)
    (hend : VisitEnd platform engine definition mid next) {other : StageId}
    (hother : other ∈ (topologyOf front).nodes) : SameRows root next other :=
  (hstart.rows (hopened.front_not_mem_closure hsplit hother)).trans
    (hend.rows (hopened.front_ne hsplit hother))

/-- Every stage visited so far is settled. -/
def AllVisited (platform : Platform Bytes) (engine : RunEngine Bytes)
    (front : List (StageDefinition Bytes)) (root : RunRoot Bytes) : Prop :=
  ∀ definition ∈ front, Visited platform engine root definition

theorem allVisited_invariant : VisitInvariant platform engine (AllVisited platform engine) := by
  intro front definition rest root mid next hsplit hopened _ hfront hstart hend other hother
  have hmem : definition ∈ engine.definitions := by simp [hsplit]
  rcases List.mem_append.mp hother with hother | hother
  · have hrows : ∀ stageId ∈ (topologyOf front).nodes, SameRows root next stageId :=
      fun stageId hstage => visit_front_rows hopened hsplit hstart hend hstage
    refine (hfront other hother).congr (hrows _ (mem_front_nodes hother)) (fun u hu => ?_)
      (hend.artifacts.trans hstart.artifacts)
    exact hrows u (hopened.front_dependency hsplit hother u hu)
  · rw [List.mem_singleton.mp hother]
    exact hend.visited (hstart.opened hopened) hmem

end Facts

/-! ## The loop of a run begins only what can begin -/

section Begins

variable {platform : Platform Bytes} {engine : RunEngine Bytes} {forceStage : Option StageId}
  {scope : List StageId} {root next : RunRoot Bytes}

/-- The stages still to come: none of a forced scope is complete, and a running
one waits for an upstream stage that failed finally and is still to come too. -/
structure Pending (engine : RunEngine Bytes) (scope : List StageId)
    (front : List (StageDefinition Bytes)) (root : RunRoot Bytes) : Prop where
  forced : ∀ definition ∈ engine.definitions, definition.stageId ∉ (topologyOf front).nodes →
    definition.stageId ∈ scope → ¬ IsComplete root definition.stageId
  running : ∀ definition ∈ engine.definitions, definition.stageId ∉ (topologyOf front).nodes →
    (root.database.stage definition.stageId).state = .running →
    ∃ upstream ∈ definition.dependencies,
      (root.database.stage upstream).state = .failedFinal ∧ upstream ∉ (topologyOf front).nodes

/-- After reconciliation and the forced invalidation, every stage is pending. -/
theorem pending_of_visited (hopened : Opened engine root) (hsound : Sound root.database)
    (hscope : engine.forcedScopeOf forceStage = .ok scope)
    (hvisited : AllVisited platform engine engine.definitions root)
    (hforce : ForceEnd forceStage root next) : Pending engine scope [] next := by
  -- a stage that is still running has an upstream stage that failed finally
  have hwaits : ∀ definition ∈ engine.definitions,
      (root.database.stage definition.stageId).state = .running →
      ∃ upstream ∈ definition.dependencies,
        (root.database.stage upstream).state = .failedFinal := by
    intro definition hmem hrunning
    have hincomplete := (hvisited definition hmem).running hrunning
    obtain ⟨upstream, hdep, hstate⟩ := List.any_eq_true.mp hincomplete
    refine ⟨upstream, hdep, ?_⟩
    have := hsound.running definition.stageId hrunning upstream
      (by rw [hopened.dependencies hmem]; exact hdep)
    exact this.resolve_left (by simpa using hstate)
  cases hforce with
  | unforced h =>
    subst h
    obtain rfl := Except.ok.inj hscope
    refine ⟨fun _ _ _ hin => by simp at hin, fun definition hmem _ hrunning => ?_⟩
    obtain ⟨upstream, hdep, hfinal⟩ := hwaits definition hmem hrunning
    exact ⟨upstream, hdep, hfinal, by simp [topologyOf]⟩
  | @forced stageId database h hinvalidated =>
    subst h
    unfold RunEngine.forcedScopeOf RunEngine.dependencyClosure at hscope
    dsimp only at hscope
    split at hscope
    · rw [← hopened.topology] at hscope
      obtain rfl := Except.ok.inj hscope
      have hreset : ∀ other ∈ closure root.database.topology stageId,
          (database.stage other).state = .invalidated := by
        intro other hother
        rw [hinvalidated.stage_of_mem other hother]
        rfl
      refine ⟨fun definition _ _ hin hcomplete => ?_, fun definition hmem _ hrunning => ?_⟩
      · exact absurd ((hreset _ hin).symm.trans hcomplete) (by simp)
      · have hout : definition.stageId ∉ closure root.database.topology stageId :=
          fun hin => absurd ((hreset _ hin).symm.trans hrunning) (by simp)
        have hbefore : (root.database.stage definition.stageId).state = .running := by
          rw [← hinvalidated.stage_of_not_mem _ hout]
          exact hrunning
        obtain ⟨upstream, hdep, hfinal⟩ := hwaits definition hmem hbefore
        refine ⟨upstream, hdep, ?_, by simp [topologyOf]⟩
        have hupstream : upstream ∉ closure root.database.topology stageId := fun hin =>
          hout (closure_closed (definition.stageId, definition.dependencies)
            (hopened.mem_topology hmem) upstream hdep hin)
        dsimp only
        rw [hinvalidated.stage_of_not_mem upstream hupstream]
        exact hfinal
    · exact absurd hscope (by simp)

theorem not_mem_nodes_of_append {front : List (StageDefinition Bytes)}
    {definition : StageDefinition Bytes} {stageId : StageId}
    (h : stageId ∉ (topologyOf (front ++ [definition])).nodes) :
    stageId ∉ (topologyOf front).nodes ∧ stageId ≠ definition.stageId := by
  simp only [topologyOf, List.map_append, DependencyGraph.nodes_append, List.mem_append, not_or] at h
  refine ⟨h.1, fun heq => h.2 ?_⟩
  simp [DependencyGraph.nodes, heq]

/-- Passing a stage that has not failed finally keeps the rest pending. -/
theorem Pending.pass {front : List (StageDefinition Bytes)} {definition : StageDefinition Bytes}
    (h : Pending engine scope front root)
    (hfinal : (root.database.stage definition.stageId).state ≠ .failedFinal)
    (hrows : ∀ other, other ≠ definition.stageId →
      next.database.stage other = root.database.stage other) :
    Pending engine scope (front ++ [definition]) next := by
  refine ⟨fun other hmem hnot hin hcomplete => ?_, fun other hmem hnot hrunning => ?_⟩
  · obtain ⟨hfront, hne⟩ := not_mem_nodes_of_append hnot
    unfold IsComplete at hcomplete
    rw [hrows _ hne] at hcomplete
    exact h.forced other hmem hfront hin hcomplete
  · obtain ⟨hfront, hne⟩ := not_mem_nodes_of_append hnot
    rw [hrows _ hne] at hrunning
    obtain ⟨upstream, hdep, hfailed, hupstream⟩ := h.running other hmem hfront hrunning
    have hother : upstream ≠ definition.stageId := fun heq => hfinal (heq ▸ hfailed)
    refine ⟨upstream, hdep, by rw [hrows _ hother]; exact hfailed, ?_⟩
    simp only [topologyOf, List.map_append, DependencyGraph.nodes_append, List.mem_append, not_or]
    refine ⟨hupstream, ?_⟩
    simpa [DependencyGraph.nodes] using hother

theorem pending_invariant (hopened : Opened engine root) :
    ExecutionInvariant platform engine scope (Pending engine scope) (fun _ => True) where
  skipped := fun front definition rest root hsplit hP hcomplete _ =>
    hP.pass (by rw [hcomplete]; simp) (fun _ _ => rfl)
  failedFinal := fun _ _ _ _ _ _ _ => trivial
  blocked := fun front definition rest root hsplit hP _ hfinal _ => hP.pass hfinal (fun _ _ => rfl)
  begins := by
    intro front definition rest root' hsplit hsound hP hskip hfinal hclear
    have hmem : definition ∈ engine.definitions := by simp [hsplit]
    have hnot : definition.stageId ∉ (topologyOf front).nodes :=
      fun hin => hopened.front_ne hsplit hin rfl
    have happlicable := hsound.applicable definition.stageId
    have hcomplete : ¬ IsComplete root' definition.stageId := by
      intro hcomplete
      refine hskip ⟨hcomplete, fun hin => ?_⟩
      exact hP.forced definition hmem hnot hin hcomplete
    have hrunning : (root'.database.stage definition.stageId).state ≠ .running := by
      intro hrunning
      obtain ⟨upstream, hdep, hfailed, _⟩ := hP.running definition hmem hnot hrunning
      have := complete_of_upstreamIncomplete_eq_false hclear upstream hdep
      exact absurd (hfailed.symm.trans this) (by simp)
    unfold IsComplete at hcomplete
    cases hstate : (root'.database.stage definition.stageId).state with
    | pending => rfl
    | failedRetryable => rfl
    | invalidated => rfl
    | running => exact absurd hstate hrunning
    | complete => exact absurd hstate hcomplete
    | failedFinal => exact absurd hstate hfinal
    | skippedNotApplicable => exact absurd hstate happlicable
  executed := by
    intro front definition rest root' key attemptId manifest payloads next hsplit _ hP _ hexecuted
    refine hP.pass ?_ (fun other hother => ?_)
    · intro hfailed
      have hbegins := hexecuted.begins
      rw [hfailed] at hbegins
      cases hbegins
    · rw [hexecuted.stage, Function.update_of_ne hother]
  done := fun _ _ => trivial
  exported := fun _ _ _ => trivial

end Begins

end CartoSentry.Runstate
