import CartoSentry.Contracts.RawTime
import CartoSentry.Ingestion.AcceptedManifests

set_option autoImplicit false

/-!
# Artifacts: the recapture plan

`RecapturePlan` of `artifacts.py` with its validator, and when an accepted plan accounts
for every requirement once.
-/

namespace CartoSentry.Artifacts

open Contracts (NonemptyString NonnegativeFloat)
open Foundation (JsonValue Double bind_unit_eq_ok_iff bind_eq_ok_iff)

/-! ## The records -/

/-- A finite float above zero. -/
structure PositiveFloat where
  value : Double
  finite : value.isFinite = true
  positive : 0 < value.number

inductive Reachability where
  | reachable
  | deferred
  | unreachable
  deriving DecidableEq, Repr

def Reachability.value : Reachability → String
  | .reachable => "REACHABLE"
  | .deferred => "DEFERRED"
  | .unreachable => "UNREACHABLE"

inductive TraversalDirection where
  | forward
  | reverse
  deriving DecidableEq, Repr

def TraversalDirection.value : TraversalDirection → String
  | .forward => "FORWARD"
  | .reverse => "REVERSE"

inductive ReadinessState where
  | pass
  | fail
  | unknown
  deriving DecidableEq, Repr

def ReadinessState.value : ReadinessState → String
  | .pass => "PASS"
  | .fail => "FAIL"
  | .unknown => "UNKNOWN"

/-- A requirement, whose interval its own validator has checked. -/
structure RecaptureRequirement where
  requirementId : StableId
  roadBinId : StableId
  directedArcId : Identifier
  startOffsetM : NonnegativeFloat
  endOffsetM : NonnegativeFloat
  requiredModality : SensorModality
  traversalDirection : TraversalDirection
  minimumContinuousObservationM : PositiveFloat
  sensorWarmupM : NonnegativeFloat
  priorityWeight : Nat
  reason : NonemptyString
  reachability : Reachability
  offsets : startOffsetM.value.number < endOffsetM.value.number

/-- A budget that declares a distance or a duration. -/
structure RouteBudget where
  maximumDistanceM : Option PositiveFloat
  maximumDurationNs : Option ℕ+
  declared : maximumDistanceM ≠ none ∨ maximumDurationNs ≠ none

structure RecapturePlan where
  recapturePlanId : StableId
  runId : StableId
  roadGraphId : StableId
  depotNodeId : Identifier
  requirements : List RecaptureRequirement
  routeArcIds : List Identifier
  coveredRequirementIds : List StableId
  deferredRequirementIds : List StableId
  unreachableRequirementIds : List StableId
  estimatedDistanceM : NonnegativeFloat
  estimatedDurationNs : Nat
  budget : Option RouteBudget
  validationState : ReadinessState

/-! ## Dumps -/

/-- A value or `None`. -/
def optional {A : Type} (dump : A → JsonValue String) : Option A → JsonValue String
  | none => .null
  | some value => dump value

/-- A list of texts with a pattern. -/
def dumpTexts {accepts : List Char → Bool} (texts : List (Patterned accepts)) :
    JsonValue String :=
  .array (texts.map fun item => .string item.text)

def RecaptureRequirement.dump (requirement : RecaptureRequirement) : JsonValue String :=
  .object [("requirement_id", .string requirement.requirementId.text),
    ("road_bin_id", .string requirement.roadBinId.text),
    ("directed_arc_id", .string requirement.directedArcId.text),
    ("start_offset_m", .real requirement.startOffsetM.value),
    ("end_offset_m", .real requirement.endOffsetM.value),
    ("required_modality", .string requirement.requiredModality.value),
    ("traversal_direction", .string requirement.traversalDirection.value),
    ("minimum_continuous_observation_m", .real requirement.minimumContinuousObservationM.value),
    ("sensor_warmup_m", .real requirement.sensorWarmupM.value),
    ("priority_weight", .integer requirement.priorityWeight),
    ("reason", .string requirement.reason.text),
    ("reachability", .string requirement.reachability.value)]

def RouteBudget.dump (budget : RouteBudget) : JsonValue String :=
  .object [("maximum_distance_m", optional (fun limit => .real limit.value) budget.maximumDistanceM),
    ("maximum_duration_ns",
      optional (fun limit => .integer (limit : Nat)) budget.maximumDurationNs)]

/-- `make_recapture_plan_id` -/
def makeRecapturePlanId (platform : Platform) (identity : JsonValue String) :
    Except IdentityError StableId :=
  identifier platform ⟨"recapture-plan", by decide⟩ identity

namespace RecapturePlan

variable (plan : RecapturePlan)

def dump : JsonValue String :=
  .object [("schema_version", .string "cartosentry.recapture-plan.v1"),
    ("recapture_plan_id", .string plan.recapturePlanId.text),
    ("run_id", .string plan.runId.text), ("road_graph_id", .string plan.roadGraphId.text),
    ("depot_node_id", .string plan.depotNodeId.text),
    ("requirements", .array (plan.requirements.map RecaptureRequirement.dump)),
    ("route_arc_ids", dumpTexts plan.routeArcIds),
    ("covered_requirement_ids", dumpTexts plan.coveredRequirementIds),
    ("deferred_requirement_ids", dumpTexts plan.deferredRequirementIds),
    ("unreachable_requirement_ids", dumpTexts plan.unreachableRequirementIds),
    ("estimated_distance_m", .real plan.estimatedDistanceM.value),
    ("estimated_duration_ns", .integer plan.estimatedDurationNs),
    ("budget", optional RouteBudget.dump plan.budget),
    ("validation_state", .string plan.validationState.value)]

/-- `identity_payload` -/
def identityPayload : JsonValue String :=
  .object [("budget", optional RouteBudget.dump plan.budget),
    ("depot_node_id", .string plan.depotNodeId.text),
    ("requirements", .array (plan.requirements.map RecaptureRequirement.dump)),
    ("road_graph_id", .string plan.roadGraphId.text),
    ("route_arc_ids", dumpTexts plan.routeArcIds), ("run_id", .string plan.runId.text)]

/-! ## Validation -/

/-- The keys of `known`, where requirements with one identifier are one entry. -/
def known : List StableId :=
  (plan.requirements.map RecaptureRequirement.requirementId).dedup

def flattened : List StableId :=
  plan.coveredRequirementIds ++ plan.deferredRequirementIds ++ plan.unreachableRequirementIds

def expectedUnreachable : List StableId :=
  (plan.requirements.filter fun item => item.reachability = .unreachable).map
    RecaptureRequirement.requirementId

/-- Equality of `set(left)` and `set(right)`. -/
def SameSet (left right : List StableId) : Prop :=
  (∀ id ∈ left, id ∈ right) ∧ ∀ id ∈ right, id ∈ left

instance (left right : List StableId) : Decidable (SameSet left right) :=
  inferInstanceAs (Decidable (_ ∧ _))

/-- `validate_plan_identity_and_partition` -/
def validatePlanIdentityAndPartition (platform : Platform) : Except IdentityError Unit := do
  let expected ← makeRecapturePlanId platform plan.identityPayload
  require (plan.recapturePlanId = expected) "recapture_plan_id does not match plan semantics"
  require (plan.flattened.Nodup ∧ SameSet plan.flattened plan.known)
    "plan outcome lists must partition all requirements"
  require (SameSet plan.unreachableRequirementIds plan.expectedUnreachable)
    "unreachable outcomes disagree with requirements"

/-- The validators of the model, portability first. -/
def validate (platform : Platform) : Except IdentityError Unit := do
  checkPortable platform plan.dump "artifact"
  plan.validatePlanIdentityAndPartition platform

/-! ## Accounting -/

def requirementIds : List StableId :=
  plan.requirements.map RecaptureRequirement.requirementId

/-- Every requirement is in one outcome list, once, and in the right one, and the lists name
nothing else. -/
structure AccountsOnce : Prop where
  once : ∀ requirement ∈ plan.requirements, plan.flattened.count requirement.requirementId = 1
  unreachable : ∀ requirement ∈ plan.requirements,
    requirement.requirementId ∈ plan.unreachableRequirementIds ↔
      requirement.reachability = .unreachable
  distinct : plan.requirementIds.Nodup
  requirementsOnly : ∀ id ∈ plan.flattened, id ∈ plan.requirementIds

variable {plan}

/-- What acceptance says about the lists. -/
structure Partitioned (plan : RecapturePlan) : Prop where
  nodup : plan.flattened.Nodup
  outcomes : SameSet plan.flattened plan.known
  unreachable : SameSet plan.unreachableRequirementIds plan.expectedUnreachable

theorem require_eq_ok_iff {condition : Prop} [Decidable condition] {message : String} :
    require condition message = .ok () ↔ condition := by
  unfold require
  split_ifs with h
  · exact iff_of_true rfl h
  · exact iff_of_false (fun herror => nomatch herror) h

theorem partitioned_of_validate {platform : Platform} (h : plan.validate platform = .ok ()) :
    Partitioned plan := by
  obtain ⟨-, hvalid⟩ := bind_unit_eq_ok_iff.mp h
  obtain ⟨expected, -, hrest⟩ := bind_eq_ok_iff.mp hvalid
  rw [bind_unit_eq_ok_iff, bind_unit_eq_ok_iff, require_eq_ok_iff, require_eq_ok_iff,
    require_eq_ok_iff] at hrest
  obtain ⟨-, ⟨hnodup, houtcomes⟩, hunreachable⟩ := hrest
  exact ⟨hnodup, houtcomes, hunreachable⟩

theorem mem_known {id : StableId} : id ∈ plan.known ↔ id ∈ plan.requirementIds :=
  List.mem_dedup

/-- Each requirement has its outcome, whether or not another one has its identifier. -/
theorem Partitioned.once (h : Partitioned plan) {requirement : RecaptureRequirement}
    (hmem : requirement ∈ plan.requirements) :
    plan.flattened.count requirement.requirementId = 1 := by
  apply List.count_eq_one_of_mem h.nodup
  exact h.outcomes.2 _ (mem_known.mpr (List.mem_map_of_mem hmem))

/-- With distinct identifiers, the one that makes an outcome unreachable is the requirement
itself. -/
theorem Partitioned.unreachable_iff (h : Partitioned plan) (hdistinct : plan.requirementIds.Nodup)
    {requirement : RecaptureRequirement} (hmem : requirement ∈ plan.requirements) :
    requirement.requirementId ∈ plan.unreachableRequirementIds ↔
      requirement.reachability = .unreachable := by
  constructor
  · intro hlisted
    obtain ⟨other, hother, hid⟩ := List.mem_map.mp (h.unreachable.1 _ hlisted)
    rw [List.mem_filter, decide_eq_true_eq] at hother
    rw [← List.inj_on_of_nodup_map hdistinct hother.1 hmem hid]
    exact hother.2
  · intro hreachability
    apply h.unreachable.2
    apply List.mem_map_of_mem
    rw [List.mem_filter, decide_eq_true_eq]
    exact ⟨hmem, hreachability⟩

end RecapturePlan

/-- An accepted plan accounts for every requirement once exactly when no two of its
requirements have one identifier. -/
theorem recapture_plan_accounts_iff (platform : Platform) (plan : RecapturePlan)
    (h : plan.validate platform = .ok ()) : plan.AccountsOnce ↔ plan.requirementIds.Nodup := by
  have hpartitioned := RecapturePlan.partitioned_of_validate h
  constructor
  · exact fun haccounts => haccounts.distinct
  · intro hdistinct
    exact {
      once := fun requirement hmem => hpartitioned.once hmem
      unreachable := fun requirement hmem => hpartitioned.unreachable_iff hdistinct hmem
      distinct := hdistinct
      requirementsOnly := fun id hid => RecapturePlan.mem_known.mp (hpartitioned.outcomes.1 id hid) }

/-! ## A plan with one identifier for two requirements -/

/-- The platform for the reals `0.0` and `1.0`. -/
def planPlatform : Platform :=
  { Ingestion.samplePlatform with
    floatText := fun value => if value = .finite 1 then "1.0" else "0.0" }

theorem zeroFloat_nonnegative :
    (Double.finite 0).isFinite = true ∧ 0 ≤ (Double.finite 0).number :=
  ⟨rfl, le_refl 0⟩

def zeroFloat : NonnegativeFloat :=
  ⟨.finite 0, zeroFloat_nonnegative.1, zeroFloat_nonnegative.2⟩

def oneFloat : NonnegativeFloat :=
  ⟨.finite 1, rfl, by decide⟩

/-- A requirement with the only identifier of these plans. -/
def planRequirement (reachability : Reachability) : RecaptureRequirement where
  requirementId := ⟨"requirement-sha256-aaaaaaaaaaaaaaaaaaaaaaaaaaaaaaaaaaaaaaaaaaaaaaaaaaaaaaaaaaaaaaaa",
    by decide +kernel⟩
  roadBinId := ⟨"road-bin-sha256-bbbbbbbbbbbbbbbbbbbbbbbbbbbbbbbbbbbbbbbbbbbbbbbbbbbbbbbbbbbbbbbb",
    by decide +kernel⟩
  directedArcId := ⟨"arc-1", by decide⟩
  startOffsetM := zeroFloat
  endOffsetM := oneFloat
  requiredModality := .lidar
  traversalDirection := .forward
  minimumContinuousObservationM := ⟨.finite 1, rfl, by decide⟩
  sensorWarmupM := zeroFloat
  priorityWeight := 1
  reason := ⟨"weak coverage", by decide⟩
  reachability := reachability
  offsets := by decide

/-- A plan whose requirements have one outcome, in the list it names. -/
def samplePlan (recapturePlanId : StableId) (requirements : List RecaptureRequirement)
    (covered unreachable : List StableId) : RecapturePlan where
  recapturePlanId := recapturePlanId
  runId := ⟨"run-sha256-dddddddddddddddddddddddddddddddddddddddddddddddddddddddddddddddd",
    by decide +kernel⟩
  roadGraphId := ⟨"road-graph-sha256-cccccccccccccccccccccccccccccccccccccccccccccccccccccccccccccccc",
    by decide +kernel⟩
  depotNodeId := ⟨"depot", by decide⟩
  requirements := requirements
  routeArcIds := [⟨"arc-1", by decide⟩]
  coveredRequirementIds := covered
  deferredRequirementIds := []
  unreachableRequirementIds := unreachable
  estimatedDistanceM := oneFloat
  estimatedDurationNs := 1
  budget := none
  validationState := .pass

def coveredPlan : RecapturePlan :=
  samplePlan
    ⟨"recapture-plan-sha256-81bf4f153d8a0c713a3e3a46ac05d959ccfbb33fc1c02e719c620c1389073bfb",
      by decide +kernel⟩
    [planRequirement .reachable] [(planRequirement .reachable).requirementId] []

theorem recapture_plan_accounts_iff_covered : coveredPlan.validate planPlatform = .ok () ∧
    (coveredPlan.AccountsOnce ↔ coveredPlan.requirementIds.Nodup) := by
  have haccepted : coveredPlan.validate planPlatform = .ok () := by decide +kernel
  exact ⟨haccepted, recapture_plan_accounts_iff planPlatform coveredPlan haccepted⟩

/-- One identifier for a reachable and for an unreachable requirement. -/
def conflictingPlan : RecapturePlan :=
  samplePlan
    ⟨"recapture-plan-sha256-c23e265cf72efd93f7e639e9604232cfd20b5d72f48ae47e018be931e29b7714",
      by decide +kernel⟩
    [planRequirement .reachable, planRequirement .unreachable] []
    [(planRequirement .reachable).requirementId]

/-- The plan is accepted, and the reachable requirement is listed as unreachable. -/
theorem conflictingPlan_accepted : conflictingPlan.validate planPlatform = .ok () ∧
    ¬ conflictingPlan.requirementIds.Nodup ∧ ¬ conflictingPlan.AccountsOnce ∧
    ∃ requirement ∈ conflictingPlan.requirements,
      requirement.requirementId ∈ conflictingPlan.unreachableRequirementIds ∧
        requirement.reachability = .reachable := by
  have hdoubled : ¬ conflictingPlan.requirementIds.Nodup := by
    intro hnodup
    exact (List.nodup_cons.mp hnodup).1 List.mem_cons_self
  refine ⟨by decide +kernel, hdoubled, fun haccounts => hdoubled haccounts.distinct, ?_⟩
  exact ⟨planRequirement .reachable, List.mem_cons_self, List.mem_cons_self, rfl⟩

end CartoSentry.Artifacts
