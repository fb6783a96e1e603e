import CartoSentry.Foundation.DecimalText
import CartoSentry.Foundation.Outcome
import CartoSentry.RoadGraph.Contracts

set_option autoImplicit false

/-!
# Road graph: included ways

`_include_way`: which OpenStreetMap ways enter the graph, and in which directions.  A way that
enters carries that it has a segment and a direction.
-/

namespace CartoSentry.RoadGraph

open Foundation (UnicodeNumerals bind_eq_ok_iff bind_unit_eq_ok_iff)
open Foundation.JsonScanner (Text isDigit word)

/-! ## The import profile -/

structure AccessProfile where
  genericKeys : List String
  allowedValues : List String
  deniedValues : List String
  disjoint : ∀ value ∈ allowedValues, value ∉ deniedValues

structure DirectionalityProfile where
  onewayKeys : List String
  forwardValues : List String
  reverseValues : List String
  bidirectionalValues : List String
  implicitForwardJunctionValues : List String
  implicitForwardHighwayClasses : List String

/-- The part of `GraphImportProfile` that decides the graph. -/
structure GraphImportProfile where
  immutableSha256 : String
  includedHighwayClasses : List String
  access : AccessProfile
  directionality : DirectionalityProfile
  turnRestrictions : TurnRestrictionProfile
  minimumArcLength : ℚ
  maximumGeometryPointsPerArc : Nat
  minimumPositive : 0 < minimumArcLength
  pointsSuffice : 1 < maximumGeometryPointsPerArc

theorem frozen_access_disjoint :
    ∀ value ∈ ["yes", "permissive", "designated", "official"],
      value ∉ ["no", "private", "destination", "delivery", "customers", "permit"] := by
  decide

theorem frozen_minimum_pos : (0 : ℚ) < 1 / 100 := by
  decide +kernel

/-- The frozen profile `graph_import_v1`. -/
def graphImportV1 : GraphImportProfile where
  immutableSha256 := "89f4b306dce91ba9adcfc4da5b651ef1acaa247a33009cc03d96d85d632f20fb"
  includedHighwayClasses := ["motorway", "motorway_link", "trunk", "trunk_link", "primary",
    "primary_link", "secondary", "secondary_link", "tertiary", "tertiary_link", "unclassified",
    "residential", "living_street", "service"]
  access := {
    genericKeys := ["motorcar", "motor_vehicle", "vehicle", "access"]
    allowedValues := ["yes", "permissive", "designated", "official"]
    deniedValues := ["no", "private", "destination", "delivery", "customers", "permit"]
    disjoint := frozen_access_disjoint }
  directionality := {
    onewayKeys := ["oneway:motor_vehicle", "oneway"]
    forwardValues := ["yes", "1", "true"]
    reverseValues := ["-1"]
    bidirectionalValues := ["no", "0", "false"]
    implicitForwardJunctionValues := ["roundabout", "circular"]
    implicitForwardHighwayClasses := ["motorway", "motorway_link"] }
  turnRestrictions := {
    relationType := "restriction"
    restrictionTagKeys := ["restriction:motorcar", "restriction:motor_vehicle", "restriction"]
    supportedPrefixes := ["no_", "only_"] }
  minimumArcLength := 1 / 100
  maximumGeometryPointsPerArc := 65536
  minimumPositive := frozen_minimum_pos
  pointsSuffice := Nat.lt_of_sub_eq_succ rfl

/-! ## Ways -/

structure RawWay where
  wayId : OsmId
  nodeIds : List OsmId
  tags : Tags

/-- `_IncludedWay`, with what `_include_way` establishes. -/
structure IncludedWay where
  raw : RawWay
  forward : Bool
  reverse : Bool
  segmented : 2 ≤ raw.nodeIds.length
  directed : forward = true ∨ reverse = true

/-- The reasons for which a way stays out. -/
inductive ExclusionReason where
  | unsupportedHighway
  | area
  | construction
  | ferry
  | conditionalAccess
  | deniedOrLimitedAccess
  | unknownAccess
  | insufficientGeometry
  | unknownOneway
  | unknownDirectionalAccess
  | noAllowedDirection
  | unknownLayer
  deriving DecidableEq, Repr

def ExclusionReason.value : ExclusionReason → String
  | .unsupportedHighway => "unsupported_highway"
  | .area => "area"
  | .construction => "construction"
  | .ferry => "ferry"
  | .conditionalAccess => "conditional_access"
  | .deniedOrLimitedAccess => "denied_or_limited_access"
  | .unknownAccess => "unknown_access"
  | .insufficientGeometry => "insufficient_geometry"
  | .unknownOneway => "unknown_oneway"
  | .unknownDirectionalAccess => "unknown_directional_access"
  | .noAllowedDirection => "no_allowed_direction"
  | .unknownLayer => "unknown_layer"

/-! ## Whole numbers -/

/-- Digits, with single underscores between them. -/
def digitGroups : Text → Bool
  | [] => false
  | [point] => isDigit point
  | point :: next :: rest =>
    isDigit point && (if next = '_'.toNat then digitGroups rest else digitGroups (next :: rest))

def isAsciiSpace (point : Nat) : Bool :=
  point = ' '.toNat || (9 ≤ point && point ≤ 13)

/-- A text without its leading sign. -/
def unsigned : Text → Text
  | [] => []
  | point :: rest => if point = '+'.toNat ∨ point = '-'.toNat then rest else point :: rest

/-- `int(text)` succeeds: at most 4300 digits, which is the interpreter's limit. -/
def readsInteger (unicode : UnicodeNumerals) (text : String) : Bool :=
  match (word text).mapM unicode.asciiPoint with
  | none => false
  | some ascii =>
    let bare := unsigned ((ascii.dropWhile isAsciiSpace).reverse.dropWhile isAsciiSpace).reverse
    digitGroups bare && (bare.filter isDigit).length ≤ 4300

/-! ## Inclusion -/

section Inclusion

variable (unicode : UnicodeNumerals) (profile : GraphImportProfile)

/-- The generic access keys: the first one that the way has decides. -/
def genericAccess (tags : Tags) : Except ExclusionReason Unit :=
  match profile.access.genericKeys.findSome? tags.get? with
  | none => .ok ()
  | some value =>
    if value ∈ profile.access.allowedValues then .ok ()
    else if value ∈ profile.access.deniedValues then .error .deniedOrLimitedAccess
    else .error .unknownAccess

/-- `_directional_access`: whether travel is allowed, and whether the value is unknown. -/
def directionalAccess (tags : Tags) (suffix : String) : Bool × Bool :=
  match profile.access.genericKeys.findSome? fun key => tags.get? (key ++ ":" ++ suffix) with
  | none => (true, false)
  | some value =>
    if value ∈ profile.access.allowedValues then (true, false)
    else if value ∈ profile.access.deniedValues then (false, false)
    else (false, true)

/-- The directions that the first oneway key of a way gives it, or its highway and junction. -/
def onewayDirections (tags : Tags) (highway : String) : Except ExclusionReason (Bool × Bool) :=
  let directionality := profile.directionality
  match directionality.onewayKeys.findSome? tags.get? with
  | none =>
    let implicitForward :=
      (tags.get? "junction").any (· ∈ directionality.implicitForwardJunctionValues) ||
        decide (highway ∈ directionality.implicitForwardHighwayClasses)
    .ok (true, !implicitForward)
  | some value =>
    if value ∈ directionality.forwardValues then .ok (true, false)
    else if value ∈ directionality.reverseValues then .ok (false, true)
    else if value ∈ directionality.bidirectionalValues then .ok (true, true)
    else .error .unknownOneway

/-- The directions in which a way may be travelled. -/
def allowedDirections (tags : Tags) (highway : String) : Except ExclusionReason (Bool × Bool) := do
  let (forward, reverse) ← onewayDirections profile tags highway
  let (forwardAccess, forwardUnknown) := directionalAccess profile tags "forward"
  let (reverseAccess, reverseUnknown) := directionalAccess profile tags "backward"
  if forwardUnknown || reverseUnknown then .error .unknownDirectionalAccess
  else .ok (forward && forwardAccess, reverse && reverseAccess)

/-- The tags that exclude a way before its access is read. -/
def excludedByTags (tags : Tags) (highway : String) : Except ExclusionReason Unit :=
  if highway ∉ profile.includedHighwayClasses then .error .unsupportedHighway
  else if tags.get? "area" = some "yes" then .error .area
  else if highway = "construction" ∨ tags.contains "construction" ∨ tags.contains "proposed" then
    .error .construction
  else if tags.get? "route" = some "ferry" ∨ tags.contains "ferry" then .error .ferry
  else if tags.keys.any fun key => endsWith key ":conditional" then .error .conditionalAccess
  else .ok ()

/-- `_include_way` -/
def includeWay (way : RawWay) : Except ExclusionReason IncludedWay := do
  let highway := (way.tags.get? "highway").getD ""
  excludedByTags profile way.tags highway
  genericAccess profile way.tags
  if hsegmented : 2 ≤ way.nodeIds.length then
    let directions ← allowedDirections profile way.tags highway
    if hdirected : directions.1 = true ∨ directions.2 = true then
      if (way.tags.get? "layer").all (readsInteger unicode) then
        .ok ⟨way, directions.1, directions.2, hsegmented, hdirected⟩
      else .error .unknownLayer
    else .error .noAllowedDirection
  else .error .insufficientGeometry

/-- An included way is the way as it was read. -/
theorem includeWay_raw {way : RawWay} {item : IncludedWay}
    (h : includeWay unicode profile way = .ok item) : item.raw = way := by
  unfold includeWay at h
  rw [bind_unit_eq_ok_iff, bind_unit_eq_ok_iff] at h
  obtain ⟨-, -, h⟩ := h
  split at h
  · obtain ⟨directions, -, h⟩ := bind_eq_ok_iff.mp h
    split_ifs at h
    obtain rfl := Except.ok.inj h
    rfl
  · cases h

end Inclusion

end CartoSentry.RoadGraph
