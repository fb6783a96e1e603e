import CartoSentry.Foundation.KeyedList
import CartoSentry.RoadGraph.Coordinates
import CartoSentry.RoadGraph.GraphImport

set_option autoImplicit false

/-!
# Road graph: the OpenStreetMap document

`_parse_osm` on the element tree of a document: nodes, ways and relations in the order of the
document, within the budgets of the profile.  What it accepts is described without its loops, and
every described document is accepted.
-/

namespace CartoSentry.RoadGraph

open Contracts (Raised)
open Foundation
open Foundation.JsonScanner (digitsValue isDigit word)

/-! ## Elements -/

/-- An element of the XML tree. -/
structure XmlElement where
  tag : String
  attributes : List (String × String)
  children : List XmlElement

namespace XmlElement

variable (element : XmlElement)

/-- `findall` -/
def findAll (tag : String) : List XmlElement :=
  element.children.filter fun child => child.tag = tag

def attrib? (name : String) : Option String :=
  element.attributes.lookup name

/-- `attrib.get(name, "")` -/
def attribText (name : String) : String :=
  (element.attrib? name).getD ""

end XmlElement

/-- The budgets that the parser reads. -/
structure GraphLimits where
  maximumNodes : Nat
  maximumWays : Nat
  maximumRelations : Nat
  maximumWayNodeReferences : Nat
  maximumTagsPerElement : Nat
  deriving DecidableEq, Repr

/-- A `ValueError`. -/
def refuse {A : Type} (message : String) : Except CoordinateError A :=
  .error (.raised (.valueError message))

/-! ## Identifiers and tags -/

/-- `_positive_id`.  The interpreter does not convert more than 4300 digits. -/
def positiveId (context value : String) : Except CoordinateError OsmId :=
  if word value = [] ∨ ¬ (word value).all isDigit then
    refuse ("OSM " ++ context ++ " identifier must be a positive integer")
  else if 4300 < (word value).length then
    refuse ("Exceeds the limit (4300 digits) for integer string conversion: value has " ++
      (word value).length.repr ++
      " digits; use sys.set_int_max_str_digits() to increase the limit")
  else if digitsValue (word value) = 0 then
    refuse ("OSM " ++ context ++ " identifier must be a positive integer")
  else .ok (digitsValue (word value))

/-- Digits of a positive number. -/
structure SpellsId (value : String) (id : OsmId) : Prop where
  nonempty : word value ≠ []
  digits : (word value).all isDigit = true
  short : (word value).length ≤ 4300
  value_eq : digitsValue (word value) = id
  positive : 0 < id

theorem positiveId_eq_ok_iff {context value : String} {id : OsmId} :
    positiveId context value = .ok id ↔ SpellsId value id := by
  unfold positiveId refuse
  constructor
  · intro h
    split_ifs at h with hdigits hlong hzero
    obtain rfl := Except.ok.inj h
    rw [not_or, not_not] at hdigits
    exact ⟨hdigits.1, hdigits.2, not_lt.mp hlong, rfl, Nat.pos_of_ne_zero hzero⟩
  · rintro ⟨hne, hdigits, hshort, rfl, hpos⟩
    rw [if_neg (not_or.mpr ⟨hne, not_not.mpr hdigits⟩), if_neg (not_lt.mpr hshort),
      if_neg hpos.ne']

/-- One step of `_tags`. -/
def readTag (maximum : Nat) (seen : List (String × String)) (item : XmlElement) :
    Except CoordinateError (String × String) :=
  match item.attrib? "k", item.attrib? "v" with
  | some key, some value =>
    if key = "" ∨ key ∈ seen.map Prod.fst then
      refuse "OSM tags must have unique nonempty keys and values"
    else if maximum < seen.length + 1 then
      refuse "OSM element tag count exceeds the frozen budget"
    else .ok (key, value)
  | _, _ => refuse "OSM tags must have unique nonempty keys and values"

/-- What a `tag` element says. -/
structure SaysTag (item : XmlElement) (entry : String × String) : Prop where
  key : item.attrib? "k" = some entry.1
  value : item.attrib? "v" = some entry.2
  nonempty : entry.1 ≠ ""

theorem readTag_reads (maximum : Nat) : Reads (readTag maximum) SaysTag Prod.fst
    (fun entries => entries.length ≤ maximum) where
  step seen item entry := by
    constructor
    · intro h
      unfold readTag at h
      split at h
      · rename_i key value hkey hvalue
        split_ifs at h with hrefused hspent
        · cases h
        · cases h
        · obtain rfl := Except.ok.inj h
          rw [not_or] at hrefused
          refine ⟨⟨hkey, hvalue, hrefused.1⟩, hrefused.2, ?_⟩
          rw [List.length_append, List.length_singleton]
          exact not_lt.mp hspent
      · cases h
    · rintro ⟨⟨hkey, hvalue, hne⟩, hnew, hbudget⟩
      rw [List.length_append, List.length_singleton] at hbudget
      unfold readTag
      rw [hkey, hvalue]
      exact (if_neg (not_or.mpr ⟨hne, hnew⟩)).trans (if_neg (not_lt.mpr hbudget))
  shorter seen later h := by
    rw [List.length_append] at h
    omega

theorem readTags_spec {maximum : Nat} {element : XmlElement} {entries : List (String × String)} :
    collect (readTag maximum) [] (element.findAll "tag") = .ok entries ↔
      List.Forall₂ SaysTag (element.findAll "tag") entries ∧ (entries.map Prod.fst).Nodup ∧
        entries.length ≤ maximum :=
  (readTag_reads maximum).collect_eq_ok_iff (Nat.zero_le _)

theorem nonempty_of_tags {items : List XmlElement} {entries : List (String × String)}
    (h : List.Forall₂ SaysTag items entries) : ∀ entry ∈ entries, entry.1 ≠ "" := by
  intro entry hentry
  obtain ⟨item, -, htold⟩ := exists_left_of_mem h hentry
  exact htold.nonempty

/-- `_tags` -/
def readTags (maximum : Nat) (element : XmlElement) : Except CoordinateError Tags :=
  match h : collect (readTag maximum) [] (element.findAll "tag") with
  | .error failure => .error failure
  | .ok entries =>
    .ok ⟨entries, (readTags_spec.mp h).2.1, nonempty_of_tags (readTags_spec.mp h).1⟩

theorem readTags_eq_ok_iff {maximum : Nat} {element : XmlElement} {tags : Tags} :
    readTags maximum element = .ok tags ↔
      List.Forall₂ SaysTag (element.findAll "tag") tags.entries ∧
        tags.entries.length ≤ maximum := by
  unfold readTags
  constructor
  · intro h
    split at h
    · cases h
    · rename_i entries hcollect
      obtain rfl := Except.ok.inj h
      exact ⟨(readTags_spec.mp hcollect).1, (readTags_spec.mp hcollect).2.2⟩
  · rintro ⟨htold, hbudget⟩
    have hcollect := readTags_spec.mpr ⟨htold, tags.unique, hbudget⟩
    split
    · rename_i failure hfailed
      rw [hcollect] at hfailed
      cases hfailed
    · rename_i entries hread
      cases hcollect.symm.trans hread
      rfl

/-! ## Nodes, ways and relations -/

structure RawNode where
  nodeId : OsmId
  latitude : Int
  longitude : Int
  deriving DecidableEq, Repr

theorem refuseIf_eq_ok_iff {condition : Prop} [Decidable condition] {message : String} :
    refuseIf condition message = .ok () ↔ ¬ condition := by
  unfold refuseIf
  split_ifs with h
  · exact iff_of_false (fun hok => by cases hok) (not_not.mpr h)
  · exact iff_of_true rfl h

theorem mapM_eq_ok_iff {E A B : Type} {f : A → Except E B} {P : A → B → Prop}
    (h : ∀ a b, f a = .ok b ↔ P a b) {as : List A} {bs : List B} :
    as.mapM f = .ok bs ↔ List.Forall₂ P as bs := by
  constructor
  · intro hok
    exact (forall₂_of_mapM_eq_ok hok).imp fun a b => (h a b).mp
  · intro hall
    induction hall with
    | nil => rfl
    | cons hfirst _ ih =>
      rw [List.mapM_cons, (h _ _).mpr hfirst, ih]
      rfl

section Readers

variable (unicode : UnicodeNumerals) (limits : GraphLimits)

/-- One step of the loop over the `node` elements. -/
def readNode (seen : List RawNode) (element : XmlElement) : Except CoordinateError RawNode := do
  let nodeId ← positiveId "node" (element.attribText "id")
  refuseIf (nodeId ∈ seen.map RawNode.nodeId) "OSM node identifiers must be unique"
  let latitude ← coordinateE7 unicode (word (element.attribText "lat")) true
  let longitude ← coordinateE7 unicode (word (element.attribText "lon")) false
  let _ ← readTags limits.maximumTagsPerElement element
  return ⟨nodeId, latitude, longitude⟩

/-- What a `node` element says. -/
structure SaysNode (element : XmlElement) (node : RawNode) : Prop where
  id : SpellsId (element.attribText "id") node.nodeId
  latitude : coordinateE7 unicode (word (element.attribText "lat")) true = .ok node.latitude
  longitude : coordinateE7 unicode (word (element.attribText "lon")) false = .ok node.longitude
  tags : ∃ tags, readTags limits.maximumTagsPerElement element = .ok tags

/-- The references of the ways so far. -/
def referenceCount (ways : List RawWay) : Nat :=
  (ways.map fun way => way.nodeIds.length).sum

/-- One step of the loop over the `way` elements. -/
def readWay (nodeIds : List OsmId) (seen : List RawWay) (element : XmlElement) :
    Except CoordinateError RawWay := do
  let wayId ← positiveId "way" (element.attribText "id")
  refuseIf (wayId ∈ seen.map RawWay.wayId) "OSM way identifiers must be unique"
  let references ← (element.findAll "nd").mapM fun item =>
    positiveId "node reference" (item.attribText "ref")
  refuseIf (limits.maximumWayNodeReferences < referenceCount seen + references.length)
    "OSM way references exceed the frozen budget"
  refuseIf (∃ nodeId ∈ references, nodeId ∉ nodeIds) "OSM way references an unavailable node"
  let tags ← readTags limits.maximumTagsPerElement element
  return ⟨wayId, references, tags⟩

/-- What a `way` element says. -/
structure SaysWay (nodeIds : List OsmId) (element : XmlElement) (way : RawWay) : Prop where
  id : SpellsId (element.attribText "id") way.wayId
  references : List.Forall₂ (fun item => SpellsId (item.attribText "ref")) (element.findAll "nd")
    way.nodeIds
  available : ∀ nodeId ∈ way.nodeIds, nodeId ∈ nodeIds
  tags : readTags limits.maximumTagsPerElement element = .ok way.tags

def memberType (text : String) : MemberType :=
  if text = "node" then .node else if text = "way" then .way else .other text

def readMember (item : XmlElement) : Except CoordinateError RawMember := do
  let memberId ← positiveId "relation member" (item.attribText "ref")
  return ⟨memberType (item.attribText "type"), memberId, item.attribText "role"⟩

/-- What a `member` element says. -/
structure SaysMember (item : XmlElement) (entry : RawMember) : Prop where
  id : SpellsId (item.attribText "ref") entry.memberId
  type : memberType (item.attribText "type") = entry.memberType
  role : item.attribText "role" = entry.role

/-- One step of the loop over the `relation` elements. -/
def readRelation (seen : List RawRelation) (element : XmlElement) :
    Except CoordinateError RawRelation := do
  let relationId ← positiveId "relation" (element.attribText "id")
  refuseIf (relationId ∈ seen.map RawRelation.relationId) "OSM relation identifiers must be unique"
  let members ← (element.findAll "member").mapM readMember
  let tags ← readTags limits.maximumTagsPerElement element
  return ⟨relationId, members, tags⟩

/-- What a `relation` element says. -/
structure SaysRelation (element : XmlElement) (relation : RawRelation) : Prop where
  id : SpellsId (element.attribText "id") relation.relationId
  members : List.Forall₂ SaysMember (element.findAll "member") relation.members
  tags : readTags limits.maximumTagsPerElement element = .ok relation.tags

theorem readNode_reads : Reads (readNode unicode limits) (SaysNode unicode limits) RawNode.nodeId
    (fun _ => True) where
  step seen element node := by
    constructor
    · intro h
      obtain ⟨nodeId, hid, h⟩ := bind_eq_ok_iff.mp h
      obtain ⟨hnew, h⟩ := bind_unit_eq_ok_iff.mp h
      obtain ⟨latitude, hlatitude, h⟩ := bind_eq_ok_iff.mp h
      obtain ⟨longitude, hlongitude, h⟩ := bind_eq_ok_iff.mp h
      obtain ⟨tags, htags, h⟩ := bind_eq_ok_iff.mp h
      obtain rfl := Except.ok.inj h
      exact ⟨⟨positiveId_eq_ok_iff.mp hid, hlatitude, hlongitude, tags, htags⟩,
        refuseIf_eq_ok_iff.mp hnew, trivial⟩
    · rintro ⟨⟨hid, hlatitude, hlongitude, tags, htags⟩, hnew, -⟩
      refine bind_eq_ok_iff.mpr ⟨_, positiveId_eq_ok_iff.mpr hid, ?_⟩
      refine bind_unit_eq_ok_iff.mpr ⟨refuseIf_eq_ok_iff.mpr hnew, ?_⟩
      refine bind_eq_ok_iff.mpr ⟨_, hlatitude, ?_⟩
      refine bind_eq_ok_iff.mpr ⟨_, hlongitude, ?_⟩
      exact bind_eq_ok_iff.mpr ⟨_, htags, rfl⟩
  shorter _ _ _ := trivial

theorem referenceCount_concat (ways : List RawWay) (way : RawWay) :
    referenceCount (ways ++ [way]) = referenceCount ways + way.nodeIds.length := by
  rw [referenceCount, List.map_append, List.sum_append, List.map_singleton, List.sum_singleton]
  rfl

theorem readReferences_iff {items : List XmlElement} {references : List OsmId} :
    (items.mapM fun item => positiveId "node reference" (item.attribText "ref")) = .ok references ↔
      List.Forall₂ (fun item => SpellsId (item.attribText "ref")) items references :=
  mapM_eq_ok_iff fun _ _ => positiveId_eq_ok_iff

theorem readMembers_iff {items : List XmlElement} {members : List RawMember} :
    items.mapM readMember = .ok members ↔ List.Forall₂ SaysMember items members := by
  refine mapM_eq_ok_iff fun item entry => ?_
  constructor
  · intro h
    obtain ⟨memberId, hid, h⟩ := bind_eq_ok_iff.mp h
    obtain rfl := Except.ok.inj h
    exact ⟨positiveId_eq_ok_iff.mp hid, rfl, rfl⟩
  · intro h
    obtain ⟨type, memberId, role⟩ := entry
    obtain ⟨hid, rfl, rfl⟩ := h
    exact bind_eq_ok_iff.mpr ⟨_, positiveId_eq_ok_iff.mpr hid, rfl⟩

theorem readWay_reads (nodeIds : List OsmId) : Reads (readWay limits nodeIds)
    (SaysWay limits nodeIds) RawWay.wayId
    (fun ways => referenceCount ways ≤ limits.maximumWayNodeReferences) where
  step seen element way := by
    rw [referenceCount_concat]
    constructor
    · intro h
      obtain ⟨wayId, hid, h⟩ := bind_eq_ok_iff.mp h
      obtain ⟨hnew, h⟩ := bind_unit_eq_ok_iff.mp h
      obtain ⟨references, hreferences, h⟩ := bind_eq_ok_iff.mp h
      obtain ⟨hbudget, h⟩ := bind_unit_eq_ok_iff.mp h
      obtain ⟨havailable, h⟩ := bind_unit_eq_ok_iff.mp h
      obtain ⟨tags, htags, h⟩ := bind_eq_ok_iff.mp h
      obtain rfl := Except.ok.inj h
      refine ⟨⟨positiveId_eq_ok_iff.mp hid, readReferences_iff.mp hreferences, ?_, htags⟩,
        refuseIf_eq_ok_iff.mp hnew, not_lt.mp (refuseIf_eq_ok_iff.mp hbudget)⟩
      intro nodeId hmem
      by_contra hmissing
      exact refuseIf_eq_ok_iff.mp havailable ⟨nodeId, hmem, hmissing⟩
    · rintro ⟨⟨hid, hreferences, havailable, htags⟩, hnew, hbudget⟩
      refine bind_eq_ok_iff.mpr ⟨_, positiveId_eq_ok_iff.mpr hid, ?_⟩
      refine bind_unit_eq_ok_iff.mpr ⟨refuseIf_eq_ok_iff.mpr hnew, ?_⟩
      refine bind_eq_ok_iff.mpr ⟨_, readReferences_iff.mpr hreferences, ?_⟩
      refine bind_unit_eq_ok_iff.mpr ⟨refuseIf_eq_ok_iff.mpr (not_lt.mpr hbudget), ?_⟩
      refine bind_unit_eq_ok_iff.mpr ⟨refuseIf_eq_ok_iff.mpr ?_, ?_⟩
      · rintro ⟨nodeId, hmem, hmissing⟩
        exact hmissing (havailable nodeId hmem)
      · exact bind_eq_ok_iff.mpr ⟨_, htags, rfl⟩
  shorter seen later h := by
    rw [referenceCount, List.map_append, List.sum_append] at h
    exact (Nat.le_add_right _ _).trans h

theorem readRelation_reads : Reads (readRelation limits) (SaysRelation limits)
    RawRelation.relationId (fun _ => True) where
  step seen element relation := by
    constructor
    · intro h
      obtain ⟨relationId, hid, h⟩ := bind_eq_ok_iff.mp h
      obtain ⟨hnew, h⟩ := bind_unit_eq_ok_iff.mp h
      obtain ⟨members, hmembers, h⟩ := bind_eq_ok_iff.mp h
      obtain ⟨tags, htags, h⟩ := bind_eq_ok_iff.mp h
      obtain rfl := Except.ok.inj h
      exact ⟨⟨positiveId_eq_ok_iff.mp hid, readMembers_iff.mp hmembers, htags⟩,
        refuseIf_eq_ok_iff.mp hnew, trivial⟩
    · rintro ⟨⟨hid, hmembers, htags⟩, hnew, -⟩
      refine bind_eq_ok_iff.mpr ⟨_, positiveId_eq_ok_iff.mpr hid, ?_⟩
      refine bind_unit_eq_ok_iff.mpr ⟨refuseIf_eq_ok_iff.mpr hnew, ?_⟩
      refine bind_eq_ok_iff.mpr ⟨_, readMembers_iff.mpr hmembers, ?_⟩
      exact bind_eq_ok_iff.mpr ⟨_, htags, rfl⟩
  shorter _ _ _ := trivial

end Readers

/-! ## Bounds -/

structure Bounds where
  minimumLatitude : Int
  minimumLongitude : Int
  maximumLatitude : Int
  maximumLongitude : Int
  deriving DecidableEq, Repr

section Enclosing

variable {A K : Type} [LinearOrder K] {f : A → K}

theorem foldl_min_iff {rest : List A} {start least : K} :
    rest.foldl (fun bound a => min bound (f a)) start = least ↔
      (start = least ∨ ∃ a ∈ rest, f a = least) ∧ least ≤ start ∧ ∀ a ∈ rest, least ≤ f a := by
  induction rest generalizing start with
  | nil =>
    constructor
    · rintro rfl
      exact ⟨.inl rfl, le_refl _, fun _ h => absurd h List.not_mem_nil⟩
    · rintro ⟨rfl | ⟨_, h, -⟩, -, -⟩
      · rfl
      · exact absurd h List.not_mem_nil
  | cons a rest ih =>
    rw [List.foldl_cons, ih, le_min_iff]
    simp only [List.mem_cons, forall_eq_or_imp, exists_eq_or_imp]
    constructor
    · rintro ⟨hattained, ⟨hstart, hfirst⟩, hrest⟩
      refine ⟨?_, hstart, hfirst, hrest⟩
      rcases hattained with hmin | hlater
      · rcases min_choice start (f a) with hleft | hright
        · exact .inl (hleft.symm.trans hmin)
        · exact .inr (.inl (hright.symm.trans hmin))
      · exact .inr (.inr hlater)
    · rintro ⟨hattained, hstart, hfirst, hrest⟩
      refine ⟨?_, ⟨hstart, hfirst⟩, hrest⟩
      rcases hattained with rfl | rfl | hlater
      · exact .inl (min_eq_left hfirst)
      · exact .inl (min_eq_right hstart)
      · exact .inr hlater

theorem foldl_max_iff {rest : List A} {start greatest : K} :
    rest.foldl (fun bound a => max bound (f a)) start = greatest ↔
      (start = greatest ∨ ∃ a ∈ rest, f a = greatest) ∧ start ≤ greatest ∧
        ∀ a ∈ rest, f a ≤ greatest :=
  foldl_min_iff (K := Kᵒᵈ) (f := f)

end Enclosing

/-- The bounds of the nodes: none lies outside, and none of the bounds is loose. -/
structure Encloses (nodes : List RawNode) (bounds : Bounds) : Prop where
  within : ∀ node ∈ nodes,
    (bounds.minimumLatitude ≤ node.latitude ∧ node.latitude ≤ bounds.maximumLatitude) ∧
      bounds.minimumLongitude ≤ node.longitude ∧ node.longitude ≤ bounds.maximumLongitude
  south : ∃ node ∈ nodes, node.latitude = bounds.minimumLatitude
  west : ∃ node ∈ nodes, node.longitude = bounds.minimumLongitude
  north : ∃ node ∈ nodes, node.latitude = bounds.maximumLatitude
  east : ∃ node ∈ nodes, node.longitude = bounds.maximumLongitude

def spannedBounds (first : RawNode) (rest : List RawNode) : Bounds where
  minimumLatitude := rest.foldl (fun bound node => min bound node.latitude) first.latitude
  minimumLongitude := rest.foldl (fun bound node => min bound node.longitude) first.longitude
  maximumLatitude := rest.foldl (fun bound node => max bound node.latitude) first.latitude
  maximumLongitude := rest.foldl (fun bound node => max bound node.longitude) first.longitude

theorem encloses_iff {first : RawNode} {rest : List RawNode} {bounds : Bounds} :
    Encloses (first :: rest) bounds ↔ spannedBounds first rest = bounds := by
  obtain ⟨south, west, north, east⟩ := bounds
  rw [spannedBounds, Bounds.mk.injEq, foldl_min_iff, foldl_min_iff, foldl_max_iff, foldl_max_iff]
  constructor
  · intro h
    have hsouth := h.south
    have hwest := h.west
    have hnorth := h.north
    have heast := h.east
    have hwithin := h.within
    simp only [List.mem_cons, exists_eq_or_imp, forall_eq_or_imp]
      at hsouth hwest hnorth heast hwithin
    grind
  · intro h
    constructor <;> simp only [List.mem_cons, exists_eq_or_imp, forall_eq_or_imp] <;> grind

section Parsing

variable (unicode : UnicodeNumerals) (limits : GraphLimits)

def declaredBounds (element : XmlElement) : Except CoordinateError Bounds := do
  let minimumLatitude ← coordinateE7 unicode (word (element.attribText "minlat")) true
  let minimumLongitude ← coordinateE7 unicode (word (element.attribText "minlon")) false
  let maximumLatitude ← coordinateE7 unicode (word (element.attribText "maxlat")) true
  let maximumLongitude ← coordinateE7 unicode (word (element.attribText "maxlon")) false
  return ⟨minimumLatitude, minimumLongitude, maximumLatitude, maximumLongitude⟩

/-- The first `bounds` element, or else what encloses the nodes. -/
def chosenBounds : List XmlElement → List RawNode → Except CoordinateError Bounds
  | element :: _, _ => declaredBounds unicode element
  | [], first :: rest => .ok (spannedBounds first rest)
  | [], [] => refuse "OSM XML has neither bounds nor nodes"

def readBounds (root : XmlElement) (nodes : List RawNode) : Except CoordinateError Bounds := do
  let bounds ← chosenBounds unicode (root.findAll "bounds") nodes
  refuseIf (bounds.maximumLatitude < bounds.minimumLatitude ∨
    bounds.maximumLongitude < bounds.minimumLongitude) "OSM bounds are reversed"
  return bounds

/-- What a document says about its bounds. -/
inductive SaysBounds : List XmlElement → List RawNode → Bounds → Prop where
  | declared {element : XmlElement} {rest : List XmlElement} {nodes : List RawNode}
      {bounds : Bounds}
      (south : coordinateE7 unicode (word (element.attribText "minlat")) true =
        .ok bounds.minimumLatitude)
      (west : coordinateE7 unicode (word (element.attribText "minlon")) false =
        .ok bounds.minimumLongitude)
      (north : coordinateE7 unicode (word (element.attribText "maxlat")) true =
        .ok bounds.maximumLatitude)
      (east : coordinateE7 unicode (word (element.attribText "maxlon")) false =
        .ok bounds.maximumLongitude) : SaysBounds (element :: rest) nodes bounds
  | enclosing {nodes : List RawNode} {bounds : Bounds} (hnodes : nodes ≠ [])
      (h : Encloses nodes bounds) : SaysBounds [] nodes bounds

theorem chosenBounds_eq_ok_iff {elements : List XmlElement} {nodes : List RawNode}
    {bounds : Bounds} :
    chosenBounds unicode elements nodes = .ok bounds ↔
      SaysBounds unicode elements nodes bounds := by
  constructor
  · intro h
    cases elements with
    | cons element rest =>
      obtain ⟨south, hsouth, h⟩ := bind_eq_ok_iff.mp h
      obtain ⟨west, hwest, h⟩ := bind_eq_ok_iff.mp h
      obtain ⟨north, hnorth, h⟩ := bind_eq_ok_iff.mp h
      obtain ⟨east, heast, h⟩ := bind_eq_ok_iff.mp h
      obtain rfl := Except.ok.inj h
      exact .declared hsouth hwest hnorth heast
    | nil =>
      cases nodes with
      | nil => cases h
      | cons first rest =>
        exact .enclosing (List.cons_ne_nil _ _) (encloses_iff.mpr (Except.ok.inj h))
  · intro h
    cases h with
    | declared hsouth hwest hnorth heast =>
      refine bind_eq_ok_iff.mpr ⟨_, hsouth, bind_eq_ok_iff.mpr ⟨_, hwest, ?_⟩⟩
      exact bind_eq_ok_iff.mpr ⟨_, hnorth, bind_eq_ok_iff.mpr ⟨_, heast, rfl⟩⟩
    | enclosing hnodes h =>
      cases nodes with
      | nil => exact absurd rfl hnodes
      | cons first rest => exact congrArg Except.ok (encloses_iff.mp h)

/-- The document, with the extract that the import works on. -/
structure OsmDocument where
  nodes : List RawNode
  bounds : Bounds
  extract : OsmExtract
  nodeIds : extract.nodeIds = nodes.map RawNode.nodeId

/-- What the parser accepts, element by element. -/
structure Describes (root : XmlElement) (document : OsmDocument) : Prop where
  tag : root.tag = "osm"
  version : root.attrib? "version" = some "0.6"
  nodeCount : (root.findAll "node").length ≤ limits.maximumNodes
  wayCount : (root.findAll "way").length ≤ limits.maximumWays
  relationCount : (root.findAll "relation").length ≤ limits.maximumRelations
  nodes : List.Forall₂ (SaysNode unicode limits) (root.findAll "node") document.nodes
  ways : List.Forall₂ (SaysWay limits document.extract.nodeIds) (root.findAll "way")
    document.extract.ways
  references : referenceCount document.extract.ways ≤ limits.maximumWayNodeReferences
  relations : List.Forall₂ (SaysRelation limits) (root.findAll "relation")
    document.extract.relations
  bounds : SaysBounds unicode (root.findAll "bounds") document.nodes document.bounds
  upright : document.bounds.minimumLatitude ≤ document.bounds.maximumLatitude ∧
    document.bounds.minimumLongitude ≤ document.bounds.maximumLongitude

theorem readNodes_iff {root : XmlElement} {nodes : List RawNode} :
    collect (readNode unicode limits) [] (root.findAll "node") = .ok nodes ↔
      List.Forall₂ (SaysNode unicode limits) (root.findAll "node") nodes ∧
        (nodes.map RawNode.nodeId).Nodup ∧ True :=
  (readNode_reads unicode limits).collect_eq_ok_iff trivial

theorem readWays_iff {nodeIds : List OsmId} {root : XmlElement} {ways : List RawWay} :
    collect (readWay limits nodeIds) [] (root.findAll "way") = .ok ways ↔
      List.Forall₂ (SaysWay limits nodeIds) (root.findAll "way") ways ∧
        (ways.map RawWay.wayId).Nodup ∧ referenceCount ways ≤ limits.maximumWayNodeReferences :=
  (readWay_reads limits nodeIds).collect_eq_ok_iff (Nat.zero_le _)

theorem readRelations_iff {root : XmlElement} {relations : List RawRelation} :
    collect (readRelation limits) [] (root.findAll "relation") = .ok relations ↔
      List.Forall₂ (SaysRelation limits) (root.findAll "relation") relations ∧
        (relations.map RawRelation.relationId).Nodup ∧ True :=
  (readRelation_reads limits).collect_eq_ok_iff trivial

theorem available_of_ways {nodeIds : List OsmId} {elements : List XmlElement} {ways : List RawWay}
    (h : List.Forall₂ (SaysWay limits nodeIds) elements ways) :
    ∀ way ∈ ways, ∀ nodeId ∈ way.nodeIds, nodeId ∈ nodeIds := by
  intro way hway
  obtain ⟨element, -, htold⟩ := exists_left_of_mem h hway
  exact htold.available

/-- The extract of elements that were read. -/
def extractOf (nodes : List RawNode) (ways : List RawWay) (relations : List RawRelation)
    (hnodes : (nodes.map RawNode.nodeId).Nodup) (hways : (ways.map RawWay.wayId).Nodup)
    (hrelations : (relations.map RawRelation.relationId).Nodup)
    (havailable : ∀ way ∈ ways, ∀ nodeId ∈ way.nodeIds, nodeId ∈ nodes.map RawNode.nodeId) :
    OsmExtract :=
  ⟨nodes.map RawNode.nodeId, ways, relations, hnodes, hways, hrelations, havailable⟩

/-- `_parse_osm`, behind the XML parser. -/
def parseOsm (root : XmlElement) : Except CoordinateError OsmDocument := do
  refuseIf (root.tag ≠ "osm" ∨ root.attrib? "version" ≠ some "0.6")
    "OSM XML must use the version 0.6 root contract"
  refuseIf (limits.maximumNodes < (root.findAll "node").length)
    "OSM node count exceeds the frozen budget"
  refuseIf (limits.maximumWays < (root.findAll "way").length)
    "OSM way count exceeds the frozen budget"
  refuseIf (limits.maximumRelations < (root.findAll "relation").length)
    "OSM relation count exceeds the frozen budget"
  match hnodes : collect (readNode unicode limits) [] (root.findAll "node") with
  | .error failure => .error failure
  | .ok nodes =>
    match hways : collect (readWay limits (nodes.map RawNode.nodeId)) [] (root.findAll "way") with
    | .error failure => .error failure
    | .ok ways =>
      match hrelations : collect (readRelation limits) [] (root.findAll "relation") with
      | .error failure => .error failure
      | .ok relations => do
        let bounds ← readBounds unicode root nodes
        return ⟨nodes, bounds, extractOf nodes ways relations
          ((readNodes_iff unicode limits).mp hnodes).2.1 ((readWays_iff limits).mp hways).2.1
          ((readRelations_iff limits).mp hrelations).2.1
          (available_of_ways limits ((readWays_iff limits).mp hways).1), rfl⟩

theorem readBounds_eq_ok_iff {root : XmlElement} {nodes : List RawNode} {bounds : Bounds} :
    readBounds unicode root nodes = .ok bounds ↔
      SaysBounds unicode (root.findAll "bounds") nodes bounds ∧
        bounds.minimumLatitude ≤ bounds.maximumLatitude ∧
          bounds.minimumLongitude ≤ bounds.maximumLongitude := by
  rw [readBounds, bind_eq_ok_iff]
  constructor
  · rintro ⟨chosen, hchosen, h⟩
    obtain ⟨hupright, h⟩ := bind_unit_eq_ok_iff.mp h
    obtain rfl := Except.ok.inj h
    have hnot := not_or.mp (refuseIf_eq_ok_iff.mp hupright)
    exact ⟨(chosenBounds_eq_ok_iff unicode).mp hchosen, not_lt.mp hnot.1, not_lt.mp hnot.2⟩
  · rintro ⟨htold, hlatitude, hlongitude⟩
    refine ⟨bounds, (chosenBounds_eq_ok_iff unicode).mpr htold, bind_unit_eq_ok_iff.mpr ⟨?_, rfl⟩⟩
    exact refuseIf_eq_ok_iff.mpr (not_or.mpr ⟨not_lt.mpr hlatitude, not_lt.mpr hlongitude⟩)

theorem OsmDocument.eq_of_parts {left right : OsmDocument} (hnodes : left.nodes = right.nodes)
    (hbounds : left.bounds = right.bounds) (hways : left.extract.ways = right.extract.ways)
    (hrelations : left.extract.relations = right.extract.relations) : left = right := by
  obtain ⟨nodes, bounds, ⟨nodeIds, ways, relations, _, _, _, _⟩, hids⟩ := left
  obtain ⟨nodes', bounds', ⟨nodeIds', ways', relations', _, _, _, _⟩, hids'⟩ := right
  simp only at hnodes hbounds hways hrelations hids hids'
  subst hnodes hbounds hways hrelations hids hids'
  rfl

theorem describes_of_parseOsm {root : XmlElement} {document : OsmDocument}
    (h : parseOsm unicode limits root = .ok document) : Describes unicode limits root document := by
  obtain ⟨hroot, h⟩ := bind_unit_eq_ok_iff.mp h
  obtain ⟨hnodeCount, h⟩ := bind_unit_eq_ok_iff.mp h
  obtain ⟨hwayCount, h⟩ := bind_unit_eq_ok_iff.mp h
  obtain ⟨hrelationCount, h⟩ := bind_unit_eq_ok_iff.mp h
  obtain ⟨htag, hversion⟩ := not_or.mp (refuseIf_eq_ok_iff.mp hroot)
  split at h
  · cases h
  · rename_i nodes hnodes
    split at h
    · cases h
    · rename_i ways hways
      split at h
      · cases h
      · rename_i relations hrelations
        obtain ⟨bounds, hbounds, h⟩ := bind_eq_ok_iff.mp h
        obtain rfl := Except.ok.inj h
        obtain ⟨htoldBounds, hupright⟩ := (readBounds_eq_ok_iff unicode).mp hbounds
        exact {
          tag := not_not.mp htag
          version := not_not.mp hversion
          nodeCount := not_lt.mp (refuseIf_eq_ok_iff.mp hnodeCount)
          wayCount := not_lt.mp (refuseIf_eq_ok_iff.mp hwayCount)
          relationCount := not_lt.mp (refuseIf_eq_ok_iff.mp hrelationCount)
          nodes := ((readNodes_iff unicode limits).mp hnodes).1
          ways := ((readWays_iff limits).mp hways).1
          references := ((readWays_iff limits).mp hways).2.2
          relations := ((readRelations_iff limits).mp hrelations).1
          bounds := htoldBounds
          upright := hupright }

theorem parseOsm_of_describes {root : XmlElement} {document : OsmDocument}
    (h : Describes unicode limits root document) :
    parseOsm unicode limits root = .ok document := by
  have hnodes := (readNodes_iff unicode limits).mpr
    ⟨h.nodes, document.nodeIds ▸ document.extract.nodeIdsUnique, trivial⟩
  have hways := (readWays_iff limits).mpr ⟨h.ways, document.extract.wayIdsUnique, h.references⟩
  have hrelations := (readRelations_iff limits).mpr
    ⟨h.relations, document.extract.relationIdsUnique, trivial⟩
  have hbounds := (readBounds_eq_ok_iff unicode).mpr ⟨h.bounds, h.upright⟩
  rw [document.nodeIds] at hways
  refine bind_unit_eq_ok_iff.mpr ⟨refuseIf_eq_ok_iff.mpr
    (not_or.mpr ⟨not_not.mpr h.tag, not_not.mpr h.version⟩), ?_⟩
  refine bind_unit_eq_ok_iff.mpr ⟨refuseIf_eq_ok_iff.mpr (not_lt.mpr h.nodeCount), ?_⟩
  refine bind_unit_eq_ok_iff.mpr ⟨refuseIf_eq_ok_iff.mpr (not_lt.mpr h.wayCount), ?_⟩
  refine bind_unit_eq_ok_iff.mpr ⟨refuseIf_eq_ok_iff.mpr (not_lt.mpr h.relationCount), ?_⟩
  split
  · rename_i failure hfailed
    rw [hnodes] at hfailed
    cases hfailed
  · rename_i nodes hread
    obtain rfl := Except.ok.inj (hnodes.symm.trans hread)
    split
    · rename_i failure hfailed
      rw [hways] at hfailed
      cases hfailed
    · rename_i ways hread
      obtain rfl := Except.ok.inj (hways.symm.trans hread)
      split
      · rename_i failure hfailed
        rw [hrelations] at hfailed
        cases hfailed
      · rename_i relations hread
        obtain rfl := Except.ok.inj (hrelations.symm.trans hread)
        refine bind_eq_ok_iff.mpr ⟨_, hbounds, congrArg Except.ok ?_⟩
        exact OsmDocument.eq_of_parts rfl rfl rfl rfl

/-- The parser accepts the documents that are described, and reads them as they are. -/
theorem parseOsm_eq_ok_iff {root : XmlElement} {document : OsmDocument} :
    parseOsm unicode limits root = .ok document ↔ Describes unicode limits root document :=
  ⟨describes_of_parseOsm unicode limits, parseOsm_of_describes unicode limits⟩

end Parsing

end CartoSentry.RoadGraph
