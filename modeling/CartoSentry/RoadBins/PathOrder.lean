import Mathlib
import CartoSentry.RoadBins.Validation
import CartoSentry.RoadBins.Windows

set_option autoImplicit false

/-!
# Road bins: order of the paths

A piece that several paths have is kept as the first of them has it.  Where the copies
have the same samples, every path keeps a piece of its own in each traversal it takes part
in and the last piece of a traversal has no tie, the order of the paths does not matter.
-/

namespace CartoSentry.RoadBins

open Foundation
open Matching (InvalidArgument)

/-! ## The condition -/

/-- Two copies of a piece have the same speeds and the same yaw. -/
def Piece.SameSamples (piece copy : Piece) : Prop :=
  piece.startSpeed = copy.startSpeed ∧ piece.endSpeed = copy.endSpeed ∧
    piece.yawExcitation = copy.yawExcitation

/-- The piece is the last in order of those that end last in its bin and traversal. -/
def Piece.EndsLast (pieces : List Piece) (piece : Piece) : Prop :=
  ∀ other ∈ pieces, other.traversalKey = piece.traversalKey →
    other.endTimeNs < piece.endTimeNs ∨
      other.endTimeNs = piece.endTimeNs ∧ other.sortKey ≤ piece.sortKey

/-- Pieces that two paths share have the same samples. -/
def SameCopies (arcs : List Arc) (parameters : Parameters) (path other : MatchedPath) : Prop :=
  ∀ piece ∈ piecesOf arcs parameters path, ∀ copy ∈ piecesOf arcs parameters other,
    piece.identity = copy.identity → piece.SameSamples copy

/-- No other path has the piece. -/
def OwnPiece (arcs : List Arc) (parameters : Parameters) (paths : List MatchedPath)
    (path : MatchedPath) (piece : Piece) : Prop :=
  HasPiece arcs parameters path piece.identity ∧
    ∀ other ∈ paths, HasPiece arcs parameters other piece.identity → other = path

/-- The paths leave no choice to their order; `pieces` are the pieces made of them. -/
structure OrderFree (arcs : List Arc) (parameters : Parameters) (paths : List MatchedPath)
    (pieces : List Piece) : Prop where
  samples : ∀ path ∈ paths, ∀ other ∈ paths, SameCopies arcs parameters path other
  ends : ∀ piece ∈ pieces, ∀ tie ∈ pieces, piece.SameKey tie → piece.EndsLast pieces →
    piece.exitOffset = tie.exitOffset
  owned : ∀ path ∈ paths, ∀ piece ∈ pieces, HasPiece arcs parameters path piece.identity →
    ∃ own ∈ pieces, own.traversalKey = piece.traversalKey ∧
      OwnPiece arcs parameters paths path own

section Decidable

variable (arcs : List Arc) (parameters : Parameters) (paths : List MatchedPath)
  (path other : MatchedPath) (pieces : List Piece) (piece copy : Piece)

instance : Decidable (piece.SameKey copy) :=
  inferInstanceAs (Decidable (_ ∧ _))

instance : Decidable (piece.SameSamples copy) :=
  inferInstanceAs (Decidable (_ ∧ _))

instance : Decidable (piece.EndsLast pieces) :=
  inferInstanceAs (Decidable (∀ other ∈ pieces, _))

instance : Decidable (SameCopies arcs parameters path other) :=
  inferInstanceAs (Decidable (∀ piece ∈ piecesOf arcs parameters path, _))

instance : Decidable (OwnPiece arcs parameters paths path piece) :=
  inferInstanceAs (Decidable (_ ∧ _))

set_option synthInstance.maxSize 512 in
instance : Decidable (OrderFree arcs parameters paths pieces) :=
  decidable_of_iff
    ((∀ path ∈ paths, ∀ other ∈ paths, SameCopies arcs parameters path other) ∧
      (∀ piece ∈ pieces, ∀ tie ∈ pieces, piece.SameKey tie → piece.EndsLast pieces →
        piece.exitOffset = tie.exitOffset) ∧
      ∀ path ∈ paths, ∀ piece ∈ pieces, HasPiece arcs parameters path piece.identity →
        ∃ own ∈ pieces, own.traversalKey = piece.traversalKey ∧
          OwnPiece arcs parameters paths path own)
    ⟨fun h => ⟨h.1, h.2.1, h.2.2⟩, fun h => ⟨h.samples, h.ends, h.owned⟩⟩

end Decidable

/-! ## Contents -/

/-- The piece without the path it was kept from. -/
def Piece.content (piece : Piece) : Piece :=
  { piece with roadMatchId := "" }

theorem Piece.content_eq_iff {piece other : Piece} :
    piece.content = other.content ↔ piece.SameKey other ∧ piece.identity = other.identity ∧
      piece.sourceGroupId = other.sourceGroupId ∧ piece.SameSamples other := by
  simp only [content, mk.injEq, SameKey, sortKey_eq_iff, identity, Prod.mk.injEq, SameSamples]
  tauto

/-- One traversal in one bin, in two runs. -/
structure SameContents (group other : KeyGroup Piece) : Prop where
  keys : List.Forall₂ Piece.SameKey group.members other.members
  contents : (group.members.map Piece.content).Perm (other.members.map Piece.content)
  ends : ∀ piece ∈ group.members, ∀ copy ∈ other.members, piece.SameKey copy →
    (∀ later ∈ group.members, later.endTimeNs < piece.endTimeNs ∨
      later.endTimeNs = piece.endTimeNs ∧ later.sortKey ≤ piece.sortKey) →
        piece.exitOffset = copy.exitOffset
  matched : ∀ roadMatchId, roadMatchId ∈ group.members.map Piece.roadMatchId ↔
    roadMatchId ∈ other.members.map Piece.roadMatchId
  sorted : group.members.Pairwise fun left right => left.sortKey ≤ right.sortKey
  source : group.first.sourceGroupId = other.first.sourceGroupId

theorem sum_eq_of_contents {M : Type} [AddCommMonoid M] {pieces others : List Piece}
    (h : (pieces.map Piece.content).Perm (others.map Piece.content)) {f : Piece → M}
    (hf : ∀ piece, f piece.content = f piece) : (pieces.map f).sum = (others.map f).sum := by
  have hsum (list : List Piece) : list.map f = (list.map Piece.content).map f := by
    rw [List.map_map]
    exact List.map_congr_left fun piece _ => (hf piece).symm
  rw [hsum pieces, hsum others]
  exact (h.map f).sum_eq

theorem canonical_eq {ids others : List String} (h : ∀ id, id ∈ ids ↔ id ∈ others) :
    canonical ids = canonical others := by
  have hperm : ids.dedup.Perm others.dedup := by
    apply (List.perm_ext_iff_of_nodup (List.nodup_dedup _) (List.nodup_dedup _)).mpr
    intro id
    rw [List.mem_dedup, List.mem_dedup, h]
  apply List.Perm.eq_of_pairwise' (r := (· ≤ ·))
  · exact List.pairwise_insertionSort (· ≤ ·) _
  · exact List.pairwise_insertionSort (· ≤ ·) _
  · exact ((List.perm_insertionSort _ _).trans hperm).trans (List.perm_insertionSort _ _).symm

namespace TraversalProgress

variable {first first' : Piece} {pieces others : List Piece}
  {progress progress' last last' : TraversalProgress}

/-- The exit is that of the last piece among those that end last, in both runs. -/
theorem exits_of_runs (hkeys : List.Forall₂ Piece.SameKey pieces others)
    (hsorted : pieces.Pairwise fun left right => left.sortKey ≤ right.sortKey)
    (hpieces : pieces.foldlM (add first) progress = .ok last)
    (hothers : others.foldlM (add first') progress' = .ok last')
    (htimes : progress.lastTimeNs = progress'.lastTimeNs) :
    ((∀ piece ∈ pieces, piece.endTimeNs < progress.lastTimeNs) ∧
        last.exitOffset = progress.exitOffset ∧ last'.exitOffset = progress'.exitOffset) ∨
      ∃ piece ∈ pieces, ∃ other ∈ others, piece.SameKey other ∧
        last.exitOffset = piece.exitOffset ∧ last'.exitOffset = other.exitOffset ∧
          progress.lastTimeNs ≤ piece.endTimeNs ∧
            ∀ later ∈ pieces, later.endTimeNs < piece.endTimeNs ∨
              later.endTimeNs = piece.endTimeNs ∧ later.sortKey ≤ piece.sortKey := by
  induction hkeys generalizing progress progress' with
  | nil =>
    cases hpieces
    cases hothers
    exact Or.inl ⟨by simp, rfl, rfl⟩
  | @cons piece other rest rest' hhead _ ih =>
    obtain ⟨hfirst, hrest⟩ := List.pairwise_cons.mp hsorted
    rw [List.foldlM_cons] at hpieces hothers
    obtain ⟨next, hnext, hpieces⟩ := bind_eq_ok_iff.mp hpieces
    obtain ⟨next', hnext', hothers⟩ := bind_eq_ok_iff.mp hothers
    have hend : piece.endTimeNs = other.endTimeNs :=
      (Piece.sortKey_eq_iff.mp hhead.1).2.2.2.1
    have hlast : next.lastTimeNs = max progress.lastTimeNs piece.endTimeNs := by
      rw [add_eq_ok hnext]
    have hlast' : next'.lastTimeNs = max progress'.lastTimeNs other.endTimeNs := by
      rw [add_eq_ok hnext']
    have hexit : next.exitOffset = if progress.lastTimeNs ≤ piece.endTimeNs then piece.exitOffset
        else progress.exitOffset := by
      rw [add_eq_ok hnext]
    have hexit' : next'.exitOffset = if progress'.lastTimeNs ≤ other.endTimeNs
        then other.exitOffset else progress'.exitOffset := by
      rw [add_eq_ok hnext']
    rcases ih hrest hpieces hothers (by rw [hlast, hlast', htimes, hend]) with
      ⟨hbefore, hsame, hsame'⟩ | ⟨final, hfinal, final', hfinal', hkey, hsame, hsame', hle, hlater⟩
    · by_cases hreach : progress.lastTimeNs ≤ piece.endTimeNs
      · right
        rw [if_pos hreach] at hexit
        rw [if_pos (by omega)] at hexit'
        refine ⟨piece, List.mem_cons_self, other, List.mem_cons_self, hhead, hsame.trans hexit,
          hsame'.trans hexit', hreach, ?_⟩
        rw [List.forall_mem_cons]
        refine ⟨Or.inr ⟨rfl, le_rfl⟩, ?_⟩
        intro later hlater
        left
        have hlt := hbefore later hlater
        omega
      · left
        rw [if_neg hreach] at hexit
        rw [if_neg (by omega)] at hexit'
        refine ⟨?_, hsame.trans hexit, hsame'.trans hexit'⟩
        rw [List.forall_mem_cons]
        refine ⟨by omega, ?_⟩
        intro later hlater
        have hlt := hbefore later hlater
        omega
    · right
      refine ⟨final, List.mem_cons_of_mem _ hfinal, final', List.mem_cons_of_mem _ hfinal', hkey,
        hsame, hsame', by omega, ?_⟩
      rw [List.forall_mem_cons]
      refine ⟨?_, hlater⟩
      have hkeyLe := hfirst final hfinal
      rcases (show piece.endTimeNs ≤ final.endTimeNs by omega).lt_or_eq with hlt | heq
      · exact Or.inl hlt
      · exact Or.inr ⟨heq, hkeyLe⟩

/-- Speeds that another run has bound its least speed. -/
theorem minimumSpeed_le (hbounds : Bounds progress pieces last)
    (hbounds' : Bounds progress' others last')
    (hmem : ∀ other ∈ others, ∃ piece ∈ pieces, piece.SameSamples other)
    (hstart : last.minimumSpeed ≤ progress'.minimumSpeed) :
    last.minimumSpeed ≤ last'.minimumSpeed := by
  rcases hbounds'.minimum_mem with heq | ⟨other, hother, heq⟩
  · rwa [heq]
  · obtain ⟨piece, hpiece, hsamples⟩ := hmem other hother
    have hle := hbounds.minimum_le.2 piece hpiece
    rcases heq with heq | heq
    · rw [heq, ← hsamples.1]
      exact hle.1
    · rw [heq, ← hsamples.2.1]
      exact hle.2

theorem le_maximumSpeed (hbounds : Bounds progress pieces last)
    (hbounds' : Bounds progress' others last')
    (hmem : ∀ other ∈ others, ∃ piece ∈ pieces, piece.SameSamples other)
    (hstart : progress'.maximumSpeed ≤ last.maximumSpeed) :
    last'.maximumSpeed ≤ last.maximumSpeed := by
  rcases hbounds'.maximum_mem with heq | ⟨other, hother, heq⟩
  · rwa [heq]
  · obtain ⟨piece, hpiece, hsamples⟩ := hmem other hother
    have hle := hbounds.le_maximum.2 piece hpiece
    rcases heq with heq | heq
    · rw [heq, ← hsamples.1]
      exact hle.1
    · rw [heq, ← hsamples.2.1]
      exact hle.2

end TraversalProgress

/-! ## Traversals -/

theorem SameContents.mem_samples {group other : KeyGroup Piece} (h : SameContents group other)
    {copy : Piece} (hcopy : copy ∈ other.members) :
    ∃ piece ∈ group.members, piece.SameSamples copy := by
  have hmem := h.contents.mem_iff.mpr (List.mem_map_of_mem hcopy)
  obtain ⟨piece, hpiece, hcontent⟩ := List.mem_map.mp hmem
  exact ⟨piece, hpiece, (Piece.content_eq_iff.mp hcontent).2.2.2⟩

theorem SameContents.mem_samples' {group other : KeyGroup Piece} (h : SameContents group other)
    {piece : Piece} (hpiece : piece ∈ group.members) :
    ∃ copy ∈ other.members, copy.SameSamples piece := by
  have hmem := h.contents.mem_iff.mp (List.mem_map_of_mem hpiece)
  obtain ⟨copy, hcopy, hcontent⟩ := List.mem_map.mp hmem
  exact ⟨copy, hcopy, (Piece.content_eq_iff.mp hcontent).2.2.2⟩

theorem SameContents.progress_eq {group other : KeyGroup Piece} (h : SameContents group other)
    {progress progress' : TraversalProgress}
    (hpieces : group.members.foldlM (TraversalProgress.add group.first)
      (TraversalProgress.start group.first) = .ok progress)
    (hothers : other.members.foldlM (TraversalProgress.add other.first)
      (TraversalProgress.start other.first) = .ok progress')
    (htimes : progress.SameTimes progress') : progress = progress' := by
  obtain ⟨hfirstTime, hlastTime, hduration, hentry⟩ := htimes
  have hfirst : group.first ∈ group.members := List.mem_cons_self
  have hfirst' : other.first ∈ other.members := List.mem_cons_self
  have hsums := TraversalProgress.sums hpieces
  have hsums' := TraversalProgress.sums hothers
  have hbounds := TraversalProgress.bounds hpieces
  have hbounds' := TraversalProgress.bounds hothers
  have hstartEnd : group.first.endTimeNs = other.first.endTimeNs := by
    cases h.keys with
    | cons hkey _ => exact (Piece.sortKey_eq_iff.mp hkey.1).2.2.2.1
  have hexit : progress.exitOffset = progress'.exitOffset := by
    rcases TraversalProgress.exits_of_runs h.keys h.sorted hpieces hothers hstartEnd with
      ⟨hbefore, _⟩ | ⟨piece, hpiece, copy, hcopy, hkey, hexit, hexit', _, hlater⟩
    · exact absurd (hbefore group.first hfirst) (lt_irrefl _)
    · rw [hexit, hexit']
      exact h.ends piece hpiece copy hcopy hkey hlater
  have hminimum : progress.minimumSpeed = progress'.minimumSpeed := by
    apply le_antisymm
    · apply TraversalProgress.minimumSpeed_le hbounds hbounds' fun copy => h.mem_samples
      obtain ⟨piece, hpiece, hsamples⟩ := h.mem_samples hfirst'
      exact (hbounds.minimum_le.2 piece hpiece).1.trans_eq hsamples.1
    · apply TraversalProgress.minimumSpeed_le hbounds' hbounds fun piece => h.mem_samples'
      obtain ⟨copy, hcopy, hsamples⟩ := h.mem_samples' hfirst
      exact (hbounds'.minimum_le.2 copy hcopy).1.trans_eq hsamples.1
  have hmaximum : progress.maximumSpeed = progress'.maximumSpeed := by
    apply le_antisymm
    · exact TraversalProgress.le_maximumSpeed hbounds' hbounds (fun piece => h.mem_samples')
        hbounds'.le_maximum.1
    · exact TraversalProgress.le_maximumSpeed hbounds hbounds' (fun copy => h.mem_samples)
        hbounds.le_maximum.1
  apply TraversalProgress.ext hfirstTime hlastTime hentry hexit hduration
  · rw [hsums.distance, hsums'.distance,
      sum_eq_of_contents (f := Piece.distance) h.contents fun _ => rfl]
    rfl
  · rw [hsums.count, hsums'.count, h.keys.length_eq]
    rfl
  · exact hminimum
  · exact hmaximum
  · rw [hsums.speed, hsums'.speed, sum_eq_of_contents
      (f := fun piece => piece.startSpeed + piece.endSpeed) h.contents fun _ => rfl]
    rfl
  · rw [hsums.yaw, hsums'.yaw,
      sum_eq_of_contents (f := Piece.yawExcitation) h.contents fun _ => rfl]
    rfl

theorem makeTraversal_eq {group other : KeyGroup Piece} (h : SameContents group other)
    (evidence : List ModalityEvidence) (findings : List FindingInterval) (decimalPlaces : Int) :
    Agree (· = ·) (makeTraversal evidence findings decimalPlaces group)
      (makeTraversal evidence findings decimalPlaces other) := by
  have hfirst : group.first.SameKey other.first := by
    cases h.keys with
    | cons hfirst _ => exact hfirst
  obtain ⟨hsequence, harc, _, _, hbin, _⟩ := Piece.sortKey_eq_iff.mp hfirst.1
  apply (foldlM_add_agree h.keys).bind
  intro progress progress' hpieces hothers htimes
  obtain rfl := h.progress_eq hpieces hothers htimes
  rw [addEvidence_eq h.keys, affects_eq h.keys, hsequence]
  apply (Agree.refl (R := Eq) _ fun _ => rfl).bind
  rintro values _ _ _ rfl
  apply (Agree.refl (R := Eq) _ fun _ => rfl).bind
  rintro modalities _ _ _ rfl
  simp only [Agree.ok_ok, harc, hbin, hfirst.2, h.source, canonical_eq h.matched]

/-- Groups with the same contents give the same result. -/
theorem aggregatePieces_eq {pieces others : List Piece}
    (h : List.Forall₂ SameContents (groupAscending Piece.traversalKey pieces)
      (groupAscending Piece.traversalKey others)) (arcs : List Arc)
    (evidence : List ModalityEvidence) (findings : List FindingInterval)
    (parameters : Parameters) :
    Agree (· = ·) (aggregatePieces arcs evidence findings parameters pieces)
      (aggregatePieces arcs evidence findings parameters others) := by
  apply (Agree.refl (R := Eq) _ fun _ => rfl).bind
  rintro bins _ _ _ rfl
  have hbins : Agree (· = ·)
      ((groupAscending Piece.traversalKey pieces).foldlM (addToBins evidence findings parameters)
        bins)
      ((groupAscending Piece.traversalKey others).foldlM (addToBins evidence findings parameters)
        bins) := by
    apply Agree.foldlM h _ rfl
    rintro bins _ group other rfl hgroup
    apply (makeTraversal_eq hgroup evidence findings _).bind
    rintro traversal _ _ _ rfl
    exact Agree.refl _ fun _ => rfl
  apply hbins.bind
  rintro accumulated _ _ _ rfl
  exact Agree.refl _ fun _ => rfl

/-! ## Two orders of the paths -/

section Orders

variable {arcs : List Arc} {parameters : Parameters} {paths others : List MatchedPath}
  {pieces copies : List Piece}

theorem pairwise_sameSource (hsources : paths.Pairwise SameSource) {path other : MatchedPath}
    (hpath : path ∈ paths) (hother : other ∈ paths) : SameSource path other :=
  List.Pairwise.forall_of_forall (fun _ _ _ => rfl) hsources hpath hother

/-- A piece was kept from a path that has it. -/
theorem MadeOf.kept (h : MadeOf arcs parameters paths pieces) {piece : Piece}
    (hpiece : piece ∈ pieces) :
    ∃ path ∈ paths, HasPiece arcs parameters path piece.identity ∧
      piece.roadMatchId = path.roadMatchId ∧ piece.sequenceId = path.sequenceId ∧
        piece.sourceGroupId = path.sourceGroupId := by
  obtain ⟨path, hpath, original, horiginal, heq⟩ := h.origin piece hpiece
  have hof := piecesOf_of horiginal
  have hidentity : HasPiece arcs parameters path piece.identity := by
    rw [heq, Piece.numbered_identity]
    exact List.mem_map_of_mem horiginal
  rw [heq] at hidentity ⊢
  exact ⟨path, hpath, hidentity, hof.roadMatchId, hof.sequenceId, hof.sourceGroupId⟩

/-- A piece of one run has a copy in the other. -/
theorem SamePieces.exists_copy (h : SamePieces pieces copies) {piece : Piece}
    (hpiece : piece ∈ pieces) :
    ∃ copy ∈ copies, copy.identity = piece.identity ∧ copy.SameKey piece := by
  have hmem := h.perm.mem_iff.mp (List.mem_map_of_mem hpiece)
  obtain ⟨copy, hcopy, hplace⟩ := List.mem_map.mp hmem
  simp only [Prod.mk.injEq] at hplace
  exact ⟨copy, hcopy, hplace⟩

theorem SamePieces.symm (h : SamePieces pieces copies) : SamePieces copies pieces := by
  refine ⟨?_, h.perm.symm⟩
  apply List.Forall₂.flip
  apply h.keys.imp
  intro piece copy hkey
  exact ⟨hkey.1.symm, hkey.2.symm⟩

/-- The paths that take part in a traversal, where each keeps a piece of its own. -/
theorem mem_roadMatchIds_iff (hmade : MadeOf arcs parameters paths pieces)
    (howned : ∀ path ∈ paths, ∀ piece ∈ pieces, HasPiece arcs parameters path piece.identity →
      ∃ own ∈ pieces, own.traversalKey = piece.traversalKey ∧
        OwnPiece arcs parameters paths path own)
    (key : TraversalKey) (roadMatchId : String) :
    roadMatchId ∈ (pieces.filter fun piece => piece.traversalKey = key).map Piece.roadMatchId ↔
      ∃ path ∈ paths, path.roadMatchId = roadMatchId ∧ ∃ piece ∈ pieces,
        piece.traversalKey = key ∧ HasPiece arcs parameters path piece.identity := by
  constructor
  · intro hmem
    obtain ⟨piece, hpiece, rfl⟩ := List.mem_map.mp hmem
    rw [List.mem_filter, decide_eq_true_eq] at hpiece
    obtain ⟨path, hpath, hhas, hid, _⟩ := hmade.kept hpiece.1
    exact ⟨path, hpath, hid.symm, piece, hpiece.1, hpiece.2, hhas⟩
  · rintro ⟨path, hpath, rfl, piece, hpiece, rfl, hhas⟩
    obtain ⟨own, hown, hkey, _, honly⟩ := howned path hpath piece hpiece hhas
    obtain ⟨keeper, hkeeper, hkeeps, hid, _⟩ := hmade.kept hown
    obtain rfl := honly keeper hkeeper hkeeps
    rw [← hid]
    apply List.mem_map_of_mem
    rw [List.mem_filter, decide_eq_true_eq]
    exact ⟨hown, hkey⟩

theorem OrderFree.content_eq (hfree : OrderFree arcs parameters paths pieces)
    (hsources : paths.Pairwise SameSource) (hmade : MadeOf arcs parameters paths pieces)
    (hcopies : MadeOf arcs parameters others copies) (hperm : paths.Perm others)
    {piece copy : Piece} (hpiece : piece ∈ pieces) (hcopy : copy ∈ copies)
    (hidentity : piece.identity = copy.identity) (hkey : piece.SameKey copy) :
    piece.content = copy.content := by
  obtain ⟨path, hpath, original, horiginal, heq⟩ := hmade.origin piece hpiece
  obtain ⟨other, hother, original', horiginal', heq'⟩ := hcopies.origin copy hcopy
  have hother := hperm.mem_iff.mpr hother
  have hof := piecesOf_of horiginal
  have hof' := piecesOf_of horiginal'
  have hsequence := (Piece.sortKey_eq_iff.mp hkey.1).1
  rw [Piece.content_eq_iff]
  refine ⟨hkey, hidentity, ?_, ?_⟩
  · rw [heq, heq'] at hsequence ⊢
    have hsame : path.sequenceId = other.sequenceId := by
      rw [← hof.sequenceId, ← hof'.sequenceId]
      exact hsequence
    calc original.sourceGroupId = path.sourceGroupId := hof.sourceGroupId
      _ = other.sourceGroupId := pairwise_sameSource hsources hpath hother hsame
      _ = original'.sourceGroupId := hof'.sourceGroupId.symm
  · rw [heq, heq'] at hidentity ⊢
    exact hfree.samples path hpath other hother original horiginal original' horiginal' hidentity

/-- Where the paths leave no choice, every traversal has the same contents in every order. -/
theorem OrderFree.groups (hfree : OrderFree arcs parameters paths pieces)
    (hsources : paths.Pairwise SameSource)
    (hperm : paths.Perm others) (hmade : MadeOf arcs parameters paths pieces)
    (hcopies : MadeOf arcs parameters others copies) (hsame : SamePieces pieces copies) :
    List.Forall₂ SameContents (groupAscending Piece.traversalKey pieces)
      (groupAscending Piece.traversalKey copies) := by
  have hcontents : (pieces.map Piece.content).Perm (copies.map Piece.content) := by
    apply map_perm_of_map_perm hsame.perm
    intro piece hpiece copy hcopy hplace
    simp only [Prod.mk.injEq] at hplace
    exact hfree.content_eq hsources hmade hcopies hperm hpiece hcopy hplace.1 hplace.2
  apply (groupAscending_forall₂ hsame.keys fun piece copy hkey =>
    Piece.SameKey.traversalKey_eq hkey).imp
  intro group other ⟨hkeys, key, hgroup, hother⟩
  have hmem {piece : Piece} (hpiece : piece ∈ group.members) :
      piece ∈ pieces ∧ piece.traversalKey = key := by
    rwa [hgroup, List.mem_filter, decide_eq_true_eq] at hpiece
  have hmem' {copy : Piece} (hcopy : copy ∈ other.members) :
      copy ∈ copies ∧ copy.traversalKey = key := by
    rwa [hother, List.mem_filter, decide_eq_true_eq] at hcopy
  refine ⟨hkeys, ?_, ?_, ?_, ?_, ?_⟩
  · have hfilter (list : List Piece) :
        (list.filter fun piece => piece.traversalKey = key).map Piece.content =
          (list.map Piece.content).filter fun piece => piece.traversalKey = key := by
      rw [List.filter_map]
      rfl
    rw [hgroup, hother, hfilter, hfilter]
    exact hcontents.filter _
  · intro piece hpiece copy hcopy hkey hlater
    obtain ⟨hpiece, hpieceKey⟩ := hmem hpiece
    obtain ⟨tie, htie, hidentity, htieKey⟩ := hsame.symm.exists_copy (hmem' hcopy).1
    have hexit : tie.exitOffset = copy.exitOffset :=
      congrArg (fun identity => identity.2.2.2.2.2) hidentity
    rw [← hexit]
    apply hfree.ends piece hpiece tie htie
    · exact ⟨hkey.1.trans htieKey.1.symm, hkey.2.trans htieKey.2.symm⟩
    · intro later hmemLater htraversal
      apply hlater later
      rw [hgroup, List.mem_filter, decide_eq_true_eq]
      exact ⟨hmemLater, htraversal.trans hpieceKey⟩
  · intro roadMatchId
    rw [hgroup, hother, mem_roadMatchIds_iff hmade hfree.owned, mem_roadMatchIds_iff hcopies]
    · have hpieces (path : MatchedPath) :
          (∃ piece ∈ pieces, piece.traversalKey = key ∧
            HasPiece arcs parameters path piece.identity) ↔
          ∃ copy ∈ copies, copy.traversalKey = key ∧
            HasPiece arcs parameters path copy.identity := by
        constructor
        · intro ⟨piece, hpiece, hkey, hhas⟩
          obtain ⟨copy, hcopy, hidentity, hcopyKey⟩ := hsame.exists_copy hpiece
          exact ⟨copy, hcopy, hcopyKey.traversalKey_eq.trans hkey, hidentity ▸ hhas⟩
        · intro ⟨copy, hcopy, hkey, hhas⟩
          obtain ⟨piece, hpiece, hidentity, hpieceKey⟩ := hsame.symm.exists_copy hcopy
          exact ⟨piece, hpiece, hpieceKey.traversalKey_eq.trans hkey, hidentity ▸ hhas⟩
      simp only [hpieces, hperm.mem_iff]
    · intro path hpath copy hcopy hhas
      obtain ⟨piece, hpiece, hidentity, hpieceKey⟩ := hsame.symm.exists_copy hcopy
      obtain ⟨own, hown, hownKey, hhasOwn, honly⟩ :=
        hfree.owned path (hperm.mem_iff.mpr hpath) piece hpiece (hidentity ▸ hhas)
      obtain ⟨ownCopy, hownCopy, hownIdentity, hownCopyKey⟩ := hsame.exists_copy hown
      refine ⟨ownCopy, hownCopy, ?_, hownIdentity ▸ hhasOwn, ?_⟩
      · rw [hownCopyKey.traversalKey_eq, hownKey, hpieceKey.traversalKey_eq]
      · intro other' hother' hhas'
        exact honly other' (hperm.mem_iff.mpr hother') (hownIdentity ▸ hhas')
  · rw [hgroup]
    exact hmade.sorted.sublist List.filter_sublist
  · have hfirst : group.first.SameKey other.first := by
      cases hkeys with
      | cons hfirst _ => exact hfirst
    obtain ⟨path, hpath, _, _, hsequence, hsource⟩ := hmade.kept (hmem List.mem_cons_self).1
    obtain ⟨path', hpath', _, _, hsequence', hsource'⟩ :=
      hcopies.kept (hmem' List.mem_cons_self).1
    have hboth := (Piece.sortKey_eq_iff.mp hfirst.1).1
    rw [hsequence, hsequence'] at hboth
    rw [hsource, hsource']
    exact pairwise_sameSource hsources hpath (hperm.mem_iff.mpr hpath') hboth

end Orders

namespace Crossing

/-- The same drive in another sequence. -/
def again : MatchedPath :=
  { drive with roadMatchId := "again", sequenceId := "later" }

end Crossing

end CartoSentry.RoadBins
