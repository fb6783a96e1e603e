import Mathlib.Data.List.ReduceOption
import CartoSentry.Foundation.ListOrder
import CartoSentry.Matching.DecoderTrellis

set_option autoImplicit false

/-!
# Road matching: the beam as sequences of candidates

The beam of the decoder, with its indices and ranks, refines a beam of candidate
sequences ordered by score and then by identities.  The ranks do no more than
that order does.
-/

namespace CartoSentry.Matching

open Foundation.BeamSearch

/-! ## Sequences of identities -/

namespace Hypothesis

/-- The candidates a hypothesis goes through. -/
def trace (batches : List (List Candidate)) : Hypothesis → List Candidate
  | .initial candidateIndex .. => [candidateAt batches 0 candidateIndex]
  | .extended previous candidateIndex .. =>
      previous.trace batches ++ [candidateAt batches (previous.observationIndex + 1) candidateIndex]

/-- The candidate identities a hypothesis goes through. -/
def identities (batches : List (List Candidate)) (hypothesis : Hypothesis) : List String :=
  (hypothesis.trace batches).map Candidate.candidateId

variable (batches : List (List Candidate)) (hypothesis : Hypothesis) (rank : Nat)

@[simp] theorem withRank_rank : (hypothesis.withRank rank).lexicographicRank = rank := by
  cases hypothesis <;> rfl

@[simp] theorem withRank_score : (hypothesis.withRank rank).totalScore = hypothesis.totalScore := by
  cases hypothesis <;> rfl

@[simp] theorem withRank_observationIndex :
    (hypothesis.withRank rank).observationIndex = hypothesis.observationIndex := by
  cases hypothesis <;> rfl

@[simp] theorem withRank_candidateIndex :
    (hypothesis.withRank rank).candidateIndex = hypothesis.candidateIndex := by
  cases hypothesis <;> rfl

@[simp] theorem withRank_previousRank :
    (hypothesis.withRank rank).previousRank = hypothesis.previousRank := by
  cases hypothesis <;> rfl

@[simp] theorem withRank_trace : (hypothesis.withRank rank).trace batches =
    hypothesis.trace batches := by
  cases hypothesis <;> rfl

@[simp] theorem withRank_identities : (hypothesis.withRank rank).identities batches =
    hypothesis.identities batches := by
  rw [identities, withRank_trace, identities]

@[simp] theorem withRank_terminal : terminalOf batches (hypothesis.withRank rank) =
    terminalOf batches hypothesis := by
  rw [terminalOf, withRank_observationIndex, withRank_candidateIndex, terminalOf]

@[simp] theorem withRank_key : rankKey batches (hypothesis.withRank rank) =
    rankKey batches hypothesis := by
  rw [rankKey, withRank_previousRank, withRank_terminal, rankKey]

theorem length_trace : (hypothesis.trace batches).length = hypothesis.observationIndex + 1 := by
  induction hypothesis with
  | initial => rfl
  | extended previous candidateIndex score rank ih =>
    rw [trace, List.length_append, ih]
    rfl

theorem length_reconstruct : hypothesis.reconstruct.length = hypothesis.observationIndex + 1 := by
  induction hypothesis with
  | initial => rfl
  | extended previous candidateIndex score rank ih =>
    rw [reconstruct, List.length_append, ih]
    rfl

end Hypothesis

theorem candidatesOf_append {batches : List (List Candidate)} {indices : List Nat}
    {candidateIndex : Nat} (h : indices.length < batches.length) :
    candidatesOf batches (indices ++ [candidateIndex]) =
      candidatesOf batches indices ++ [candidateAt batches indices.length candidateIndex] := by
  induction indices generalizing batches with
  | nil =>
    cases batches with
    | nil => simp at h
    | cons batch rest => simp [candidatesOf, candidateAt, batchAt]
  | cons index indices ih =>
    cases batches with
    | nil => simp at h
    | cons batch rest =>
      have hrest := ih (Nat.lt_of_succ_lt_succ h)
      unfold candidatesOf at hrest ⊢
      rw [List.cons_append, List.zipWith_cons_cons, List.zipWith_cons_cons, hrest]
      rfl

/-- The candidates of the indices a hypothesis is reconstructed to. -/
theorem candidatesOf_reconstruct {batches : List (List Candidate)} {hypothesis : Hypothesis}
    (h : hypothesis.observationIndex < batches.length) :
    candidatesOf batches hypothesis.reconstruct = hypothesis.trace batches := by
  induction hypothesis with
  | initial candidateIndex score rank =>
    have hfront : candidatesOf batches ([] ++ [candidateIndex]) = _ := candidatesOf_append h
    rw [List.nil_append] at hfront
    rw [Hypothesis.reconstruct, hfront]
    simp [candidatesOf, Hypothesis.trace]
  | extended previous candidateIndex score rank ih =>
    have hprevious : previous.observationIndex + 1 < batches.length := h
    have hlength := previous.length_reconstruct
    rw [Hypothesis.reconstruct, candidatesOf_append (by omega), ih (by omega), hlength]
    rfl

/-- A hypothesis as a candidate sequence with its score. -/
def entryOf (batches : List (List Candidate)) (hypothesis : Hypothesis) :
    Entry Candidate ℚ where
  path := hypothesis.trace batches
  terminal := terminalOf batches hypothesis
  score := hypothesis.totalScore

theorem entryOf_withRank (batches : List (List Candidate)) (hypothesis : Hypothesis) (rank : Nat) :
    entryOf batches (hypothesis.withRank rank) = entryOf batches hypothesis := by
  simp [entryOf]

theorem entryOf_extended (batches : List (List Candidate)) (previous : Hypothesis)
    (candidateIndex : Nat) (score : ℚ) (rank : Nat) :
    entryOf batches (.extended previous candidateIndex score rank) =
      ⟨previous.trace batches ++
        [candidateAt batches (previous.observationIndex + 1) candidateIndex],
        candidateAt batches (previous.observationIndex + 1) candidateIndex, score⟩ :=
  rfl

/-! ## Ranks -/

section Ranks

variable {batches : List (List Candidate)} {beam : List Hypothesis}

/-- The ranks order the beam as the identity sequences do. -/
def RankedBeam (batches : List (List Candidate)) (beam : List Hypothesis) : Prop :=
  ∀ left ∈ beam, ∀ right ∈ beam, left.lexicographicRank < right.lexicographicRank ↔
    left.identities batches < right.identities batches

/-- The keys from which ranks are assigned order the beam as the identity sequences
do. -/
def KeyedBeam (batches : List (List Candidate)) (beam : List Hypothesis) : Prop :=
  ∀ left ∈ beam, ∀ right ∈ beam, rankKey batches left < rankKey batches right ↔
    left.identities batches < right.identities batches

theorem RankedBeam.subset {other : List Hypothesis} (h : RankedBeam batches beam)
    (hsubset : other ⊆ beam) : RankedBeam batches other :=
  fun left hleft right hright => h left (hsubset hleft) right (hsubset hright)

theorem KeyedBeam.subset {other : List Hypothesis} (h : KeyedBeam batches beam)
    (hsubset : other ⊆ beam) : KeyedBeam batches other :=
  fun left hleft right hright => h left (hsubset hleft) right (hsubset hright)

/-- Equal ranks are ranks of one identity sequence. -/
theorem RankedBeam.rank_eq_iff (h : RankedBeam batches beam) {left right : Hypothesis}
    (hleft : left ∈ beam) (hright : right ∈ beam) :
    left.lexicographicRank = right.lexicographicRank ↔
      left.identities batches = right.identities batches := by
  have hlt := h left hleft right hright
  have hgt := h right hright left hleft
  constructor
  · intro heq
    rw [heq] at hlt hgt
    exact le_antisymm (not_lt.mp fun hbelow => lt_irrefl _ (hgt.mpr hbelow))
      (not_lt.mp fun hbelow => lt_irrefl _ (hlt.mpr hbelow))
  · intro heq
    rw [heq] at hlt hgt
    exact le_antisymm (not_lt.mp fun hbelow => lt_irrefl _ (hgt.mp hbelow))
      (not_lt.mp fun hbelow => lt_irrefl _ (hlt.mp hbelow))

/-- Ranking replaces the rank of each hypothesis and nothing else. -/
theorem mem_assignLexicographicRanks {hypothesis : Hypothesis}
    (h : hypothesis ∈ assignLexicographicRanks batches beam) :
    ∃ original ∈ beam, ∃ rank, hypothesis = original.withRank rank := by
  obtain ⟨original, horiginal, rfl⟩ := List.mem_map.mp h
  exact ⟨original, horiginal, _, rfl⟩

theorem map_assignLexicographicRanks {B : Type} {f : Hypothesis → B}
    (hf : ∀ hypothesis rank, f (Hypothesis.withRank rank hypothesis) = f hypothesis) :
    (assignLexicographicRanks batches beam).map f = beam.map f := by
  unfold assignLexicographicRanks
  rw [List.map_map]
  exact List.map_congr_left fun hypothesis _ => hf hypothesis _

theorem KeyedBeam.assign (h : KeyedBeam batches beam) :
    KeyedBeam batches (assignLexicographicRanks batches beam) := by
  intro first hfirst second hsecond
  obtain ⟨left, hleft, _, rfl⟩ := mem_assignLexicographicRanks hfirst
  obtain ⟨right, hright, _, rfl⟩ := mem_assignLexicographicRanks hsecond
  simpa using h left hleft right hright

/-- The ranks assigned are those of the identity sequences. -/
theorem KeyedBeam.assign_ranked (h : KeyedBeam batches beam)
    (hdistinct : (beam.map (Hypothesis.identities batches)).Nodup) :
    RankedBeam batches (assignLexicographicRanks batches beam) := by
  have hinjective : ∀ left ∈ beam, ∀ right ∈ beam,
      rankKey batches left = rankKey batches right → left = right := by
    intro left hleft right hright hkey
    apply List.inj_on_of_nodup_map hdistinct hleft hright
    apply le_antisymm
    · exact not_lt.mp fun hlt => ((h right hright left hleft).mpr hlt).ne hkey.symm
    · exact not_lt.mp fun hlt => ((h left hleft right hright).mpr hlt).ne hkey
  set ranked := beam.insertionSort
    fun left right => rankKey batches left ≤ rankKey batches right with hranked
  have hmem : ∀ hypothesis, hypothesis ∈ ranked ↔ hypothesis ∈ beam :=
    fun hypothesis => List.mem_insertionSort _
  have hsorted : ranked.Pairwise fun left right => rankKey batches left < rankKey batches right := by
    have hweak : ranked.Pairwise fun left right => rankKey batches left ≤ rankKey batches right :=
      List.pairwise_insertionSort _ _
    have hnodup : ranked.Nodup :=
      (List.perm_insertionSort _ beam).nodup_iff.mpr (List.Nodup.of_map _ hdistinct)
    apply (hweak.and hnodup).imp_of_mem
    intro left right hleft hright hpair
    apply lt_of_le_of_ne hpair.1
    exact fun hkey => hpair.2
      (hinjective left ((hmem left).mp hleft) right ((hmem right).mp hright) hkey)
  intro first hfirst second hsecond
  obtain ⟨left, hleft, rfl⟩ := List.mem_map.mp hfirst
  obtain ⟨right, hright, rfl⟩ := List.mem_map.mp hsecond
  rw [Hypothesis.withRank_rank, Hypothesis.withRank_rank, Hypothesis.withRank_identities,
    Hypothesis.withRank_identities, ← h left hleft right hright]
  exact Foundation.idxOf_lt_idxOf_iff hsorted ((hmem left).mpr hleft) ((hmem right).mpr hright)

end Ranks

/-! ## Orders of entries -/

/-- The identities an entry goes through. -/
def entryIdentities (entry : Entry Candidate ℚ) : List String :=
  entry.path.map Candidate.candidateId

/-- What orders the entries: higher scores come first, then lower identities. -/
def entryKey (entry : Entry Candidate ℚ) : ℚᵒᵈ ×ₗ List String :=
  toLex (OrderDual.toDual entry.score, entryIdentities entry)

def sortEntries (entries : List (Entry Candidate ℚ)) : List (Entry Candidate ℚ) :=
  entries.insertionSort fun left right => entryKey left ≤ entryKey right

theorem entryKey_le_iff {left right : Entry Candidate ℚ} :
    entryKey left ≤ entryKey right ↔ right.score < left.score ∨
      left.score = right.score ∧ entryIdentities left ≤ entryIdentities right := by
  unfold entryKey
  rw [Prod.Lex.toLex_le_toLex]
  exact Iff.rfl

theorem sortEntries_ordered (entries : List (Entry Candidate ℚ)) :
    (sortEntries entries).Pairwise fun left right => right.score ≤ left.score := by
  have hsorted : (sortEntries entries).Pairwise fun left right => entryKey left ≤ entryKey right :=
    List.pairwise_insertionSort _ _
  apply hsorted.imp
  intro left right hkey
  rcases entryKey_le_iff.mp hkey with hlt | ⟨heq, -⟩
  · exact hlt.le
  · exact heq.ge

/-- Ranked hypotheses are sorted as their entries are. -/
theorem sortHypotheses_entries {batches : List (List Candidate)} {beam : List Hypothesis}
    (h : RankedBeam batches beam) :
    (sortHypotheses beam).map (entryOf batches) = sortEntries (beam.map (entryOf batches)) := by
  apply List.map_insertionSort
  intro left hleft right hright
  have hrank := h right hright left hleft
  have hle : left.lexicographicRank ≤ right.lexicographicRank ↔
      left.identities batches ≤ right.identities batches := by
    rw [← not_lt, hrank, not_lt]
  rw [entryKey_le_iff]
  unfold hypothesisOrder
  rw [hle]
  exact Iff.rfl

/-- Feasible sequences are told apart by their identities. -/
theorem path_of_identities {math : NativeMath} {input : DecoderInput} (hvalid : input.Valid)
    {observationIndex : Nat} (hindex : observationIndex < input.observations.length)
    {left right : Entry Candidate ℚ}
    (hleft : Feasible (decoderTrellis math input) observationIndex left)
    (hright : Feasible (decoderTrellis math input) observationIndex right)
    (hidentities : entryIdentities left = entryIdentities right) : left.path = right.path := by
  induction hleft generalizing right with
  | start hc =>
    cases hright with
    | start hd =>
      rw [hvalid.candidate_inj hindex hc hd (List.singleton_inj.mp hidentities)]
  | step h hc hf ih =>
    cases hright with
    | step h' hd hg =>
      unfold entryIdentities at hidentities
      rw [List.map_append, List.map_append] at hidentities
      obtain ⟨hfront, hlast⟩ := List.append_inj' hidentities rfl
      rw [ih (by omega) h' hfront, hvalid.candidate_inj hindex hc hd (List.singleton_inj.mp hlast)]

/-- Hypotheses for distinct feasible sequences have distinct identity sequences. -/
theorem identities_nodup {math : NativeMath} {input : DecoderInput} (hvalid : input.Valid)
    {observationIndex : Nat} (hindex : observationIndex < input.observations.length)
    {beam : List Hypothesis}
    (hfeasible : ∀ hypothesis ∈ beam,
      Feasible (decoderTrellis math input) observationIndex (entryOf input.batches hypothesis))
    (hpaths : ((beam.map (entryOf input.batches)).map Entry.path).Nodup) :
    (beam.map (Hypothesis.identities input.batches)).Nodup := by
  rw [List.map_map] at hpaths
  apply List.Nodup.map_on _ (List.Nodup.of_map _ hpaths)
  intro left hleft right hright hidentities
  apply List.inj_on_of_nodup_map hpaths hleft hright
  exact path_of_identities hvalid hindex (hfeasible left hleft) (hfeasible right hright) hidentities

/-! ## Sound beams -/

/-- Hypotheses that stand for feasible sequences up to an observation, once each. -/
structure SoundBeam (math : NativeMath) (input : DecoderInput) (observationIndex : Nat)
    (beam : List Hypothesis) : Prop where
  depth : ∀ hypothesis ∈ beam, hypothesis.observationIndex = observationIndex
  feasible : ∀ hypothesis ∈ beam,
    Feasible (decoderTrellis math input) observationIndex (entryOf input.batches hypothesis)
  distinct : (beam.map (Hypothesis.identities input.batches)).Nodup

namespace SoundBeam

variable {math : NativeMath} {input : DecoderInput} {observationIndex : Nat}
  {beam other : List Hypothesis}

theorem sublist (h : SoundBeam math input observationIndex beam) (hother : other.Sublist beam) :
    SoundBeam math input observationIndex other where
  depth hypothesis hmem := h.depth hypothesis (hother.subset hmem)
  feasible hypothesis hmem := h.feasible hypothesis (hother.subset hmem)
  distinct := h.distinct.sublist (hother.map _)

theorem perm (h : SoundBeam math input observationIndex beam) (hother : other.Perm beam) :
    SoundBeam math input observationIndex other where
  depth hypothesis hmem := h.depth hypothesis (hother.subset hmem)
  feasible hypothesis hmem := h.feasible hypothesis (hother.subset hmem)
  distinct := (hother.map _).nodup_iff.mpr h.distinct

theorem assign (h : SoundBeam math input observationIndex beam) :
    SoundBeam math input observationIndex (assignLexicographicRanks input.batches beam) := by
  constructor
  · intro hypothesis hmem
    obtain ⟨original, horiginal, rank, rfl⟩ := mem_assignLexicographicRanks hmem
    rw [Hypothesis.withRank_observationIndex]
    exact h.depth original horiginal
  · intro hypothesis hmem
    obtain ⟨original, horiginal, rank, rfl⟩ := mem_assignLexicographicRanks hmem
    rw [entryOf_withRank]
    exact h.feasible original horiginal
  · rw [map_assignLexicographicRanks (Hypothesis.withRank_identities _)]
    exact h.distinct

theorem sort (h : SoundBeam math input observationIndex beam) :
    SoundBeam math input observationIndex (sortHypotheses beam) :=
  h.perm (List.perm_insertionSort _ beam)

/-- The candidate a hypothesis ends with is one of its batch. -/
theorem terminal_mem (h : SoundBeam math input observationIndex beam) {hypothesis : Hypothesis}
    (hmem : hypothesis ∈ beam) :
    candidateAt input.batches observationIndex hypothesis.candidateIndex ∈
      batchAt input.batches observationIndex := by
  have hterminal := (h.feasible hypothesis hmem).terminal_mem
  rw [← h.depth hypothesis hmem] at hterminal ⊢
  exact hterminal

end SoundBeam

/-! ## Expansion -/

section Expansion

variable (math : NativeMath) (input : DecoderInput) (observationIndex : Nat)

/-- What `expandBeam` returns where no transition throws. -/
def extensions (beam : List Hypothesis) : List (Option Hypothesis) :=
  (extensionPairs input beam (observationIndex + 1)).map fun pair =>
    (stepScore math input observationIndex
      (candidateAt input.batches observationIndex pair.1.candidateIndex)
      (candidateAt input.batches (observationIndex + 1) pair.2)).map fun f =>
        .extended pair.1 pair.2 (f pair.1.totalScore) 0

variable {math input observationIndex} {beam : List Hypothesis}

theorem mem_extensionPairs {pair : Hypothesis × Nat} :
    pair ∈ extensionPairs input beam observationIndex ↔
      pair.1 ∈ beam ∧ pair.2 < (batchAt input.batches observationIndex).length := by
  unfold extensionPairs
  simp only [List.mem_flatMap, List.mem_map, List.mem_range]
  constructor
  · rintro ⟨previous, hprevious, index, hindex, rfl⟩
    exact ⟨hprevious, hindex⟩
  · intro ⟨hprevious, hindex⟩
    exact ⟨pair.1, hprevious, pair.2, hindex, rfl⟩

theorem length_extensionPairs : (extensionPairs input beam observationIndex).length =
    beam.length * (batchAt input.batches observationIndex).length := by
  unfold extensionPairs
  rw [List.length_flatMap]
  simp

variable (math input observationIndex beam) in
theorem extensions_rejected :
    (extensions math input observationIndex beam).countP Option.isNone =
      beam.length * (batchAt input.batches (observationIndex + 1)).length -
        (extensions math input observationIndex beam).reduceOption.length := by
  have hlength : (extensions math input observationIndex beam).length =
      beam.length * (batchAt input.batches (observationIndex + 1)).length := by
    unfold extensions
    rw [List.length_map, length_extensionPairs]
  have hsum := List.length_eq_reduceOption_length_add_filter_none
    (l := extensions math input observationIndex beam)
  rw [List.countP_eq_length_filter]
  omega

theorem mem_extensions {hypothesis : Hypothesis}
    (h : hypothesis ∈ (extensions math input observationIndex beam).reduceOption) :
    ∃ previous ∈ beam, ∃ candidateIndex score,
      hypothesis = .extended previous candidateIndex score 0 := by
  rw [List.reduceOption_mem_iff] at h
  obtain ⟨pair, hpair, hsome⟩ := List.mem_map.mp h
  obtain ⟨f, -, rfl⟩ := Option.map_eq_some_iff.mp hsome
  exact ⟨pair.1, (mem_extensionPairs.mp hpair).1, _, _, rfl⟩

variable (math input) in
/-- The extensions are those of the trellis. -/
theorem extensions_entries
    (hdepth : ∀ hypothesis ∈ beam, hypothesis.observationIndex = observationIndex) :
    (extensions math input observationIndex beam).reduceOption.map (entryOf input.batches) =
      expand (decoderTrellis math input) observationIndex (beam.map (entryOf input.batches)) := by
  unfold extensions extensionPairs expand List.reduceOption
  rw [List.map_flatMap, List.filterMap_flatMap, List.map_flatMap, List.flatMap_map]
  apply List.flatMap_congr
  intro previous hprevious
  have hlayer : (decoderTrellis math input).layer (observationIndex + 1) =
      (List.range (batchAt input.batches (observationIndex + 1)).length).map
        (candidateAt input.batches (observationIndex + 1)) :=
    (map_candidateAt_range input.batches (observationIndex + 1)).symm
  rw [hlayer, List.filterMap_map, List.filterMap_map, List.filterMap_map, List.map_filterMap]
  apply List.filterMap_congr
  intro candidateIndex _
  have hterminal : terminalOf input.batches previous =
      candidateAt input.batches observationIndex previous.candidateIndex := by
    rw [terminalOf, hdepth previous hprevious]
  have hentry (f : ℚ → ℚ) : entryOf input.batches
      (.extended previous candidateIndex (f previous.totalScore) 0) =
        ⟨(entryOf input.batches previous).path ++
          [candidateAt input.batches (observationIndex + 1) candidateIndex],
          candidateAt input.batches (observationIndex + 1) candidateIndex,
          f (entryOf input.batches previous).score⟩ := by
    rw [entryOf_extended, hdepth previous hprevious]
    rfl
  simp only [Function.comp_apply, id_eq, Option.map_map]
  rw [show (entryOf input.batches previous).terminal = _ from hterminal]
  exact congrArg (Option.map · _) (funext hentry)

theorem extensions_sound (hvalid : input.Valid)
    (hindex : observationIndex + 1 < input.observations.length)
    (h : SoundBeam math input observationIndex beam) :
    SoundBeam math input (observationIndex + 1)
      (extensions math input observationIndex beam).reduceOption := by
  have hentries := extensions_entries math input h.depth
  have hfeasible : ∀ hypothesis ∈ (extensions math input observationIndex beam).reduceOption,
      Feasible (decoderTrellis math input) (observationIndex + 1)
        (entryOf input.batches hypothesis) := by
    intro hypothesis hmem
    have hexpanded := List.mem_map_of_mem (f := entryOf input.batches) hmem
    rw [hentries] at hexpanded
    obtain ⟨entry, hentry, c, hc, f, hf, heq⟩ := mem_expand.mp hexpanded
    obtain ⟨previous, hprevious, rfl⟩ := List.mem_map.mp hentry
    rw [heq]
    exact .step (h.feasible previous hprevious) hc hf
  refine ⟨?_, hfeasible, identities_nodup hvalid hindex hfeasible ?_⟩
  · intro hypothesis hmem
    obtain ⟨previous, hprevious, _, _, rfl⟩ := mem_extensions hmem
    rw [Hypothesis.observationIndex, h.depth previous hprevious]
  · rw [hentries]
    apply expand_paths_nodup
    · rw [List.map_map]
      have hdistinct := h.distinct
      rw [show Hypothesis.identities input.batches =
        List.map Candidate.candidateId ∘ (Entry.path ∘ entryOf input.batches) from rfl,
        ← List.map_map] at hdistinct
      exact List.Nodup.of_map _ hdistinct
    · exact List.Nodup.of_map _ (hvalid.batchValid hindex).identities

variable (math) in
/-- The keys of the extensions of a ranked beam order them as their identities do:
the rank stands for the front. -/
theorem extensions_keyed (hdepth : ∀ hypothesis ∈ beam, hypothesis.observationIndex = observationIndex)
    (hranked : RankedBeam input.batches beam) :
    KeyedBeam input.batches (extensions math input observationIndex beam).reduceOption := by
  intro first hfirst second hsecond
  obtain ⟨left, hleft, leftIndex, leftScore, rfl⟩ := mem_extensions hfirst
  obtain ⟨right, hright, rightIndex, rightScore, rfl⟩ := mem_extensions hsecond
  have hlength : (left.identities input.batches).length =
      (right.identities input.batches).length := by
    unfold Hypothesis.identities
    rw [List.length_map, List.length_map, Hypothesis.length_trace, Hypothesis.length_trace,
      hdepth left hleft, hdepth right hright]
  have hidentities (previous : Hypothesis) (candidateIndex : Nat) (score : ℚ) :
      (Hypothesis.extended previous candidateIndex score 0).identities input.batches =
        previous.identities input.batches ++
          [(candidateAt input.batches (previous.observationIndex + 1) candidateIndex).candidateId] := by
    rw [Hypothesis.identities, Hypothesis.trace, List.map_append]
    rfl
  rw [hidentities, hidentities, Foundation.append_singleton_lt_iff hlength, rankKey, rankKey,
    Prod.Lex.toLex_lt_toLex, ← hranked left hleft right hright,
    ← hranked.rank_eq_iff hleft hright]
  exact Iff.rfl

end Expansion

end CartoSentry.Matching
