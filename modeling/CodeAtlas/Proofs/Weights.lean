import CodeAtlas.Proofs.Limit
import CodeAtlas.Proofs.Scores

/-!
# Weights pass their gates

Edges come to their weights in different ways.  Containment and definition weigh one, and are not weighed by the
filters; imports and calls weigh one, and are.  The weight of an edge between similar elements is their score, cut
off at zero and one, but it is the score itself that was compared with a threshold.  In exact arithmetic nothing is
cut off, and so the weight is above the threshold too, wherever that lies (`Edge.Gated`).

Each proposal that passes the filters is such an edge, so every step of a run leaves only such edges where there
were none but these (`BuildState.gated_relate`), and a run does as well.
-/

namespace CodeAtlas

/-- What the weight of an edge owes to the filters.  The four fields say one thing about the weight each, so that a
step is seen to keep all of them at once. -/
structure Edge.Gated (filters : Filters Rat) (e : Edge Rat) : Prop where
  /-- A weight is between zero and one, -/
  bounds : 0 ≤ e.weight ∧ e.weight ≤ 1
  /-- and it is one for an edge of containment or definition. -/
  structural : e.relation = .contains ∨ e.relation = .definedIn → e.weight = 1
  /-- An edge that is not structural is not lighter than the least weight. -/
  weighed : e.relation ≠ .contains → e.relation ≠ .definedIn → filters.minRelationWeight ≤ e.weight
  /-- An edge between similar elements weighs what it gives as their score, more than the threshold for pairs within
  a file or across files. -/
  similar : e.relation = .relatedTo → ∃ description tags crossFile,
    e.properties = .similarity description e.weight tags crossFile ∧
      (if crossFile then filters.crossFileThreshold else filters.sameFileThreshold) < e.weight

namespace BuildState

variable {around : Surroundings Rat} {filters : Filters Rat} {s : BuildState Rat} {e : Edge Rat}

/-! ## What passes the filters -/

theorem minRelationWeight_le_of_passes (passes : filters.passes e = true) (ne : e.relation ≠ .contains)
    (ne' : e.relation ≠ .definedIn) : filters.minRelationWeight ≤ e.weight := by
  have other : e.relation.isStructural = false := by
    cases h : e.relation with
    | contains => exact absurd h ne
    | definedIn => exact absurd h ne'
    | imports => rfl
    | calls => rfl
    | relatedTo => rfl
  exact not_lt.mp (of_decide_eq_false (Filters.lt_eq_false_of_passes passes other))

/-- An edge of full weight passes its gates with the filters. -/
theorem gated_of_unscored {r : Relation} (unscored : e.Unscored r) (ne : r ≠ .relatedTo)
    (passes : filters.passes e = true) : e.Gated filters where
  bounds := by
    rw [unscored.weight]
    exact Scalar.ofNat_bounds le_rfl
  structural _ := unscored.weight
  weighed := minRelationWeight_le_of_passes passes
  similar related := absurd (unscored.relation.symm.trans related) ne

/-- So does an edge between similar elements whose score is above the threshold. -/
theorem gated_similarEdge {a b : Placed} {crossFile : Bool}
    (above : (if crossFile then filters.crossFileThreshold else filters.sameFileThreshold) < s.score around a b)
    (passes : filters.passes (similarEdge a b (s.score around a b) crossFile) = true) :
    (similarEdge a b (s.score around a b) crossFile).Gated filters := by
  have uncut := weight_similarEdge around s a b crossFile
  refine ⟨?_, ?_, minRelationWeight_le_of_passes passes, fun _ => ?_⟩
  · rw [uncut]
    exact score_bounds around s a b
  · rintro (contains | definedIn)
    · cases contains
    · cases definedIn
  · rw [uncut]
    exact ⟨_, _, crossFile, rfl, above⟩

/-- A pair within a file is proposed for a score that is not at most the threshold. -/
theorem gated_of_sameFileProposal (mem : e ∈ s.sameFileProposals around)
    (passes : around.filters.passes e = true) : e.Gated around.filters := by
  obtain ⟨⟨a, b⟩, -, proposed⟩ := List.mem_filterMap.mp mem
  obtain ⟨⟨-, above, -⟩, rfl⟩ := sameFileProposal_eq_some_iff.mp proposed
  exact gated_similarEdge (not_le.mp (of_decide_eq_false above)) passes

/-- A pair across files is proposed for a score above the other threshold. -/
theorem gated_of_crossFileProposal {pairs : List (Placed × Placed)}
    (mem : e ∈ pairs.filterMap (s.crossFileProposal around))
    (passes : around.filters.passes e = true) : e.Gated around.filters := by
  obtain ⟨⟨a, b⟩, -, proposed⟩ := List.mem_filterMap.mp mem
  obtain ⟨⟨above, -⟩, rfl⟩ := crossFileProposal_eq_some_iff.mp proposed
  exact gated_similarEdge (of_decide_eq_true above) passes

/-! ## Steps and runs -/

/-- **A step keeps the gates**: where all edges have passed them, all edges have afterwards.  An edge that is there
after a step was there before, or was proposed and has passed the filters; for similarity it was proposed in one of
the two halves, with the threshold of that half. -/
theorem gated_relate (r : Relation) (gated : ∀ e ∈ s.edges.toList, e.Gated around.filters) :
    ∀ e ∈ (relate around r s).1.edges.toList, e.Gated around.filters := by
  intro e mem
  by_cases similar : r = .relatedTo
  · subst similar
    rw [relate, relateSimilar_eq, relateCrossFile] at mem
    dsimp only at mem
    rcases mem_edges_foldl_offerUpTo mem with earlier | ⟨proposed, passes⟩
    · rw [relateSameFile_eq] at earlier
      rcases mem_edges_foldl_offer earlier with old | ⟨proposed, passes⟩
      · exact gated e old
      · exact gated_of_sameFileProposal proposed passes
    · exact gated_of_crossFileProposal proposed passes
  · rw [relate_eq_offerAll around s similar, offerAll_fst] at mem
    rcases mem_edges_foldl_offer mem with old | ⟨proposed, passes⟩
    · exact gated e old
    · exact gated_of_unscored (unscored_of_mem_proposed (mem_of_mem_reached proposed)) similar passes

theorem gated_relateAll (gated : ∀ e ∈ s.edges.toList, e.Gated around.filters) :
    ∀ e ∈ (s.relateAll around).1.edges.toList, e.Gated around.filters :=
  relateAll_keeps (P := fun s => ∀ e ∈ s.edges.toList, e.Gated around.filters)
    (fun r _ => gated_relate r) gated

end BuildState

namespace Builder

variable {b : Builder Rat} {fs : FileSystem} {now : String} {input : BuildInput} {g : Graph Rat}

/-- **Every edge of a build passes its gates**, whatever the filters ask for.

The relations start from a state without edges, where there is nothing to show, and each step keeps the gates
(`BuildState.gated_relate`).  Least weights and thresholds outside of zero and one are no exception: a threshold below
zero lets every score pass, and one from one on lets none. -/
theorem edges_gated (h : b.build fs now input = .ok g) : ∀ e ∈ g.edges, e.Gated b.filters := by
  obtain ⟨imports, exports, s, u, built⟩ := build_eq_ok_iff.mp h
  obtain ⟨count, run⟩ := built.relateAll
  have start : ∀ e ∈ s.edges.toList, e.Gated b.filters := by
    rw [built.edges_eq_nil]
    exact fun e mem => absurd mem List.not_mem_nil
  have all : ∀ e ∈ (s.relateAll ⟨fs, b.filters, b.extensions⟩).1.edges.toList, e.Gated b.filters :=
    BuildState.gated_relateAll start
  rw [run] at all
  rw [built.edges]
  exact all

/-- Three similar functions, with a least weight and thresholds that are no weights. -/
theorem edges_gated_of_three_functions :
    let b := (sample Rat .connectivity).withFilters
      { (Filters.allEnabled (-1)) with sameFileThreshold := -2, crossFileThreshold := -3 }
    ∃ g, b.build sampleFiles "" similarInput = .ok g ∧ (∀ e ∈ g.edges, e.Gated b.filters) ∧
      (g.edgesOf .relatedTo).map Edge.weight = [4 / 5, 4 / 5, 4 / 5] ∧ g.acrossFiles.length = 2 := by
  intro b
  have finishes : (b.build sampleFiles "" similarInput).toOption.any (fun g =>
      (g.edgesOf .relatedTo).map Edge.weight == [4 / 5, 4 / 5, 4 / 5] && g.acrossFiles.length == 2) = true := by
    decide +kernel
  obtain ⟨g, h, seen⟩ := exists_ok_of_any_toOption finishes
  rw [Bool.and_eq_true, beq_iff_eq, beq_iff_eq] at seen
  exact ⟨g, h, edges_gated h, seen⟩

end Builder

end CodeAtlas
