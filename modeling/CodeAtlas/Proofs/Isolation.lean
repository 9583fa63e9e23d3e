import CodeAtlas.Proofs.Build

/-!
# What a filter has a say in

The relations of a build share one catalog of edges, and one step looks at the edges that another one has left.
All the same every relation is built for itself: its edges depend on the filters by what `Filters.AgreeOn` lists
for this relation, and on nothing else.

There are two ways in which relations could meet.  The first is the catalog, which refuses an edge whose id is
taken; but an id tells its relation, so that only edges of the same relation can take it.  The second is the step
for similarity, which looks at the imports; so two filters have to agree on these as well.  The similar pairs
within files are found before it does.

The proof follows two states that have the same edges of one relation (`Alike`).  An offer of an edge of this
relation keeps them so, and hence each step does, and each run.
-/

namespace CodeAtlas

variable {α : Type}

/-- Two filters agree on everything that has a say in the edges of a relation.  Containment and definitions are
offered whatever their weight, so that the least weight has no say in them; similar entities look at the imports, so
that what has a say in whether imports are built has one in them. -/
def Filters.AgreeOn (F G : Filters α) : Relation → Prop
  | .contains => F.enableContains = G.enableContains
  | .definedIn => F.enableDefinedIn = G.enableDefinedIn
  | .imports =>
    F.enableImportsExports = G.enableImportsExports ∧ F.minRelationWeight = G.minRelationWeight
  | .calls => F.enableCalls = G.enableCalls ∧ F.minRelationWeight = G.minRelationWeight
  | .relatedTo =>
    F.enableSemanticRelated = G.enableSemanticRelated ∧ F.minRelationWeight = G.minRelationWeight ∧
      F.sameFileThreshold = G.sameFileThreshold ∧ F.crossFileThreshold = G.crossFileThreshold ∧
      F.maxCrossFileRelations = G.maxCrossFileRelations ∧
      F.enableImportsExports = G.enableImportsExports

/-- Two filters agree on everything that has a say in the similar pairs within files. -/
structure Filters.AgreeWithinFiles (F G : Filters α) : Prop where
  enabled : F.enableSemanticRelated = G.enableSemanticRelated
  weight : F.minRelationWeight = G.minRelationWeight
  threshold : F.sameFileThreshold = G.sameFileThreshold

/-- Whether an edge joins similar elements of one file. -/
def Edge.isWithinFile (e : Edge α) : Bool :=
  match e.properties with
  | .similarity _ _ _ crossFile => !crossFile
  | _ => false

namespace Filters

variable {F G : Filters α} {r : Relation}

/-- Filters that agree on a relation enable it both or neither. -/
theorem AgreeOn.enables (agree : F.AgreeOn G r) : F.enables r = G.enables r := by
  cases r with
  | contains => exact agree
  | definedIn => exact agree
  | imports => exact agree.1
  | calls => exact agree.1
  | relatedTo => exact agree.1

/-- Filters that agree on similar entities agree on imports, -/
theorem AgreeOn.imports (agree : F.AgreeOn G .relatedTo) : F.AgreeOn G .imports := by
  obtain ⟨-, weight, -, -, -, enabled⟩ := agree
  exact ⟨enabled, weight⟩

/-- and on the similar pairs within files. -/
theorem AgreeOn.withinFiles (agree : F.AgreeOn G .relatedTo) : F.AgreeWithinFiles G :=
  ⟨agree.1, agree.2.1, agree.2.2.1⟩

/-- They let the same edges of the relation pass, -/
theorem AgreeOn.passes [Scalar α] (agree : F.AgreeOn G r) {e : Edge α} (relation : e.relation = r) :
    F.passes e = G.passes e := by
  subst relation
  unfold Filters.passes
  cases relation : e.relation with
  | contains => rfl
  | definedIn => rfl
  | imports => rw [relation] at agree; rw [agree.2]
  | calls => rw [relation] at agree; rw [agree.2]
  | relatedTo => rw [relation] at agree; rw [agree.2.1]

/-- and here, as only the least weight is looked at, the same edges of any relation. -/
theorem AgreeWithinFiles.passes [Scalar α] (agree : F.AgreeWithinFiles G) (e : Edge α) :
    F.passes e = G.passes e := by
  rw [Filters.passes, agree.weight]
  rfl

end Filters

namespace BuildState

/-! ## Two states with the same edges of a relation -/

/-- Two states that differ in edges alone, and in none of the relation `r`.  This is the invariant of two runs with
filters that agree on `r`. -/
structure Alike (r : Relation) (p q : BuildState α) : Prop where
  /-- They have the same nodes, placed entities and tables, -/
  frame : q = { p with edges := q.edges }
  /-- and the same edges of the relation, in the same order. -/
  edges : p.edgesOf r = q.edgesOf r

variable {r : Relation} {p q : BuildState α} {F G : Filters α}

/-- The second state is the first one with other edges. -/
theorem Alike.exists_edges (h : Alike r p q) : ∃ edges, q = { p with edges } := ⟨_, h.frame⟩

variable [Scalar α]

namespace Alike

/-- An edge of the relation is accepted in both states or in neither.  Whether its id is taken is told by the edges of
the relation, since an id tells the relation. -/
theorem accepts (h : Alike r p q) {e : Edge α} (relation : e.relation = r)
    (passes : F.passes e = G.passes e) : p.accepts F e = q.accepts G e := by
  have nodes : q.nodes = p.nodes := by rw [h.frame]
  have taken : p.edges.contains e.id = q.edges.contains e.id := by
    rw [Bool.eq_iff_iff, contains_iff_edgesOf, contains_iff_edgesOf, relation, h.edges]
  unfold BuildState.accepts
  rw [← Filters.passes, ← Filters.passes, passes, nodes, taken]

/-- An edge that is taken in by both leaves them alike. -/
theorem addEdge (h : Alike r p q) {e : Edge α} (accepted : p.accepts F e = true)
    (accepted' : q.accepts G e = true) : Alike r (p.addEdge e) (q.addEdge e) where
  frame := by
    show { q with edges := _ } = _
    rw [h.frame]
    rfl
  edges := by
    rw [(adds_addEdge accepted).edgesOf, (adds_addEdge accepted').edgesOf, h.edges]

end Alike

/-- Two runs of offers are in step: their states are alike, and they have counted alike. -/
def InStep (r : Relation) (a b : BuildState α × Nat) : Prop := Alike r a.1 b.1 ∧ a.2 = b.2

namespace InStep

variable {a b : BuildState α × Nat}

/-- **An offer keeps two runs in step.** -/
theorem offer (h : InStep r a b) {e : Edge α} (relation : e.relation = r)
    (passes : F.passes e = G.passes e) : InStep r (BuildState.offer F a e) (BuildState.offer G b e) := by
  obtain ⟨alike, counts⟩ := h
  have same := alike.accepts relation passes
  unfold BuildState.offer
  by_cases accepted : a.1.accepts F e = true
  · have accepted' : b.1.accepts G e = true := same ▸ accepted
    rw [if_pos accepted, if_pos accepted']
    exact ⟨alike.addEdge accepted accepted', congrArg (· + 1) counts⟩
  · have refused : ¬ b.1.accepts G e = true := same ▸ accepted
    rw [if_neg accepted, if_neg refused]
    exact ⟨alike, counts⟩

/-- So do any number of offers, as each of them does, -/
theorem foldl_offer (h : InStep r a b) (proposals : List (Edge α))
    (relation : ∀ e ∈ proposals, e.relation = r)
    (passes : ∀ e ∈ proposals, F.passes e = G.passes e) :
    InStep r (proposals.foldl (BuildState.offer F) a) (proposals.foldl (BuildState.offer G) b) :=
  List.foldl_rel h fun e mem _ _ inStep => inStep.offer (relation e mem) (passes e mem)

/-- also if there is a limit: what has been counted so far is the same in both runs, and both come to the limit
together. -/
theorem foldl_offerUpTo (h : InStep r a b) (limit : Int)
    (propose : Placed × Placed → Option (Edge α)) (pairs : List (Placed × Placed))
    (relation : ∀ pair e, propose pair = some e → e.relation = r)
    (passes : ∀ pair e, propose pair = some e → F.passes e = G.passes e) :
    InStep r (pairs.foldl (offerUpTo F limit propose) a)
      (pairs.foldl (offerUpTo G limit propose) b) := by
  refine List.foldl_rel h fun pair _ c c' inStep => ?_
  unfold offerUpTo
  -- The counts agree, so that the limit is reached on both sides or on neither.
  rw [← inStep.2]
  split
  · exact inStep
  · cases proposed : propose pair with
    | none => exact inStep
    | some e => exact inStep.offer (relation pair e proposed) (passes pair e proposed)

end InStep

/-! ## One step -/

namespace Alike

/-- The offers of a step, up to a fault. -/
theorem offerAll (h : Alike r p q) (agree : F.AgreeOn G r) (proposals : List (Except Fault (Edge α)))
    (relation : ∀ e, .ok e ∈ proposals → e.relation = r) :
    Alike r (p.offerAll F proposals).1 (q.offerAll G proposals).1 := by
  have proposed : ∀ e ∈ reached proposals, e.relation = r :=
    fun e mem => relation e (mem_of_mem_reached mem)
  have start : InStep r (p, 0) (q, 0) := ⟨h, rfl⟩
  rw [offerAll_fst, offerAll_fst]
  exact (start.foldl_offer _ proposed fun e mem => agree.passes (proposed e mem)).1

variable {fs : FileSystem} {extensions : List String}

/-- The pairs within files are the same in both states, as they are told by the entities and one threshold. -/
theorem relateSameFile (h : Alike .relatedTo p q) (agree : F.AgreeWithinFiles G) :
    Alike .relatedTo (p.relateSameFile ⟨fs, F, extensions⟩).1
      (q.relateSameFile ⟨fs, G, extensions⟩).1 := by
  obtain ⟨edges, rfl⟩ := h.exists_edges
  have propose : BuildState.sameFileProposal ⟨fs, G, extensions⟩ { p with edges }
      = p.sameFileProposal ⟨fs, F, extensions⟩ := by
    funext pair
    simp only [sameFileProposal, score, agree.threshold]
    rfl
  have proposals : BuildState.sameFileProposals ⟨fs, G, extensions⟩ { p with edges }
      = p.sameFileProposals ⟨fs, F, extensions⟩ := by
    unfold sameFileProposals
    rw [propose]
    rfl
  have start : InStep .relatedTo (p, 0) ({ p with edges }, 0) := ⟨h, rfl⟩
  have run := start.foldl_offer (F := F) (G := G) (p.sameFileProposals ⟨fs, F, extensions⟩)
    (fun e mem => relation_of_mem_sameFileProposals mem) fun e _ => agree.passes e
  rw [relateSameFile_eq, relateSameFile_eq, proposals]
  exact run.1

/-- The pairs across files are the same if the imports are. -/
theorem relateCrossFile (h : Alike .relatedTo p q) (agree : F.AgreeOn G .relatedTo)
    (imports : p.edgesOf .imports = q.edgesOf .imports) :
    Alike .relatedTo (p.relateCrossFile ⟨fs, F, extensions⟩).1
      (q.relateCrossFile ⟨fs, G, extensions⟩).1 := by
  have ⟨_, _, _, threshold, limit, _⟩ := agree
  obtain ⟨edges, rfl⟩ := h.exists_edges
  have propose : BuildState.crossFileProposal ⟨fs, G, extensions⟩ { p with edges }
      = p.crossFileProposal ⟨fs, F, extensions⟩ := by
    funext pair
    simp only [crossFileProposal, score, threshold]
    rfl
  have pairs : ({ p with edges } : BuildState α).crossFilePairs = p.crossFilePairs :=
    crossFilePairs_congr rfl imports.symm
  have start : InStep .relatedTo (p, 0) ({ p with edges }, 0) := ⟨h, rfl⟩
  have run := start.foldl_offerUpTo (F := F) (G := G) F.maxCrossFileRelations
    (p.crossFileProposal ⟨fs, F, extensions⟩) p.crossFilePairs
    (fun pair e proposed => relation_of_crossFileProposal proposed)
    fun pair e proposed => agree.passes (relation_of_crossFileProposal proposed)
  unfold BuildState.relateCrossFile
  rw [propose, pairs, ← limit]
  exact run.1

/-- Both parts of the step for similar entities, one after the other. -/
theorem relateSimilar (h : Alike .relatedTo p q) (agree : F.AgreeOn G .relatedTo)
    (imports : p.edgesOf .imports = q.edgesOf .imports) :
    Alike .relatedTo (p.relateSimilar ⟨fs, F, extensions⟩).1
      (q.relateSimilar ⟨fs, G, extensions⟩).1 := by
  rw [relateSimilar_eq, relateSimilar_eq]
  dsimp only
  refine (h.relateSameFile agree.withinFiles).relateCrossFile agree ?_
  rw [imports_relateSameFile, imports_relateSameFile, imports]

/-- **A step keeps two states alike** where the filters agree on its relation.  All steps but the one for similar
entities offer what does not depend on edges at all. -/
theorem relate (h : Alike r p q) (agree : F.AgreeOn G r)
    (imports : r = .relatedTo → p.edgesOf .imports = q.edgesOf .imports) :
    Alike r (BuildState.relate ⟨fs, F, extensions⟩ r p).1
      (BuildState.relate ⟨fs, G, extensions⟩ r q).1 := by
  by_cases similar : r = .relatedTo
  · subst similar
    exact h.relateSimilar agree (imports rfl)
  · -- What is proposed depends neither on the edges nor on the filters.
    have proposed : q.proposed ⟨fs, G, extensions⟩ r = p.proposed ⟨fs, F, extensions⟩ r :=
      (proposed_congr h.frame r).trans (proposed_withFilters ⟨fs, F, extensions⟩ G p r)
    rw [relate_eq_offerAll _ p similar, relate_eq_offerAll _ q similar, proposed]
    exact h.offerAll agree _ fun e mem => (unscored_of_mem_proposed mem).relation

end Alike

/-! ## A whole run -/

/-- The similar pairs within files, among the edges of a state. -/
def withinFiles (s : BuildState α) : List (Edge α) := (s.edgesOf .relatedTo).filter Edge.isWithinFile

/-- What comes behind the pairs within files are pairs across files. -/
theorem withinFiles_relateSimilar (around : Surroundings α) (s : BuildState α) :
    (s.relateSimilar around).1.withinFiles = (s.relateSameFile around).1.withinFiles := by
  obtain ⟨new, adds, sub, -⟩ := offered_relateCrossFile around (s.relateSameFile around).1
  have across : (new.filter (·.relation == .relatedTo)).filter Edge.isWithinFile = [] := by
    rw [List.filter_eq_nil_iff]
    intro e mem
    obtain ⟨pair, -, proposed⟩ := List.mem_filterMap.mp (sub.subset (List.mem_filter.mp mem).1)
    obtain ⟨-, rfl⟩ := crossFileProposal_eq_some_iff.mp proposed
    exact Bool.false_ne_true
  rw [relateSimilar_eq, withinFiles, adds.edgesOf, List.filter_append, across, List.append_nil]
  rfl

variable {s u v : BuildState α} {fs : FileSystem} {extensions : List String}
  {answer answer' : Except Fault Nat}

/-- The states in which two runs take the step for a relation are alike. -/
theorem Stage.alike {around around' : Surroundings α} (stage : Stage around r s p u)
    (stage' : Stage around' r s q v) : Alike r p q where
  frame := by rw [stage'.frame, stage.frame]
  edges := by rw [stage.before, stage'.before]

/-- **A relation is isolated** from all that the filters do not need to agree on.  The stages of the relation in both
runs are alike, since what comes in front of it adds other edges only, and what comes behind it does not change it
either. -/
theorem relateAll_edgesOf_congr (complete : ∀ n ∈ s.nodes.toList, n.Complete)
    (run : s.relateAll ⟨fs, F, extensions⟩ = (u, answer))
    (run' : s.relateAll ⟨fs, G, extensions⟩ = (v, answer')) (agree : F.AgreeOn G r)
    (imports : r = .relatedTo → u.edgesOf .imports = v.edgesOf .imports) :
    u.edgesOf r = v.edgesOf r := by
  cases enabled : F.enables r with
  | false =>
      have enabled' : G.enables r = false := agree.enables ▸ enabled
      rw [edgesOf_of_disabled enabled complete run, edgesOf_of_disabled enabled' complete run']
  | true =>
      have enabled' : G.enables r = true := agree.enables ▸ enabled
      obtain ⟨p, stage⟩ := exists_stage enabled complete run
      obtain ⟨q, stage'⟩ := exists_stage enabled' complete run'
      rw [stage.after, stage'.after]
      refine ((stage.alike stage').relate agree ?_).edges
      rintro rfl
      rw [stage.earlier _ (by decide), stage'.earlier _ (by decide), imports rfl]

/-- The pairs within files are isolated from the imports as well, as they are found before the imports are looked at.
-/
theorem relateAll_withinFiles_congr (complete : ∀ n ∈ s.nodes.toList, n.Complete)
    (run : s.relateAll ⟨fs, F, extensions⟩ = (u, answer))
    (run' : s.relateAll ⟨fs, G, extensions⟩ = (v, answer')) (agree : F.AgreeWithinFiles G) :
    u.withinFiles = v.withinFiles := by
  cases enabled : F.enables .relatedTo with
  | false =>
      have enabled' : G.enables .relatedTo = false := agree.enabled.symm.trans enabled
      rw [withinFiles, edgesOf_of_disabled enabled complete run, withinFiles,
        edgesOf_of_disabled enabled' complete run']
  | true =>
      have enabled' : G.enables .relatedTo = true := agree.enabled.symm.trans enabled
      obtain ⟨p, stage⟩ := exists_stage enabled complete run
      obtain ⟨q, stage'⟩ := exists_stage enabled' complete run'
      have left : u.withinFiles = (p.relateSameFile ⟨fs, F, extensions⟩).1.withinFiles := by
        rw [← withinFiles_relateSimilar, withinFiles, stage.after]
        rfl
      have right : v.withinFiles = (q.relateSameFile ⟨fs, G, extensions⟩).1.withinFiles := by
        rw [← withinFiles_relateSimilar, withinFiles, stage'.after]
        rfl
      rw [left, right, withinFiles, withinFiles, ((stage.alike stage').relateSameFile agree).edges]

end BuildState

namespace Builder

variable [Scalar α]

/-- What two builds of one input have in common when they differ in their filters. -/
structure Isolated (F G : Filters α) (g g' : Graph α) : Prop where
  /-- Nodes do not depend on filters at all. -/
  nodes : g.nodes = g'.nodes
  /-- Edges depend on what their own relation is asked about. -/
  edges : ∀ r, F.AgreeOn G r → g.edgesOf r = g'.edgesOf r
  /-- Whether imports are built has no say in the similar pairs within files. -/
  withinFiles : F.AgreeWithinFiles G →
    (g.edgesOf .relatedTo).filter Edge.isWithinFile = (g'.edgesOf .relatedTo).filter Edge.isWithinFile

/-- **Filters isolate relations.**  Two builds that differ in their filters have the same nodes, and the same edges of
each relation that the filters agree on.  A relation that is enabled in neither build has no edges in both; one that
is enabled has its stage in both runs, and these are alike. -/
theorem filters_isolate (b : Builder α) {F G : Filters α} {fs : FileSystem} {now now' : String}
    {input : BuildInput} {g g' : Graph α} (h : (b.withFilters F).build fs now input = .ok g)
    (h' : (b.withFilters G).build fs now' input = .ok g') : Isolated F G g g' := by
  obtain ⟨imports, exports, s, u, built⟩ := build_eq_ok_iff.mp h
  obtain ⟨imports', exports', s', v, built'⟩ := build_eq_ok_iff.mp h'
  -- Up to the edges the two builds are one.
  obtain rfl : imports = imports' := Except.ok.inj (built.importMap.symm.trans built'.importMap)
  obtain rfl : exports = exports' := Except.ok.inj (built.exportMap.symm.trans built'.exportMap)
  obtain rfl : s = s' := Except.ok.inj (built.made.symm.trans built'.made)
  obtain ⟨count, run⟩ := built.relateAll
  obtain ⟨count', run'⟩ := built'.relateAll
  obtain ⟨new, adds⟩ := built.adds built.complete
  obtain ⟨new', adds'⟩ := built'.adds built.complete
  have edgesOf : ∀ r, g.edgesOf r = u.edgesOf r ∧ g'.edgesOf r = v.edgesOf r := by
    intro r
    rw [Graph.edgesOf, Graph.edgesOf, built.edges, built'.edges]
    exact ⟨rfl, rfl⟩
  refine ⟨?_, ?_, ?_⟩
  · rw [built.nodes, built'.nodes, adds.nodes, adds'.nodes]
  · intro r agree
    rw [(edgesOf r).1, (edgesOf r).2]
    refine BuildState.relateAll_edgesOf_congr built.complete run run' agree ?_
    rintro rfl
    exact BuildState.relateAll_edgesOf_congr built.complete run run' agree.imports (by simp)
  · intro agree
    rw [(edgesOf .relatedTo).1, (edgesOf .relatedTo).2]
    exact BuildState.relateAll_withinFiles_congr built.complete run run' agree

/-- Calls are built alike with containment and without it. -/
theorem filters_isolate_calls_from_containment :
    ∃ g g', sampleCalls (Filters.allEnabled 0) = .ok g ∧
      sampleCalls { (Filters.allEnabled 0 : Filters Rat) with enableContains := false } = .ok g' ∧
      (g.edgesOf .contains).length = 4 ∧ g'.edgesOf .contains = [] ∧
      (g.edgesOf .calls).length = 1 ∧ g.edgesOf .calls = g'.edgesOf .calls := by
  have finishes : (sampleCalls (Filters.allEnabled 0)).toOption.any (fun g =>
      (g.edgesOf .contains).length == 4 && (g.edgesOf .calls).length == 1) = true := by
    decide +kernel
  have finishes' : (sampleCalls
      { (Filters.allEnabled 0 : Filters Rat) with enableContains := false }).toOption.any
        (fun g => (g.edgesOf .contains).isEmpty) = true := by
    decide +kernel
  obtain ⟨g, h, counts⟩ := exists_ok_of_any_toOption finishes
  obtain ⟨g', h', none⟩ := exists_ok_of_any_toOption finishes'
  obtain ⟨contains, calls⟩ := Bool.and_eq_true_iff.mp counts
  exact ⟨g, g', h, h', by simpa using contains, by simpa using none, by simpa using calls,
    (filters_isolate (sample Rat .connectivity) h h').edges .calls ⟨rfl, rfl⟩⟩

end Builder

end CodeAtlas
