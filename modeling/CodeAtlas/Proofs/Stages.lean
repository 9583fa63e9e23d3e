import CodeAtlas.Proofs.Relations
import Mathlib.Data.List.TakeWhile

/-!
# One step for each relation

The edges of a build are made relation by relation, in the order of `Relation.all`, by the step `relate` of each
relation that the filters enable.  All steps but the one for similarity offer a list of edges (`proposed`) that
depends on the nodes, the placed entities and the tables, and on no edge.

A step adds edges of its own relation only, so that a whole run can be cut open at any relation
(`relateAll_split`): a front part adds edges of earlier relations, the step adds its own, and the rest adds edges
of later ones.  For a relation that is enabled, `Stage` is what is left of a run: the state in which its step was
taken, which differs from the first one in edges of earlier relations alone, and the edges of the relation at the
end, which are those that this step has left.  So the edges of a relation at the end of a run are its proposals,
up to those that do not pass the filters and those whose id an earlier one has.
-/

namespace CodeAtlas

variable {α : Type}

/-- Whether the filters have a relation built. -/
def Filters.enables (filters : Filters α) : Relation → Bool
  | .contains => filters.enableContains
  | .definedIn => filters.enableDefinedIn
  | .imports => filters.enableImportsExports
  | .calls => filters.enableCalls
  | .relatedTo => filters.enableSemanticRelated

namespace Relation

/-- The relations whose steps come first. -/
def before (r : Relation) : List Relation := all.takeWhile (· != r)

/-- The relations whose steps come later. -/
def behind (r : Relation) : List Relation := (all.dropWhile (· != r)).tail

/-- A relation splits the order of all of them into those before it, itself, and those behind it. -/
theorem all_eq (r : Relation) : all = r.before ++ r :: r.behind := by
  cases r <;> rfl

/-- No relation is listed twice, so that what stands before a relation does not stand behind it. -/
theorem nodup_all : all.Nodup := by
  decide

/-- A relation does not come before itself. -/
theorem ne_of_mem_before {r r' : Relation} (mem : r' ∈ r.before) : r' ≠ r :=
  bne_iff_ne.mp (List.mem_takeWhile_imp (p := (· != r)) mem)

end Relation

namespace BuildState

variable [Scalar α] {around : Surroundings α} {s t u : BuildState α}

/-! ## One step -/

/-- What the step for a relation offers.  Similar entities are offered in two parts, the second of which looks at
what the first one has left, and are not among them. -/
def proposed (around : Surroundings α) (s : BuildState α) : Relation → List (Except Fault (Edge α))
  | .contains => proposals s.containmentDrafts
  | .definedIn => proposals s.definitionDrafts
  | .imports => (s.importProposals around).map .ok
  | .calls => s.callProposals.map .ok
  | .relatedTo => []

/-- The step for a relation. -/
def relate (around : Surroundings α) : Relation → BuildState α → StepResult α
  | .contains => relateContains around
  | .definedIn => relateDefinedIn around
  | .imports => relateImports around
  | .calls => relateCalls around
  | .relatedTo => relateSimilar around

/-- All steps but the one for similarity offer what they propose, and do nothing else. -/
theorem relate_eq_offerAll (around : Surroundings α) (s : BuildState α) {r : Relation}
    (ne : r ≠ .relatedTo) : relate around r s = s.offerAll around.filters (s.proposed around r) := by
  cases r with
  | contains => rfl
  | definedIn => rfl
  | imports => rfl
  | calls => rfl
  | relatedTo => exact absurd rfl ne

/-- A step proposes edges of its own relation, with the full weight.  By the kinds of proposals: each of them is made
by one function, and none of these has a relation or a weight to choose. -/
theorem unscored_of_mem_proposed {s : BuildState α} {r : Relation} {e : Edge α}
    (mem : .ok e ∈ s.proposed around r) : e.Unscored r := by
  cases r with
  | contains =>
      obtain ⟨n, -, -, draft⟩ := mem_containmentDrafts.mp (mem_proposals.mp mem)
      obtain ⟨source, target, description, line, rfl⟩ := containmentDraft_eq_some draft
      exact unscored_structuralEdge source target .contains description line
  | definedIn =>
      obtain ⟨n, -, draft⟩ := List.mem_map.mp (mem_proposals.mp mem)
      obtain ⟨file, kind, rfl⟩ := elementProposal_eq_some draft
      exact unscored_structuralEdge n.id file.id .definedIn _ n.startLine
  | imports =>
      obtain ⟨e', given, eq⟩ := List.mem_map.mp mem
      exact unscored_of_mem_importProposals (Except.ok.inj eq ▸ given)
  | calls =>
      obtain ⟨e', given, eq⟩ := List.mem_map.mp mem
      exact unscored_of_mem_callProposals (Except.ok.inj eq ▸ given)
  | relatedTo => cases mem

/-- A step meets no fault in what it proposes wherever every node has the fields of its kind.  Only the two structural
relations could, which read the fields of nodes; the others make their edges from the tables. -/
theorem proposed_ok {s : BuildState α} (complete : ∀ n ∈ s.nodes.toList, n.Complete)
    (around : Surroundings α) (r : Relation) : ∀ p ∈ s.proposed around r, ∃ e, p = .ok e := by
  have given : ∀ edges : List (Edge α), ∀ p ∈ edges.map (Except.ok (ε := Fault)), ∃ e, p = .ok e := by
    intro edges p mem
    obtain ⟨e, -, rfl⟩ := List.mem_map.mp mem
    exact ⟨e, rfl⟩
  cases r with
  | contains => exact proposals_ok (containmentDrafts_ok complete)
  | definedIn => exact proposals_ok (definitionDrafts_ok complete)
  | imports => exact given _
  | calls => exact given _
  | relatedTo => exact fun p mem => nomatch mem

/-- What is proposed does not depend on the edges that are there.  So the proposals of a step in the middle of a run
may be looked at in the state that the nodes have left. -/
theorem proposed_congr (frame : t = { s with edges := t.edges }) (r : Relation) :
    t.proposed around r = s.proposed around r := by
  rw [frame]
  cases r <;> rfl

/-- Neither do the filters have a say in it. -/
theorem proposed_withFilters (around : Surroundings α) (F : Filters α) (s : BuildState α) (r : Relation) :
    s.proposed { around with filters := F } r = s.proposed around r := by
  cases r <;> rfl

/-- A step offers what it proposes. -/
theorem offered_relate (around : Surroundings α) {r : Relation} (ne : r ≠ .relatedTo)
    (complete : ∀ n ∈ s.nodes.toList, n.Complete) :
    ∃ t count, relate around r s = (t, .ok count) ∧ Offered s (reached (s.proposed around r)) t count := by
  obtain ⟨t, count, run, offered⟩ := offered_offerAll around.filters s (proposed_ok complete around r)
  exact ⟨t, count, by rw [relate_eq_offerAll around s ne, run], offered⟩

/-- Similar entities are offered in two parts, and counted together. -/
theorem offered_relateSimilar (around : Surroundings α) (s : BuildState α) :
    ∃ t count proposals, relate around .relatedTo s = (t, .ok count) ∧ Offered s proposals t count ∧
      ∀ e ∈ proposals, e.relation = .relatedTo := by
  -- Pairs across files are proposed in the state that the pairs within files have left.
  have same := offered_relateSameFile around s
  have cross := offered_relateCrossFile around (s.relateSameFile around).1
  refine ⟨_, _, _, relateSimilar_eq around s, same.append cross, ?_⟩
  intro e mem
  rcases List.mem_append.mp mem with within | across
  · exact relation_of_mem_sameFileProposals within
  · obtain ⟨pair, -, proposed⟩ := List.mem_filterMap.mp across
    exact relation_of_crossFileProposal proposed

/-- **A step adds edges of its own relation**, and meets no fault wherever every node has the fields of its kind.
This is the step lemma of the module; what follows about runs is induction over the list of steps. -/
theorem relates_relate (around : Surroundings α) (r : Relation) : Relates (·.relation = r) (relate around r) := by
  refine relates_of_offered fun s complete => ?_
  by_cases similar : r = .relatedTo
  · subst similar
    exact offered_relateSimilar around s
  · obtain ⟨t, count, run, offered⟩ := offered_relate around similar complete
    exact ⟨t, count, _, run, offered, fun e mem =>
      (unscored_of_mem_proposed (mem_of_mem_reached mem)).relation⟩

/-- **A step adds edges, whether or not it meets a fault.**  Here the nodes may be any at all: what was offered in
front of the fault stays, and is offered in the same way. -/
theorem adds_relate (around : Surroundings α) (r : Relation) (s : BuildState α) :
    ∃ new, Adds s new (relate around r s).1 := by
  by_cases similar : r = .relatedTo
  · subst similar
    obtain ⟨new, adds, -⟩ := offered_relateSameFile around s
    obtain ⟨more, adds', -⟩ := offered_relateCrossFile around (s.relateSameFile around).1
    refine ⟨new ++ more, ?_⟩
    rw [relate, relateSimilar_eq]
    dsimp only
    exact adds.trans adds'
  · rw [relate_eq_offerAll around s similar]
    exact adds_offerAll around.filters s _

/-! ## Runs -/

/-- The steps of a run are those of the enabled relations, in the order of all relations. -/
theorem enabledSteps_eq (around : Surroundings α) :
    enabledSteps around = (Relation.all.filter around.filters.enables).map (relate around) := by
  rw [← List.filterMap_eq_map, List.filterMap_filter]
  rfl

/-- The step for an enabled relation has those of the enabled relations in front of it and behind it. -/
theorem enabledSteps_split {r : Relation} (enabled : around.filters.enables r = true) :
    enabledSteps around = (r.before.filter around.filters.enables).map (relate around)
      ++ relate around r :: (r.behind.filter around.filters.enables).map (relate around) := by
  rw [enabledSteps_eq, r.all_eq, List.filter_append, List.filter_cons_of_pos enabled,
    List.map_append, List.map_cons]

/-- The steps for some relations add edges of these relations, as `relates_relate` says of each of them and
`runSteps_adds` of steps that follow each other. -/
theorem runSteps_relate (around : Surroundings α) (rs : List Relation)
    (complete : ∀ n ∈ s.nodes.toList, n.Complete) :
    ∃ t new, s.runSteps (rs.map (relate around)) = (t, none) ∧ Adds s new t ∧
      ∀ e ∈ new, e.relation ∈ rs := by
  refine runSteps_adds (P := (·.relation ∈ rs)) _ ?_ complete
  intro step mem
  obtain ⟨r, hr, rfl⟩ := List.mem_map.mp mem
  exact (relates_relate around r).mono (by rintro e rfl; exact hr)

/-- What the steps keep, a whole run keeps. -/
theorem relateAll_keeps {P : BuildState α → Prop} (keeps : ∀ r s, P s → P (relate around r s).1)
    (start : P s) : P (s.relateAll around).1 := by
  have all : P (s.runSteps (enabledSteps around)).1 := by
    refine runSteps_keeps _ (fun step mem => ?_) start
    rw [enabledSteps_eq] at mem
    obtain ⟨r, -, rfl⟩ := List.mem_map.mp mem
    exact keeps r
  unfold relateAll
  split <;> next ended => rwa [ended] at all

/-- A whole run adds edges, also where it stops at a fault. -/
theorem adds_relateAll (around : Surroundings α) (s : BuildState α) :
    ∃ new, Adds s new (s.relateAll around).1 := by
  refine relateAll_keeps (P := fun t => ∃ new, Adds s new t) ?_ ⟨[], Adds.refl s⟩
  rintro r t ⟨new, adds⟩
  obtain ⟨more, adds'⟩ := adds_relate around r t
  exact ⟨new ++ more, adds.trans adds'⟩

/-- **The edges of a build can always be made**, wherever every node has the fields of its kind, and they are of
enabled relations.  The answer of the run is the number of edges in the end, which no step has to be asked for. -/
theorem relateAll_ok (around : Surroundings α) (complete : ∀ n ∈ s.nodes.toList, n.Complete) :
    ∃ t new, s.relateAll around = (t, .ok t.edges.size) ∧ Adds s new t ∧
      ∀ e ∈ new, around.filters.enables e.relation = true := by
  obtain ⟨t, new, run, adds, relations⟩ :=
    runSteps_relate around (Relation.all.filter around.filters.enables) complete
  refine ⟨t, new, ?_, adds, fun e mem => (List.mem_filter.mp (relations e mem)).2⟩
  rw [relateAll, enabledSteps_eq, run]

/-- **A run is cut open at an enabled relation.**  In front of its step stands a run of the relations before it,
behind it one of the relations behind it, and as neither adds an edge of the relation itself, everything about these
edges can be said of the one step. -/
theorem relateAll_split {r : Relation} (enabled : around.filters.enables r = true)
    (complete : ∀ n ∈ s.nodes.toList, n.Complete) :
    ∃ t u new more, s.relateAll around = (u, .ok u.edges.size) ∧
      s.runSteps ((r.before.filter around.filters.enables).map (relate around)) = (t, none) ∧
      Adds s new t ∧ (∀ e ∈ new, e.relation ∈ r.before) ∧
      Adds (relate around r t).1 more u ∧ ∀ e ∈ more, e.relation ∈ r.behind := by
  obtain ⟨t, new, run, adds, earlier⟩ :=
    runSteps_relate around (r.before.filter around.filters.enables) complete
  have complete' : ∀ n ∈ t.nodes.toList, n.Complete := by rwa [adds.nodes]
  obtain ⟨v, count, own, step, adds', -⟩ := relates_relate around r t complete'
  have complete'' : ∀ n ∈ v.nodes.toList, n.Complete := by rwa [adds'.nodes]
  obtain ⟨u, more, rest, adds'', later⟩ :=
    runSteps_relate around (r.behind.filter around.filters.enables) complete''
  refine ⟨t, u, new, more, ?_, run, adds, fun e mem => (List.mem_filter.mp (earlier e mem)).1, ?_,
    fun e mem => (List.mem_filter.mp (later e mem)).1⟩
  · rw [relateAll, enabledSteps_split enabled, runSteps_append run, runSteps, step]
    simp only [rest]
  · rwa [step]

/-- Where the step for a relation stands in a run from `s` to `u`: it is taken in the state `t`. -/
structure Stage (around : Surroundings α) (r : Relation) (s t u : BuildState α) : Prop where
  /-- Only edges have been added so far. -/
  frame : t = { s with edges := t.edges }
  /-- No step before it has added edges of the relation, -/
  before : t.edgesOf r = s.edgesOf r
  /-- none behind it has, -/
  after : u.edgesOf r = (relate around r t).1.edgesOf r
  /-- and the edges of the earlier relations are all there. -/
  earlier : ∀ r' ∈ r.before, t.edgesOf r' = u.edgesOf r'

/-- **Every enabled relation has its stage.**  The cut of `relateAll_split`, told in terms of the edges of each
relation: as no relation stands on both sides of the cut, the relations before it have all their edges and those
behind it none yet. -/
theorem exists_stage {r : Relation} (enabled : around.filters.enables r = true)
    (complete : ∀ n ∈ s.nodes.toList, n.Complete) {answer : Except Fault Nat}
    (run : s.relateAll around = (u, answer)) : ∃ t, Stage around r s t u := by
  obtain ⟨t, u', new, more, run', -, adds, earlier, adds', later⟩ := relateAll_split enabled complete
  obtain rfl : u' = u := congrArg Prod.fst (run'.symm.trans run)
  have complete' : ∀ n ∈ t.nodes.toList, n.Complete := by rwa [adds.nodes]
  obtain ⟨v, count, own, step, adds'', -, relations⟩ := relates_relate around r t complete'
  have nodup := Relation.nodup_all
  rw [r.all_eq, List.nodup_append, List.nodup_cons] at nodup
  obtain ⟨-, ⟨notBack, -⟩, apart⟩ := nodup
  refine ⟨t, adds.frame, adds.edgesOf_eq ?_, adds'.edgesOf_eq ?_, ?_⟩
  · exact fun e mem eq => apart _ (earlier e mem) r List.mem_cons_self eq
  · exact fun e mem eq => notBack (eq ▸ later e mem)
  · intro r' mem
    rw [step] at adds'
    rw [adds'.edgesOf_eq, adds''.edgesOf_eq]
    · exact fun e own eq => apart _ mem r List.mem_cons_self (eq ▸ relations e own)
    · exact fun e behind eq => apart _ mem _ (List.mem_cons_of_mem r (later e behind)) eq.symm

namespace Stage

variable {r : Relation}

/-- What the step proposes could be read off the first state. -/
theorem proposed_eq (stage : Stage around r s t u) (r' : Relation) :
    t.proposed around r' = s.proposed around r' := proposed_congr stage.frame r'

/-- The edges of a relation are what is left of its proposals, offered one by one. -/
theorem edgesOf_eq (stage : Stage around r s t u) (ne : r ≠ .relatedTo) :
    u.edgesOf r
      = ((reached (s.proposed around r)).foldl (offer around.filters) (t, 0)).1.edgesOf r := by
  rw [stage.after, relate_eq_offerAll around t ne, offerAll_fst, stage.proposed_eq]

/-- **Nothing else than what is proposed** becomes an edge.  It is here that the relation must have had no edges
before the run: a second run keeps those of the first. -/
theorem proposed_of_mem (stage : Stage around r s t u) (ne : r ≠ .relatedTo)
    (start : s.edgesOf r = []) {e : Edge α} (mem : e ∈ u.edgesOf r) : .ok e ∈ s.proposed around r := by
  rw [stage.edgesOf_eq ne] at mem
  rw [← stage.before] at start
  exact mem_of_mem_reached (mem_of_mem_edgesOf_foldl_offer around.filters start mem)

/-- The edges of a relation pass the filters: an edge is looked at when it is offered, and not changed afterwards. -/
theorem passes_of_mem (stage : Stage around r s t u) (ne : r ≠ .relatedTo) (start : s.edgesOf r = [])
    {e : Edge α} (mem : e ∈ u.edgesOf r) : around.filters.passes e = true := by
  rw [stage.edgesOf_eq ne] at mem
  obtain ⟨there, relation⟩ := mem_edgesOf.mp mem
  rcases mem_edges_foldl_offer there with old | ⟨-, passes⟩
  · rw [← stage.before] at start
    exact absurd (mem_edgesOf.mpr ⟨old, relation⟩) (start ▸ List.not_mem_nil)
  · exact passes

/-- **A proposal between nodes that passes the filters becomes an edge**, by itself or by an earlier one with its id.
That earlier edge is of the same relation, since the id tells the relation. -/
theorem exists_edge_of_proposed (stage : Stage around r s t u) (ne : r ≠ .relatedTo)
    (complete : ∀ n ∈ s.nodes.toList, n.Complete) {e : Edge α} (mem : .ok e ∈ s.proposed around r)
    (passes : around.filters.passes e = true) (source : s.nodes.contains e.source = true)
    (target : s.nodes.contains e.target = true) : ∃ e' ∈ u.edgesOf r, e'.id = e.id := by
  have nodes : t.nodes = s.nodes := by rw [stage.frame]
  rw [← nodes] at source target
  have there := mem_reached_of_ok (proposed_ok complete around r) mem
  have taken := contains_foldl_offer around.filters (t, 0) there passes source target
  rw [contains_iff_edgesOf, (unscored_of_mem_proposed mem).relation, ← stage.edgesOf_eq ne] at taken
  exact taken

end Stage

/-- A relation that is not enabled gets no edges: all that a run adds are of enabled relations. -/
theorem edgesOf_of_disabled {r : Relation} (disabled : around.filters.enables r = false)
    (complete : ∀ n ∈ s.nodes.toList, n.Complete) {answer : Except Fault Nat}
    (run : s.relateAll around = (u, answer)) : u.edgesOf r = s.edgesOf r := by
  obtain ⟨u', new, run', adds, relations⟩ := relateAll_ok around complete
  obtain rfl : u' = u := congrArg Prod.fst (run'.symm.trans run)
  refine adds.edgesOf_eq fun e mem eq => ?_
  rw [← eq, relations e mem] at disabled
  cases disabled

end BuildState

end CodeAtlas
