import CodeAtlas.Proofs.Outcome

/-!
# Which calls a graph has

A call is found by name: a function calls every retained function whose name stands in front of a parenthesis in
its snippet, in whatever file, other than functions of its own file and name.  `Calls` says this of two entities,
and `Builder.calls_exact` that the edges of a graph are these calls and no others.

An entity is retained under the text of its normalised absolute path (`locate`), so that two of them stand in one
file when their paths are one text.  Two retained entities with one id are one entity; this is why no edge joins a
node to itself.
-/

namespace CodeAtlas

/-- A function calls another one, as far as its snippet tells. -/
structure Calls (s t : Entity) : Prop where
  /-- Only functions call, and only functions are called. -/
  caller : s.elementType = "function"
  callee : t.elementType = "function"
  /-- The name stands in front of a parenthesis in the snippet; an entity without a snippet calls nothing. -/
  named : t.name ∈ CallSites.calledNames (s.snippet.getD "")
  /-- Functions of the caller's file and name are left out, so that no function calls itself. -/
  other : ¬ (s.filePath = t.filePath ∧ s.name = t.name)

variable {α : Type}

namespace Builder

/-- The entities of a build that have nodes of their own: the first one of each id.  A later entity with the same id
is placed in no node, and neither calls nor is called. -/
def retained (b : Builder α) (input : BuildInput) : List Entity :=
  firstOfEachId b.workspace (placedEntities b.workspace input.sources)

/-- Retained entities are told apart by their ids. -/
theorem nodup_retained (b : Builder α) (input : BuildInput) :
    ((b.retained input).map (idOf b.workspace)).Nodup := by
  rw [List.Nodup, List.pairwise_map]
  refine (pairwise_distinctBy _ _).imp ?_
  intro d e different
  simpa using different

/-- Entities with ids of their own are all retained. -/
theorem retained_eq_of_nodup {b : Builder α} {input : BuildInput}
    (distinct : ((placedEntities b.workspace input.sources).map (idOf b.workspace)).Nodup) :
    b.retained input = placedEntities b.workspace input.sources := by
  refine distinctBy_eq_self ?_
  rw [List.Nodup, List.pairwise_map] at distinct
  exact distinct.imp fun ne => beq_false_of_ne ne

end Builder

variable [Scalar α]

namespace BuildState

/-- **What is proposed are the calls** among the placed entities.  The program goes through callers, the names in
their snippets and the functions of each name; nothing is proposed twice for a pair unless its id is the same as well.
-/
theorem mem_callProposals {s : BuildState α} {e : Edge α} :
    e ∈ s.callProposals ↔ ∃ p ∈ s.placed, ∃ q ∈ s.placed,
      Calls p.entity q.entity ∧ callEdge p q q.entity.name = e := by
  simp only [callProposals, callees, functions, List.mem_flatMap, List.mem_map, List.mem_filter,
    beq_iff_eq, Bool.and_eq_true, Bool.not_eq_true']
  constructor
  · rintro ⟨p, ⟨hp, caller⟩, name, called, q, ⟨⟨hq, callee⟩, rfl, other⟩, rfl⟩
    refine ⟨p, hp, q, hq, ⟨caller, callee, called, ?_⟩, rfl⟩
    rintro ⟨file, same⟩
    simp [file, same] at other
  · rintro ⟨p, hp, q, hq, ⟨caller, callee, called, other⟩, rfl⟩
    refine ⟨p, ⟨hp, caller⟩, q.entity.name, called, q, ⟨⟨hq, callee⟩, rfl, ?_⟩, rfl⟩
    rw [Bool.and_eq_false_iff]
    by_contra both
    simp only [not_or, Bool.not_eq_false, beq_iff_eq] at both
    exact other ⟨both.1.symm, both.2.symm⟩

/-- Calls have weight one, so that the filters look only at whether the least weight lies above it. -/
theorem passes_callEdge (filters : Filters α) (p q : Placed) (name : String) :
    filters.passes (callEdge p q name) = !Scalar.lt (Scalar.ofNat 1) filters.minRelationWeight := rfl

end BuildState

variable {s u : BuildState α}

namespace Builder

variable {b : Builder α} {fs : FileSystem} {now : String} {input : BuildInput}
  {imports exports : FileMap} {g : Graph α}

/-- The table of placed entities holds the retained ones with their ids. -/
theorem Built.placed (built : Built b fs now input imports exports s u g) :
    s.placed = (b.retained input).map fun e => ⟨e, idOf b.workspace e⟩ := built.grown.placed

/-- The code elements are the nodes of the retained entities, in order. -/
theorem Built.elements (built : Built b fs now input imports exports s u g) :
    s.nodesOf .codeElement = (b.retained input).map (entityNode (b.initialState imports exports)) := by
  rw [built.grown.elements, built.placed, List.map_map]
  rfl

/-- A retained entity has its node, so that no call between two of them is refused for a missing end. -/
theorem Built.contains_idOf (built : Built b fs now input imports exports s u g) {e : Entity}
    (mem : e ∈ b.retained input) : s.nodes.contains (idOf b.workspace e) = true :=
  built.grown.registered e (mem_of_mem_distinctBy mem)

/-- What is proposed in a build are the calls among its retained entities. -/
theorem Built.proposed_calls (built : Built b fs now input imports exports s u g)
    (around : Surroundings α) {e : Edge α} :
    .ok e ∈ s.proposed around .calls ↔ ∃ c ∈ b.retained input, ∃ d ∈ b.retained input, Calls c d ∧
      BuildState.callEdge ⟨c, idOf b.workspace c⟩ ⟨d, idOf b.workspace d⟩ d.name = e := by
  have given : .ok e ∈ s.proposed around .calls ↔ e ∈ s.callProposals := by
    simp [BuildState.proposed]
  rw [given, BuildState.mem_callProposals, built.placed]
  simp only [List.mem_map, exists_exists_and_eq_and]

/-! ## The edges of a build -/

variable {t : BuildState α}

/-- **Every edge is a call.**  A build starts without edges, so that an edge of the relation has been proposed by its
step. -/
theorem Built.call_of_mem (built : Built b fs now input imports exports s u g)
    {around : Surroundings α} (stage : BuildState.Stage around .calls s t u) {e : Edge α}
    (mem : e ∈ u.edgesOf .calls) : ∃ c ∈ b.retained input, ∃ d ∈ b.retained input, Calls c d ∧
      BuildState.callEdge ⟨c, idOf b.workspace c⟩ ⟨d, idOf b.workspace d⟩ d.name = e :=
  (built.proposed_calls around).mp
    (stage.proposed_of_mem (by decide) (built.edgesOf_eq_nil .calls) mem)

/-- A least weight above the weight of calls keeps all of them out. -/
theorem Built.calls_eq_nil (built : Built b fs now input imports exports s u g)
    {around : Surroundings α} (stage : BuildState.Stage around .calls s t u)
    (above : Scalar.lt (Scalar.ofNat 1) around.filters.minRelationWeight = true) :
    u.edgesOf .calls = [] := by
  rw [stage.edgesOf_eq (by decide), BuildState.foldl_offer_eq_of_not_passes, stage.before,
    built.edgesOf_eq_nil]
  intro e mem
  obtain ⟨c, -, d, -, -, rfl⟩ := (built.proposed_calls around).mp (BuildState.mem_of_mem_reached mem)
  rw [BuildState.passes_callEdge, above]
  rfl

/-- **Every call is an edge** otherwise.  It passes the filters by its weight, and both its ends are nodes; the edge
may be an earlier one with the same id. -/
theorem Built.exists_call (built : Built b fs now input imports exports s u g)
    {around : Surroundings α} (stage : BuildState.Stage around .calls s t u)
    (below : Scalar.lt (Scalar.ofNat 1) around.filters.minRelationWeight = false) {c d : Entity}
    (hc : c ∈ b.retained input) (hd : d ∈ b.retained input) (call : Calls c d) :
    ∃ e ∈ u.edgesOf .calls, e.id = Edge.idOf (idOf b.workspace c) (idOf b.workspace d) .calls := by
  have proposed := (built.proposed_calls around).mpr ⟨c, hc, d, hd, call, rfl⟩
  have passes : around.filters.passes (BuildState.callEdge ⟨c, idOf b.workspace c⟩
      ⟨d, idOf b.workspace d⟩ d.name) = true := by
    rw [BuildState.passes_callEdge, below]
    rfl
  obtain ⟨e, mem, same⟩ := stage.exists_edge_of_proposed (by decide) built.complete proposed passes
    (built.contains_idOf hc) (built.contains_idOf hd)
  exact ⟨e, mem, same⟩

/-- The edges are the calls among the retained entities of a build.  The ids tell which calls are there, in both
directions; the other clauses are about the edges one by one. -/
structure ExactCalls (b : Builder α) (input : BuildInput) (edges : List (Edge α)) : Prop where
  /-- A least weight above the weight of calls keeps all of them out. -/
  none : Scalar.lt (Scalar.ofNat 1) b.filters.minRelationWeight = true → edges = []
  /-- With any other one every call is there, and nothing else. -/
  ids : Scalar.lt (Scalar.ofNat 1) b.filters.minRelationWeight = false → ∀ id,
    id ∈ edges.map Edge.id ↔ ∃ c ∈ b.retained input, ∃ d ∈ b.retained input,
      Calls c d ∧ id = Edge.idOf (idOf b.workspace c) (idOf b.workspace d) .calls
  /-- No call is there twice, however often its name stands in the snippet. -/
  nodup : (edges.map Edge.id).Nodup
  /-- A call weighs as much as an edge can. -/
  weight : ∀ e ∈ edges, e.weight = Scalar.ofNat 1
  /-- No call leads from a node to itself. -/
  apart : ∀ e ∈ edges, e.source ≠ e.target

/-- **The calls of a graph are exactly those that its sources tell of.**  For an edge there is a call by `call_of_mem`
and for a call an edge by `exists_call`, both at the stage of the relation; that no id is there twice is in the
catalog of edges itself. -/
theorem calls_exact (enabled : b.filters.enableCalls = true) (h : b.build fs now input = .ok g) :
    ExactCalls b input (g.edgesOf .calls) := by
  obtain ⟨imports, exports, s, u, built⟩ := build_eq_ok_iff.mp h
  obtain ⟨count, run⟩ := built.relateAll
  have enables : b.filters.enables .calls = true := enabled
  obtain ⟨t, stage⟩ := BuildState.exists_stage enables built.complete run
  have edges : g.edgesOf .calls = u.edgesOf .calls := by
    rw [Graph.edgesOf, built.edges]
    rfl
  rw [edges]
  refine ⟨built.calls_eq_nil stage, ?_, ?_, ?_, ?_⟩
  · intro below id
    rw [List.mem_map]
    constructor
    · rintro ⟨e, mem, rfl⟩
      obtain ⟨c, hc, d, hd, call, rfl⟩ := built.call_of_mem stage mem
      exact ⟨c, hc, d, hd, call, rfl⟩
    · rintro ⟨c, hc, d, hd, call, rfl⟩
      exact built.exists_call stage below hc hd call
  · exact u.edges.nodup.sublist (List.filter_sublist.map _)
  · intro e mem
    obtain ⟨c, -, d, -, -, rfl⟩ := built.call_of_mem stage mem
    rfl
  · intro e mem same
    obtain ⟨c, hc, d, hd, call, rfl⟩ := built.call_of_mem stage mem
    -- Retained entities are told apart by their ids, so that this one would call itself.
    obtain rfl := List.inj_on_of_nodup_map (b.nodup_retained input) hc hd same
    exact call.other ⟨rfl, rfl⟩

/-- The call of the other function is an edge, and that of the function itself is not. -/
theorem calls_exact_of_two_functions :
    (Filters.allEnabled 0 : Filters Rat).enableCalls = true ∧
      ∃ g, sampleCalls (Filters.allEnabled 0) = .ok g ∧
        ExactCalls ((sample Rat .connectivity).withFilters (Filters.allEnabled 0)) callingInput
          (g.edgesOf .calls) ∧
        (g.edgesOf .calls).map Edge.id
          = ["entity:a.ts:function:f:1->entity:b.ts:function:g:1:CALLS"] := by
  have finishes : (sampleCalls (Filters.allEnabled 0)).toOption.any (fun g =>
      (g.edgesOf .calls).map Edge.id
        == ["entity:a.ts:function:f:1->entity:b.ts:function:g:1:CALLS"]) = true := by
    decide +kernel
  obtain ⟨g, h, ids⟩ := exists_ok_of_any_toOption finishes
  exact ⟨rfl, g, h, calls_exact rfl h, by simpa using ids⟩

end Builder

end CodeAtlas
