import CodeAtlas.Proofs.EdgeIds
import CodeAtlas.Proofs.Similar

/-!
# More input, more output

A build that is given more entities has all the nodes of the smaller one, and all its edges.  What a node or an edge
stands for is told by a few entities: a file by an entity in it, a call by two functions, and so on.  So an input in
which all the entities of another one occur, and all its retained ones are retained, leads to all of its nodes and
edges of the first four relations, in whatever order they come (`Within`).

Similar entities are related in the direction in which they were seen, so that here the further entities have to
come behind.  There must be no more of them across files than the limit allows, and the files that take part in
imports have to be told from the imports, which is to say by ids without an arrow.

## Outline

Each relation has its own theorem that says which edges a graph has: containment by `Hung`, definitions by the two
lemmas here, calls, imports and similar entities by their modules.  `Within.exists_edge` goes through the relations,
takes an edge of the smaller build for what it stands for, and finds this in the larger one.  So no two runs are
compared step by step, which would not do: an edge may be taken up at another point of the larger run, or be refused
there for an earlier one of its id.
-/

namespace CodeAtlas

/-- A kind of place has one mark. -/
theorem PlaceMark.mark_eq {kind : NodeKind} {mark mark' : String} (h : PlaceMark kind mark)
    (h' : PlaceMark kind mark') : mark = mark' := by
  cases h <;> cases h' <;> rfl

namespace Shape

variable {n n' : Node}

/-- The path of a place stands in its id, behind the mark of its kind. -/
theorem exists_place (h : Shape n) (ne : n.kind ≠ .project) (place : n.kind ≠ .codeElement) :
    ∃ mark path, PlaceMark n.kind mark ∧ n.relativePath = some path ∧ n.id = mark ++ path := by
  cases h with
  | project kind => exact absurd kind ne
  | top kind path id => exact ⟨_, _, kind, path, id⟩
  | below kind path id => exact ⟨_, _, kind, path, id⟩
  | element kind => exact absurd kind place

/-- What contains a place can be told from its kind and id, since the id shows the path. -/
theorem containerOf_eq (h : Shape n) (h' : Shape n') (kind : n'.kind = n.kind) (id : n'.id = n.id)
    (ne : n.kind ≠ .project) (place : n.kind ≠ .codeElement) : containerOf n' = containerOf n := by
  obtain ⟨mark, path, marked, relative, spelled⟩ := h.exists_place ne place
  obtain ⟨mark', path', marked', relative', spelled'⟩ := h'.exists_place (kind ▸ ne) (kind ▸ place)
  rw [kind] at marked'
  obtain rfl := marked'.mark_eq marked
  rw [spelled, spelled', String.append_right_inj] at id
  rw [containerOf, containerOf, kind, relative, relative', id]

end Shape

namespace Builder

variable {α : Type} {b : Builder α} {fs : FileSystem} {now now' : String} {input input' : BuildInput}

/-- What one input gives a build to work on, another one gives as well.  No order is asked for, so that permutations
are a case of it as well as sources that come behind. -/
structure Within (b : Builder α) (input input' : BuildInput) : Prop where
  /-- Its placed entities are placed, -/
  placed : placedEntities b.workspace input.sources ⊆ placedEntities b.workspace input'.sources
  /-- those that it retains are retained, -/
  retained : b.retained input ⊆ b.retained input'
  /-- and it comes with the same imports. -/
  imports : input.imports = input'.imports

/-- The files of the smaller input are files of the larger one. -/
theorem Within.files (within : Within b input input') : b.files input ⊆ b.files input' :=
  List.map_subset _ within.placed

variable [Scalar α] {imports exports imports' exports' : FileMap} {s u s' u' : BuildState α} {g g' : Graph α}

/-! ## Nodes -/

/-- **The nodes of the smaller input** have their ids in the larger one.  By what an id is made of in the larger
build: the project, an entity, its file, or a directory on the way to one. -/
theorem Within.contains (within : Within b input input') (absolute : b.workspace.isAbsolute = true)
    (built : Built b fs now input imports exports s u g)
    (built' : Built b fs now' input' imports' exports' s' u' g') {id : String}
    (there : s.nodes.contains id = true) : s'.nodes.contains id = true := by
  obtain ⟨n, node, rfl⟩ := List.mem_map.mp (Catalog.contains_eq_true_iff.mp there)
  have populated' := built'.populated absolute
  cases built.grown.origin n node with
  | project made =>
      rw [(projectNode_shape made).1]
      exact populated'.indexed.project
  | file group made =>
      obtain ⟨⟨e, given, path⟩, -⟩ := mem_byFile.mp group
      obtain ⟨n', -, id, there'⟩ := built'.exists_fileNode absolute (List.mem_map_of_mem (within.placed given))
      rw [(fileNode_shape made).1, ← path]
      rwa [id] at there'
  | @directory group segments file above =>
      obtain ⟨⟨e, given, path⟩, -⟩ := mem_byFile.mp file
      have known : group.1 ∈ ((b.initialState imports' exports').byFile
          (placedEntities b.workspace input'.sources)).map Prod.fst :=
        mem_paths_byFile.mpr ⟨e, within.placed given, path⟩
      obtain ⟨group', file', same⟩ := List.mem_map.mp known
      rw [← same] at above
      obtain ⟨n', found, id⟩ := populated'.directoryNode? file' above
      obtain ⟨_, there'⟩ := find?_of_registered? found
      obtain ⟨node', -⟩ := Catalog.find?_eq_some_iff.mp there'
      exact Catalog.contains_eq_true_iff.mpr (List.mem_map.mpr ⟨n', node', id⟩)
  | element given => exact built'.grown.registered _ (within.placed given)

/-- A node of the smaller input has one of its id and container in the larger input.  It need not be the same node:
what it shows besides may depend on further entities. -/
theorem Within.exists_node (within : Within b input input') (absolute : b.workspace.isAbsolute = true)
    (built : Built b fs now input imports exports s u g)
    (built' : Built b fs now' input' imports' exports' s' u' g') {n : Node} (node : n ∈ s.nodes.toList)
    (ne : n.kind ≠ .project) :
    ∃ n' ∈ s'.nodes.toList, n'.kind ≠ .project ∧ n'.id = n.id ∧ containerOf n' = containerOf n := by
  by_cases element : n.kind = .codeElement
  · -- It is the node of a retained entity, and this one is retained in the larger input.
    have mem : n ∈ s.nodesOf .codeElement := BuildState.mem_nodesOf.mpr ⟨node, element⟩
    rw [built.elements] at mem
    obtain ⟨e, retained, rfl⟩ := List.mem_map.mp mem
    have mem' : entityNode (b.initialState imports' exports') e ∈ s'.nodesOf .codeElement := by
      rw [built'.elements]
      exact List.mem_map_of_mem (within.retained retained)
    obtain ⟨node', kind⟩ := BuildState.mem_nodesOf.mp mem'
    exact ⟨_, node', by simp [kind], rfl, rfl⟩
  · have there : s.nodes.contains n.id = true :=
      Catalog.contains_eq_true_iff.mpr (List.mem_map_of_mem node)
    obtain ⟨n', node', id⟩ := List.mem_map.mp
      (Catalog.contains_eq_true_iff.mp (within.contains absolute built built' there))
    have kind := (built'.grown.origin n' node').kind_eq (built.grown.origin n node) id
    exact ⟨n', node', kind ▸ ne, id,
      (built.shape absolute node).containerOf_eq (built'.shape absolute node') kind id ne element⟩

/-! ## Definitions -/

/-- Every retained entity is proposed to be defined in its file, and nothing else is. -/
theorem Built.elementDefined (built : Built b fs now input imports exports s u g)
    (absolute : b.workspace.isAbsolute = true) {c : Entity} (mem : c ∈ b.retained input) :
    ∃ e : Edge α, s.elementDefined (entityNode (b.initialState imports exports) c) = .ok (some e) ∧
      e.relation = .definedIn ∧ e.source = idOf b.workspace c ∧
      e.target = fileIdOf b.workspace (b.workspace.absolute c.filePath) ∧
      s.nodes.contains e.target = true := by
  obtain ⟨file, found, id, there⟩ := built.exists_fileNode absolute
    (List.mem_map_of_mem (mem_of_mem_distinctBy mem))
  have node : (entityNode (b.initialState imports exports) c).absolutePath.bind s.fileNode? = some file := found
  rw [BuildState.elementDefined, BuildState.elementProposal, node]
  exact ⟨_, rfl, rfl, rfl, id, there⟩

/-- The drafts of definitions are those of the retained entities, in order. -/
theorem Built.definitionDrafts (built : Built b fs now input imports exports s u g) :
    s.definitionDrafts = (b.retained input).map fun c =>
      s.elementDefined (entityNode (b.initialState imports exports) c) := by
  rw [BuildState.definitionDrafts, built.elements, List.map_map]
  rfl

/-- **Every edge defines a retained entity** in its file. -/
theorem Built.definition_of_mem (built : Built b fs now input imports exports s u g)
    (absolute : b.workspace.isAbsolute = true) {around : Surroundings α} {t : BuildState α}
    (stage : BuildState.Stage around .definedIn s t u) {e : Edge α} (mem : e ∈ u.edgesOf .definedIn) :
    ∃ c ∈ b.retained input, e.id = Edge.idOf (idOf b.workspace c)
      (fileIdOf b.workspace (b.workspace.absolute c.filePath)) .definedIn := by
  have proposed := stage.proposed_of_mem (by decide) (built.edgesOf_eq_nil .definedIn) mem
  rw [BuildState.proposed, BuildState.mem_proposals, built.definitionDrafts] at proposed
  obtain ⟨c, retained, draft⟩ := List.mem_map.mp proposed
  obtain ⟨e', draft', relation, source, target, -⟩ := built.elementDefined absolute retained
  obtain rfl := Option.some.inj (Except.ok.inj (draft'.symm.trans draft))
  exact ⟨c, retained, by rw [Edge.id, relation, source, target]⟩

/-- **Every retained entity is defined** in its file. -/
theorem Built.exists_definition (built : Built b fs now input imports exports s u g)
    (absolute : b.workspace.isAbsolute = true) {around : Surroundings α} {t : BuildState α}
    (stage : BuildState.Stage around .definedIn s t u) {c : Entity} (mem : c ∈ b.retained input) :
    ∃ e ∈ u.edgesOf .definedIn, e.id = Edge.idOf (idOf b.workspace c)
      (fileIdOf b.workspace (b.workspace.absolute c.filePath)) .definedIn := by
  obtain ⟨e, draft, relation, source, target, there⟩ := built.elementDefined absolute mem
  have proposed : .ok e ∈ s.proposed around .definedIn := by
    rw [BuildState.proposed, BuildState.mem_proposals, built.definitionDrafts, ← draft]
    exact List.mem_map_of_mem mem
  obtain ⟨e', edge, same⟩ := stage.exists_edge_of_proposed (by decide) built.complete proposed
    (Filters.passes_of_structural _ (by rw [relation]; rfl)) (source ▸ built.contains_idOf mem) there
  exact ⟨e', edge, by rw [same, Edge.id, relation, source, target]⟩

/-! ## Edges -/

/-- **The edges of the smaller input** have their ids in the larger one, unless they are between similar entities.  By
the relation: what an edge stands for is found in the larger input, whose build has an edge for it by its own exact
result. -/
theorem Within.exists_edge (within : Within b input input') (absolute : b.workspace.isAbsolute = true)
    (built : Built b fs now input imports exports s u g)
    (built' : Built b fs now' input' imports' exports' s' u' g') {r : Relation} (ne : r ≠ .relatedTo)
    {e : Edge α} (mem : e ∈ u.edgesOf r) : ∃ e' ∈ u'.edgesOf r, e'.id = e.id := by
  have enabled := built.enables_of_mem mem
  obtain ⟨t, stage⟩ := built.exists_stage enabled
  obtain ⟨t', stage'⟩ := built'.exists_stage enabled
  have passes := stage.passes_of_mem ne (built.edgesOf_eq_nil r) mem
  cases r with
  | contains =>
      obtain ⟨there, relation⟩ := BuildState.mem_edgesOf.mp mem
      obtain ⟨n, node, ne, source, target⟩ := (built.hung absolute enabled).sound e there relation
      obtain ⟨n', node', ne', id, container⟩ := within.exists_node absolute built built' node ne
      obtain ⟨e', there', relation', id'⟩ := (built'.hung absolute enabled).complete n' node' ne'
      refine ⟨e', BuildState.mem_edgesOf.mpr ⟨there', relation'⟩, ?_⟩
      rw [id', Edge.id, source, target, relation, container, id]
  | definedIn =>
      obtain ⟨c, retained, id⟩ := built.definition_of_mem absolute stage mem
      rw [id]
      exact built'.exists_definition absolute stage' (within.retained retained)
  | imports =>
      obtain ⟨importer, hi, target, ht, ⟨entry, given, named, told⟩, m, n, specifier, id, id', rfl⟩ :=
        built.import_of_mem absolute stage mem
      rw [within.imports] at given
      have below := Filters.lt_eq_false_of_passes passes rfl
      rw [Edge.id, BuildState.importEdge, id, id']
      exact built'.exists_import absolute stage' below (within.files hi) (within.files ht) given named told
  | calls =>
      obtain ⟨c, hc, d, hd, call, rfl⟩ := built.call_of_mem stage mem
      have below := Filters.lt_eq_false_of_passes passes rfl
      exact built'.exists_call stage' below (within.retained hc) (within.retained hd) call
  | relatedTo => exact absurd rfl ne

/-! ## Files that take part in imports -/

/-- Where ids are told apart, an edge of the smaller input has one of its ends in the larger one. -/
theorem Within.exists_ends (within : Within b input input') (absolute : b.workspace.isAbsolute = true)
    (built : Built b fs now input imports exports s u g)
    (built' : Built b fs now' input' imports' exports' s' u' g')
    (apart : ToldApart (s'.nodes.toList.map Node.id)) {r : Relation} (ne : r ≠ .relatedTo) {e : Edge α}
    (mem : e ∈ u.edgesOf r) : ∃ e' ∈ u'.edgesOf r, e'.ends = e.ends := by
  obtain ⟨e', mem', id⟩ := within.exists_edge absolute built built' ne mem
  obtain ⟨new, adds⟩ := built.adds built.complete
  obtain ⟨new', adds'⟩ := built'.adds built'.complete
  obtain ⟨there, -⟩ := BuildState.mem_edgesOf.mp mem
  rw [adds.edges, built.edges_eq_nil, List.nil_append] at there
  obtain ⟨source, target⟩ := adds.ends e there
  have ends := adds'.same_of_id_eq built'.grown.edges apart (within.contains absolute built built' source)
    (within.contains absolute built built' target) (BuildState.mem_edgesOf.mp mem').1 id
  exact ⟨e', mem', ends.1⟩

/-- A file that takes part in imports does so in the larger build as well. -/
theorem Within.takesPart (within : Within b input input') (absolute : b.workspace.isAbsolute = true)
    (built : Built b fs now input imports exports s u g)
    (built' : Built b fs now' input' imports' exports' s' u' g')
    (apart : ToldApart (s'.nodes.toList.map Node.id)) (e : Entity)
    (part : b.TakesPart (u.edgesOf .imports) e) : b.TakesPart (u'.edgesOf .imports) e := by
  obtain ⟨i, mem, ends⟩ := part
  obtain ⟨i', mem', same⟩ := within.exists_ends absolute built built' apart (by decide) mem
  obtain ⟨source, target⟩ := Prod.mk.inj same
  exact ⟨i', mem', by rwa [source, target]⟩

/-! ## Sources that come behind -/

omit [Scalar α] in
/-- The entities that are retained stay so, in front of the further ones. -/
theorem retained_prefix (b : Builder α) (input : BuildInput) (more : List Source) :
    b.retained input <+: b.retained { input with sources := input.sources ++ more } := by
  rw [retained, retained, placedEntities_append]
  exact distinctBy_prefix _ _ _

omit [Scalar α] in
/-- Sources that come behind leave everything within. -/
theorem within_append (b : Builder α) (input : BuildInput) (more : List Source) :
    b.Within input { input with sources := input.sources ++ more } where
  placed := by
    rw [placedEntities_append]
    exact List.subset_append_left _ _
  retained := (b.retained_prefix input more).subset
  imports := rfl

/-- Entities of one file that are similar stay so where more is retained, -/
theorem SimilarWithin.mono {c d : Entity} (h : b.SimilarWithin fs input c d)
    (sub : (b.retained input).Sublist (b.retained input')) : b.SimilarWithin fs input' c d :=
  { h with order := h.order.trans sub }

/-- and those of two files as well, if what is retained comes behind: which of the two files was seen first must not
change. -/
theorem SimilarAcross.mono {edges edges' : List (Edge α)} {c d : Entity}
    (h : b.SimilarAcross fs input edges c d) (front : b.retained input <+: b.retained input')
    (part : ∀ e, b.TakesPart edges e → b.TakesPart edges' e) : b.SimilarAcross fs input' edges' c d where
  source := front.subset h.source
  target := front.subset h.target
  order := h.order.mono (front.map _)
  linked := ⟨part c h.linked.1, part d h.linked.2⟩
  above := h.above
  weight := h.weight

/-- **Related entities** stay related, in the same direction, where the further ones are retained behind them.  The
limit is for all pairs of the larger build, so that a pair of the smaller one may not be kept out by new ones. -/
theorem Within.exists_related (within : Within b input input') (absolute : b.workspace.isAbsolute = true)
    (built : Built b fs now input imports exports s u g)
    (built' : Built b fs now' input' imports' exports' s' u' g')
    (apart : ToldApart (s'.nodes.toList.map Node.id)) (front : b.retained input <+: b.retained input')
    (few : b.FewAcross fs input' (u'.edgesOf .imports)) {e : Edge α} (mem : e ∈ u.edgesOf .relatedTo) :
    ∃ e' ∈ u'.edgesOf .relatedTo, e'.id = e.id := by
  have enabled := built.enables_of_mem mem
  obtain ⟨t, stage⟩ := built.exists_stage enabled
  obtain ⟨t', stage'⟩ := built'.exists_stage enabled
  have part := within.takesPart absolute built built' apart
  -- There are no fewer pairs in the larger input, so that the limit has room for those of the smaller one.
  have few' : b.FewAcross fs input (u.edgesOf .imports) :=
    few.mono fun pair across => across.mono front part
  rcases built.similar_of_mem absolute stage few' mem with ⟨c, d, pair, rfl⟩ | ⟨c, d, pair, rfl⟩
  · exact built'.exists_similar absolute stage' few (Or.inl (pair.mono front.sublist))
  · exact built'.exists_similar absolute stage' few (Or.inr (pair.mono front part))

/-- **Further sources lose no output.**  Every node and every edge of a graph is there by its id when further sources
come behind, as long as no node has an arrow in its id and the limit for edges across files has room for all pairs
that are to be related.  Without arrows ids tell edges apart, which the files that take part in imports are found by.
-/
theorem output_of_more_sources {more : List Source} (absolute : b.workspace.isAbsolute = true)
    (h : b.build fs now input = .ok g)
    (h' : b.build fs now' { input with sources := input.sources ++ more } = .ok g')
    (free : ∀ id ∈ g'.nodes.map Node.id, ¬ ['-', '>'] <:+: id.toList)
    (few : b.FewAcross fs { input with sources := input.sources ++ more } (g'.edgesOf .imports)) :
    g.nodes.map Node.id ⊆ g'.nodes.map Node.id ∧ g.edges.map Edge.id ⊆ g'.edges.map Edge.id := by
  obtain ⟨imports, exports, s, u, built⟩ := build_eq_ok_iff.mp h
  obtain ⟨imports', exports', s', u', built'⟩ := build_eq_ok_iff.mp h'
  have within := b.within_append input more
  rw [built.nodes_made, built'.nodes_made]
  rw [built'.nodes_made] at free
  constructor
  · intro id mem
    rw [← Catalog.contains_eq_true_iff] at mem ⊢
    exact within.contains absolute built built' mem
  · intro id mem
    obtain ⟨e, there, rfl⟩ := List.mem_map.mp mem
    -- It suffices to look at the edges of one relation.
    suffices found : ∃ e' ∈ u'.edgesOf e.relation, e'.id = e.id by
      obtain ⟨e', there', same⟩ := found
      rw [built'.edges, ← same]
      exact List.mem_map_of_mem (BuildState.mem_edgesOf.mp there').1
    have own : e ∈ u.edgesOf e.relation := BuildState.mem_edgesOf.mpr ⟨built.edges ▸ there, rfl⟩
    by_cases similar : e.relation = .relatedTo
    · rw [similar] at own ⊢
      have apart := toldApart_iff.mpr (not_crossing_of_no_arrow free)
      rw [built'.edgesOf] at few
      exact within.exists_related absolute built built' apart (b.retained_prefix input more) few own
    · exact within.exists_edge absolute built built' similar own

/-- The edges of two functions in two files are there when a third one comes behind. -/
theorem output_of_more_sources_of_three_functions :
    let b := (sample Rat .connectivity).withFilters (Filters.allEnabled 0)
    let input := { similarInput with sources := similarInput.sources.take 2 }
    let more := similarInput.sources.drop 2
    b.workspace.isAbsolute = true ∧
      ∃ g g', b.build sampleFiles "" input = .ok g ∧
        b.build sampleFiles "" { input with sources := input.sources ++ more } = .ok g' ∧
        (∀ id ∈ g'.nodes.map Node.id, ¬ ['-', '>'] <:+: id.toList) ∧
        b.FewAcross sampleFiles { input with sources := input.sources ++ more } (g'.edgesOf .imports) ∧
        g.edges.map Edge.id ⊆ g'.edges.map Edge.id ∧
        (g.edgesOf .relatedTo).map Edge.id
          = ["entity:a.ts:function:f:1->entity:b.ts:function:g:1:RELATED_TO"] := by
  intro b input more
  have finishes : (b.build sampleFiles "" input).toOption.any (fun g =>
      (g.edgesOf .relatedTo).map Edge.id
        == ["entity:a.ts:function:f:1->entity:b.ts:function:g:1:RELATED_TO"]) = true := by
    decide +kernel
  have finishes' : (b.build sampleFiles "" { input with sources := input.sources ++ more }).toOption.any
      (fun g => decide (∀ id ∈ g.nodes.map Node.id, ¬ ['-', '>'] <:+: id.toList)) = true := by
    decide +kernel
  obtain ⟨g, h, one⟩ := exists_ok_of_any_toOption finishes
  obtain ⟨g', h', noArrow⟩ := exists_ok_of_any_toOption finishes'
  have free := of_decide_eq_true noArrow
  have count : (b.retained { input with sources := input.sources ++ more }).length = 3 := by decide +kernel
  have few : b.FewAcross sampleFiles { input with sources := input.sources ++ more } (g'.edgesOf .imports) :=
    b.fewAcross_of_length_le sampleFiles _ _ (by rw [count]; decide)
  exact ⟨by decide, g, g', h, h', free, few, (output_of_more_sources (by decide) h h' free few).2,
    by simpa using one⟩

end Builder

end CodeAtlas
