import CodeAtlas.Proofs.Outcome
import CodeAtlas.View.Legacy

/-!
# The legacy view and the strategy for communities

The legacy view shows the communities of connected nodes, whatever strategy a graph was built with.  It tells
that they have to be found again by a community that was found otherwise.  So it misses the graphs in which
the directory strategy found no community at all: they are shown without communities, even where nodes are
connected.

`Twins` are the two graphs of one input, one for each strategy.  `Twins.ofGraph_eq_iff` says when their views
are one, `Builder.legacyView_strategy` says it of builds.
-/

namespace CodeAtlas

/-! ## How communities are found -/

namespace Community

variable {α : Type} [Scalar α] {nodes : Nodes} {edges : List (Edge α)} {cs : List (Community α)}

/-- A community says how it was found: by connectivity, -/
theorem strategy_of_connected (h : connected nodes edges = .ok cs) :
    ∀ c ∈ cs, c.strategy = .connectivity := by
  obtain ⟨found, hfound, rfl⟩ := map_eq_ok_iff.mp h
  intro c mem
  obtain ⟨component, k, made⟩ := exists_group_of_mem hfound (List.mem_mergeSort.mp mem)
  simp only [ofComponent, bind_eq_ok_iff] at made
  obtain ⟨text, -, tags, -, language, -, eq⟩ := made
  obtain rfl := Except.ok.inj eq
  rfl

/-- or by directories. -/
theorem strategy_of_directories (h : directories nodes edges = .ok cs) :
    ∀ c ∈ cs, c.strategy = .directory := by
  intro c mem
  obtain ⟨group, k, made⟩ := exists_group_of_mem h mem
  simp only [ofDirectory, bind_eq_ok_iff] at made
  obtain ⟨tags, -, language, -, eq⟩ := made
  obtain rfl := Except.ok.inj eq
  rfl

/-- No community of connected nodes is found iff no two nodes are connected. -/
theorem connected_eq_nil_iff (h : connected nodes edges = .ok cs) :
    cs = [] ↔ ∀ component ∈ connectedComponents nodes edges, component.length < 2 := by
  obtain ⟨found, hfound, rfl⟩ := map_eq_ok_iff.mp h
  -- Sorting keeps the number of communities, and each component that is kept gives one.
  rw [← List.length_eq_zero_iff, byScore, List.length_mergeSort, length_ofGroups hfound,
    List.length_eq_zero_iff, List.filter_eq_nil_iff]
  simp

/-- No community of a directory is found iff no directory holds three elements. -/
theorem directories_eq_nil_iff (h : directories nodes edges = .ok cs) :
    cs = [] ↔ ∀ group ∈ byDirectory nodes, group.2.length < 3 := by
  rw [← List.length_eq_zero_iff, length_ofGroups h, List.length_eq_zero_iff,
    List.filter_eq_nil_iff]
  simp only [decide_eq_true_eq]
  exact forall₂_congr fun _ _ => by omega

end Community

/-! ## Two graphs of one input -/

/-- Two graphs that differ in nothing but their communities, `d` with those of directories and `c` with those of
connected nodes. -/
structure Twins (catalog : Community.Nodes) (d c : Graph Float) : Prop where
  /-- The nodes are those of a catalog, -/
  nodes : c.nodes = catalog.toList
  /-- in both graphs. -/
  sameNodes : d.nodes = c.nodes
  sameEdges : d.edges = c.edges
  sameFigures : d.metadata = c.metadata
  /-- One has the communities of directories, -/
  directories : Community.directories catalog c.edges = .ok d.communities
  /-- the other one those of connected nodes. -/
  connected : Community.connected catalog c.edges = .ok c.communities

namespace Twins

variable {catalog : Community.Nodes} {d c : Graph Float}

/-- The view of a graph that was built by connectivity shows its communities. -/
theorem communities_connected (twins : Twins catalog d c) :
    LegacyView.communities c = .ok c.communities := by
  have none : ¬ (c.communities.any fun k => k.strategy != .connectivity) = true := by
    rw [List.any_eq_true]
    rintro ⟨k, mem, ne⟩
    rw [Community.strategy_of_connected twins.connected k mem] at ne
    cases ne
  rw [LegacyView.communities, if_neg none]

/-- The view of a graph that was built by directories finds its communities again, if there are any. -/
theorem communities_directories (twins : Twins catalog d c) (some : d.communities ≠ []) :
    LegacyView.communities d = .ok c.communities := by
  obtain ⟨k, mem⟩ := List.exists_mem_of_ne_nil _ some
  have other : (d.communities.any fun k => k.strategy != .connectivity) = true := by
    rw [List.any_eq_true]
    exact ⟨k, mem, by rw [Community.strategy_of_directories twins.directories k mem]; rfl⟩
  rw [LegacyView.communities, if_pos other, twins.sameNodes, twins.nodes, Catalog.ofList_toList,
    twins.sameEdges, twins.connected]

/-- Without communities it looks for none, as none of them says that they were found otherwise. -/
theorem communities_directories_of_nil (d : Graph Float) (nil : d.communities = []) :
    LegacyView.communities d = .ok [] := by
  rw [LegacyView.communities, nil, List.any_nil, if_neg Bool.false_ne_true]

/-- **When the two views are one**: the directory strategy has found a community, or there is none to find. -/
theorem ofGraph_eq_iff (twins : Twins catalog d c) :
    LegacyView.ofGraph d = LegacyView.ofGraph c ↔ (d.communities = [] → c.communities = []) := by
  have right := twins.communities_connected
  by_cases nil : d.communities = []
  · have left := communities_directories_of_nil d nil
    simp only [LegacyView.ofGraph, left, right, Except.map, twins.sameNodes, twins.sameEdges,
      twins.sameFigures]
    simp [nil, eq_comm]
  · have left := twins.communities_directories nil
    simp only [LegacyView.ofGraph, left, right, Except.map, twins.sameNodes, twins.sameEdges,
      twins.sameFigures]
    simp [nil]

end Twins

/-! ## The legacy view of builds -/

namespace Builder

/-- The builder with another strategy. -/
def withStrategy {α : Type} (b : Builder α) (strategy : Strategy) : Builder α :=
  { b with strategy := strategy }

section Strategies

variable {α : Type} [Scalar α] {b : Builder α} {fs : FileSystem} {now : String} {input : BuildInput}
  {imports exports : FileMap} {s u : BuildState α} {g : Graph α}

/-- A build that gives a graph gives one with any strategy, from the same nodes, edges and figures. -/
theorem Built.withStrategy (built : Built b fs now input imports exports s u g)
    (absolute : b.workspace.isAbsolute = true) (strategy : Strategy) :
    ∃ communities, Community.detect strategy u.nodes u.edges.toList = .ok communities ∧
      Built (b.withStrategy strategy) fs now input imports exports s u { g with communities } := by
  obtain ⟨communities, found⟩ :=
    Community.exists_detect strategy (built.countable absolute) u.edges.toList
  exact ⟨communities, found, built.sources, built.importMap, built.exportMap, built.made,
    built.related, found, built.metadata, built.nodes, built.edges⟩

/-- The strategy has no say in whether there is a graph. -/
theorem exists_build_of_strategy (absolute : b.workspace.isAbsolute = true) (strategy : Strategy)
    (h : ∃ g, b.build fs now input = .ok g) :
    ∃ g, (b.withStrategy strategy).build fs now input = .ok g := by
  obtain ⟨g, h⟩ := h
  obtain ⟨imports, exports, s, u, built⟩ := build_eq_ok_iff.mp h
  obtain ⟨communities, -, built'⟩ := built.withStrategy absolute strategy
  exact ⟨_, build_eq_ok_iff.mpr ⟨imports, exports, s, u, built'⟩⟩

end Strategies

variable {b : Builder Float} {fs : FileSystem} {now : String} {input : BuildInput} {d c : Graph Float}

/-- The graphs of one input with the two strategies are twins. -/
theorem twins_of_build (absolute : b.workspace.isAbsolute = true)
    (hd : (b.withStrategy .directory).build fs now input = .ok d)
    (hc : (b.withStrategy .connectivity).build fs now input = .ok c) :
    Twins (Catalog.ofList c.nodes) d c := by
  obtain ⟨imports, exports, s, u, built⟩ := build_eq_ok_iff.mp hd
  obtain ⟨communities, found, built'⟩ := built.withStrategy absolute .connectivity
  have again : (b.withStrategy .connectivity).build fs now input = .ok { d with communities } :=
    build_eq_ok_iff.mpr ⟨imports, exports, s, u, built'⟩
  -- A build gives one graph, so that `c` is `d` with the other communities.
  obtain rfl : { d with communities } = c := Except.ok.inj (again.symm.trans hc)
  have catalog : Catalog.ofList d.nodes = u.nodes := by rw [built.nodes, Catalog.ofList_toList]
  refine ⟨?_, rfl, rfl, rfl, ?_, ?_⟩
  · show d.nodes = (Catalog.ofList d.nodes).toList
    rw [catalog, built.nodes]
  · show Community.directories (Catalog.ofList d.nodes) d.edges = _
    rw [catalog, built.edges]
    exact built.communities
  · show Community.connected (Catalog.ofList d.nodes) d.edges = _
    rw [catalog, built.edges]
    exact found

/-- Some directory holds three code elements, or no two nodes of the graph are connected. -/
def StrategiesAgree (g : Graph Float) : Prop :=
  (∃ group ∈ Community.byDirectory (Catalog.ofList g.nodes), 3 ≤ group.2.length) ∨
    ∀ component ∈ Community.connectedComponents (Catalog.ofList g.nodes) g.edges,
      component.length < 2

/-- The condition in terms of nodes and edges is the one in terms of communities. -/
theorem strategiesAgree_iff {catalog : Community.Nodes} (twins : Twins catalog d c) :
    StrategiesAgree c ↔ (d.communities = [] → c.communities = []) := by
  have same : Catalog.ofList c.nodes = catalog := by rw [twins.nodes, Catalog.ofList_toList]
  rw [StrategiesAgree, same, Community.directories_eq_nil_iff twins.directories,
    Community.connected_eq_nil_iff twins.connected]
  constructor
  · rintro (⟨group, mem, three⟩ | alone) few
    · have := few group mem
      omega
    · exact alone
  · intro h
    by_cases few : ∀ group ∈ Community.byDirectory catalog, group.2.length < 3
    · exact Or.inr (h few)
    · push Not at few
      exact Or.inl few

/-- **When the legacy view does not depend on the strategy.**  With either strategy there is a graph or with none.
The view of the one built by connectivity shows the communities of connected nodes; the view of the one built by
directories is the same exactly when some directory holds three elements or nothing is connected.  Otherwise the graph
has no community that could tell how it was found, and the view shows none. -/
theorem legacyView_strategy (absolute : b.workspace.isAbsolute = true) :
    ((∃ d, (b.withStrategy .directory).build fs now input = .ok d) ↔
      ∃ c, (b.withStrategy .connectivity).build fs now input = .ok c) ∧
    ∀ d c, (b.withStrategy .directory).build fs now input = .ok d →
      (b.withStrategy .connectivity).build fs now input = .ok c →
        LegacyView.communities c = Community.connected (Catalog.ofList c.nodes) c.edges ∧
          (LegacyView.ofGraph d = LegacyView.ofGraph c ↔ StrategiesAgree c) := by
  refine ⟨⟨exists_build_of_strategy (b := b.withStrategy .directory) absolute .connectivity,
    exists_build_of_strategy (b := b.withStrategy .connectivity) absolute .directory⟩, ?_⟩
  intro d c hd hc
  have twins := twins_of_build absolute hd hc
  refine ⟨?_, ?_⟩
  · rw [twins.communities_connected, twins.connected]
  · rw [twins.ofGraph_eq_iff, strategiesAgree_iff twins]

/-- Three functions in one file: the directory has a community, and the view finds those of connected nodes. -/
theorem legacyView_strategy_of_three_functions :
    (sample Float .connectivity).workspace.isAbsolute = true ∧
      ∃ d c, sampleBuild Float .directory (["f", "g", "h"].map (sampleRecord "a.ts" · .null)) = .ok d ∧
        sampleBuild Float .connectivity (["f", "g", "h"].map (sampleRecord "a.ts" · .null)) = .ok c ∧
          LegacyView.ofGraph d = LegacyView.ofGraph c := by
  refine ⟨by decide, ?_⟩
  have left : (sampleBuild Float .directory
      (["f", "g", "h"].map (sampleRecord "a.ts" · .null))).toOption.any (fun _ => true) = true := by
    decide +kernel
  have right : (sampleBuild Float .connectivity
      (["f", "g", "h"].map (sampleRecord "a.ts" · .null))).toOption.any (fun g =>
        (Community.byDirectory (Catalog.ofList g.nodes)).any (3 ≤ ·.2.length)) = true := by
    decide +kernel
  obtain ⟨d, hd, -⟩ := exists_ok_of_any_toOption left
  obtain ⟨c, hc, three⟩ := exists_ok_of_any_toOption right
  refine ⟨d, c, hd, hc, ?_⟩
  have both := (legacyView_strategy (b := sample Float .connectivity) (by decide)).2 d c hd hc
  exact both.2.mpr (Or.inl (by simpa using three))

/-- A single function is connected with its file, and no directory holds three elements: the view of the graph
built by directories shows no community. -/
theorem legacyView_depends_on_strategy :
    ∃ d c, sampleBuild Float .directory [sampleRecord "a.ts" "f" .null] = .ok d ∧
      sampleBuild Float .connectivity [sampleRecord "a.ts" "f" .null] = .ok c ∧
        LegacyView.ofGraph d ≠ LegacyView.ofGraph c := by
  have left : (sampleBuild Float .directory
      [sampleRecord "a.ts" "f" .null]).toOption.any (·.communities.isEmpty) = true := by
    decide +kernel
  have right : (sampleBuild Float .connectivity
      [sampleRecord "a.ts" "f" .null]).toOption.any (!·.communities.isEmpty) = true := by
    decide +kernel
  obtain ⟨d, hd, nothing⟩ := exists_ok_of_any_toOption left
  obtain ⟨c, hc, something⟩ := exists_ok_of_any_toOption right
  have twins := twins_of_build (b := sample Float .connectivity) (by decide) hd hc
  refine ⟨d, c, hd, hc, ?_⟩
  rw [Ne, twins.ofGraph_eq_iff]
  intro h
  simp [h (by simpa using nothing)] at something

end Builder

end CodeAtlas
