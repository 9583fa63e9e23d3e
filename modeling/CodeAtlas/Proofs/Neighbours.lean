import CodeAtlas.Proofs.Calls
import CodeAtlas.Proofs.Containment
import CodeAtlas.Proofs.Register

/-!
# What a store answers about a saved build

A store looks the ends of edges up in its index, and leaves out what it does not find there.  Of the answers about
one node only the neighbourhood is freed from repetitions.  That nothing is missing and nothing is repeated all the
same is owed to the graph: its edges join nodes, and no two of its nodes, or of its edges, have one id
(`Graph.Coherent`).  The id of an edge is made of its ends and its relation, so that edges of one relation from one
node lead to different nodes.

`Store.Answers` says what the three queries about a node give, and `Builder.answers_of_saved` that this is what
they give for every node of a build that has been saved.

## Outline

What the store does is first said in terms of the graph: its index finds each node (`Store.Reflects.node?_eq`), and
its scans of edges are scans of the edges of the graph (`Store.Reflects.details_eq`, `Store.Reflects.outgoing_eq`).
Written forms are compared with the graph's own nodes and edges only there.  Then completeness is a matter of the
graph alone (`Graph.Coherent.surrounds`, `Graph.Coherent.leadsTo`), and that a build is coherent comes from its
catalogs and from the ends of its edges.
-/

namespace CodeAtlas

/-! ## Neighbours in a graph -/

namespace Edge

variable {α : Type}

/-- The end of an edge that is not a given node, or this node if both are. -/
def otherEnd (e : Edge α) (id : String) : String := if e.source = id then e.target else e.source

end Edge

namespace Graph

variable {α : Type}

/-- The edges that have a node at either end. -/
def edgesAt (g : Graph α) (id : String) : List (Edge α) := g.edges.filter fun e => e.source == id || e.target == id

/-- The edges of a relation that lead from a node. -/
def edgesFrom (g : Graph α) (id : String) (r : Relation) : List (Edge α) :=
  g.edges.filter fun e => e.source == id && e.relation == r

/-- The other ends of the edges at a node, each once, in the order in which they are first seen. -/
def neighbours (g : Graph α) (id : String) : List String :=
  distinct (((g.edgesAt id).map (·.otherEnd id)).filter (· != id))

/-- The nodes with some ids, in the order of the ids. -/
def nodesUnder (g : Graph α) (ids : List String) : List Node := ids.filterMap g.node?

/-- Nodes and edges are told apart by their ids, and edges join nodes.  This is all that is needed of a graph for the
queries to be complete, and every build has it. -/
structure Coherent (g : Graph α) : Prop where
  /-- No two nodes share an id, -/
  nodes : (g.nodes.map Node.id).Nodup
  /-- and no two edges do. -/
  edges : (g.edges.map Edge.id).Nodup
  /-- Both ends of every edge are nodes. -/
  ends : ∀ e ∈ g.edges, e.source ∈ g.nodes.map Node.id ∧ e.target ∈ g.nodes.map Node.id

/-- Some nodes are the neighbours of a node.  The order and the last clause are said of the graph alone; that every
neighbour is found in the store is what the first two clauses come to together. -/
structure Surrounds (g : Graph α) (x : Node) (nodes : List Node) : Prop where
  /-- Only nodes of the graph are listed. -/
  own : ∀ n ∈ nodes, n ∈ g.nodes
  /-- They come in the order in which the edges have them, -/
  order : nodes.map Node.id = g.neighbours x.id
  /-- each once, -/
  nodup : (nodes.map Node.id).Nodup
  /-- and they are all that an edge joins with the node, which is not one of them. -/
  complete : ∀ n ∈ g.nodes, n ∈ nodes ↔ n.id ≠ x.id ∧ ∃ e ∈ g.edges,
    e.source = x.id ∧ e.target = n.id ∨ e.source = n.id ∧ e.target = x.id

/-- Some nodes are what the edges of a relation lead to from a node. -/
structure LeadsTo (g : Graph α) (x : Node) (r : Relation) (nodes : List Node) : Prop where
  /-- Only nodes of the graph are listed. -/
  own : ∀ n ∈ nodes, n ∈ g.nodes
  /-- There is one for each edge, in the order of the edges, -/
  order : nodes.map Node.id = (g.edgesFrom x.id r).map Edge.target
  /-- and no two of them are one node. -/
  nodup : (nodes.map Node.id).Nodup

/-- The edges at a node are those with this end. -/
theorem mem_edgesAt {g : Graph α} {id : String} {e : Edge α} :
    e ∈ g.edgesAt id ↔ e ∈ g.edges ∧ (e.source = id ∨ e.target = id) := by
  simp [edgesAt]

/-- The edges of a relation from a node start there. -/
theorem mem_edgesFrom {g : Graph α} {id : String} {r : Relation} {e : Edge α} :
    e ∈ g.edgesFrom id r ↔ e ∈ g.edges ∧ e.source = id ∧ e.relation = r := by
  simp [edgesFrom]

/-- The neighbours are what an edge joins with the node, in either direction, without the node itself. -/
theorem mem_neighbours {g : Graph α} {id other : String} : other ∈ g.neighbours id ↔ other ≠ id ∧
    ∃ e ∈ g.edges, e.source = id ∧ e.target = other ∨ e.source = other ∧ e.target = id := by
  rw [neighbours, mem_distinct, List.mem_filter, bne_iff_ne, List.mem_map, and_comm]
  refine and_congr_right fun ne => ⟨?_, ?_⟩
  · rintro ⟨e, mem, rfl⟩
    obtain ⟨there, ends⟩ := mem_edgesAt.mp mem
    refine ⟨e, there, ?_⟩
    unfold Edge.otherEnd
    split
    · next source => exact Or.inl ⟨source, rfl⟩
    · next source => exact Or.inr ⟨rfl, ends.resolve_left source⟩
  · rintro ⟨e, there, ⟨source, target⟩ | ⟨source, target⟩⟩
    · exact ⟨e, mem_edgesAt.mpr ⟨there, Or.inl source⟩, by rw [Edge.otherEnd, if_pos source, target]⟩
    · have away : e.source ≠ id := source ▸ ne
      exact ⟨e, mem_edgesAt.mpr ⟨there, Or.inr target⟩, by rw [Edge.otherEnd, if_neg away, source]⟩

namespace Coherent

variable {g : Graph α}

/-- A node is found by its id. -/
theorem node?_of_mem (coherent : g.Coherent) {n : Node} (mem : n ∈ g.nodes) : g.node? n.id = some n :=
  Catalog.find?_eq_some_iff (c := (⟨g.nodes, coherent.nodes⟩ : Catalog Node Node.id)).mpr ⟨mem, rfl⟩

/-- Nodes are found under ids of nodes, one under each. -/
theorem map_id_nodesUnder (coherent : g.Coherent) {ids : List String} (given : ∀ id ∈ ids, id ∈ g.nodes.map Node.id) :
    (g.nodesUnder ids).map Node.id = ids := by
  induction ids with
  | nil => rfl
  | cons id rest ih =>
      obtain ⟨here, later⟩ := List.forall_mem_cons.mp given
      obtain ⟨n, mem, rfl⟩ := List.mem_map.mp here
      rw [nodesUnder, List.filterMap_cons_some (coherent.node?_of_mem mem), List.map_cons]
      exact congrArg (n.id :: ·) (ih later)

/-- What is found is a node of the graph. -/
theorem mem_of_mem_nodesUnder {ids : List String} {n : Node} (mem : n ∈ g.nodesUnder ids) : n ∈ g.nodes := by
  obtain ⟨id, -, found⟩ := List.mem_filterMap.mp mem
  exact List.mem_of_find?_eq_some found

/-- One node under each id is found from either side. -/
theorem find?_reverse (coherent : g.Coherent) (id : String) :
    g.nodes.reverse.find? (fun n => n.id == id) = g.node? id := by
  have nodup : (g.nodes.reverse.map Node.id).Nodup := by
    rw [List.map_reverse, List.nodup_reverse]
    exact coherent.nodes
  ext n
  have front := Catalog.find?_eq_some_iff (c := (⟨g.nodes, coherent.nodes⟩ : Catalog Node Node.id)) (k := id) (a := n)
  have back := Catalog.find?_eq_some_iff (c := (⟨g.nodes.reverse, nodup⟩ : Catalog Node Node.id)) (k := id) (a := n)
  rw [List.mem_reverse] at back
  exact back.trans front.symm

/-- **The neighbours of a node are all nodes**, and no one of them is left out.  The ends of edges are nodes, so that
the look-up drops none of them. -/
theorem surrounds (coherent : g.Coherent) (x : Node) : g.Surrounds x (g.nodesUnder (g.neighbours x.id)) := by
  have given : ∀ id ∈ g.neighbours x.id, id ∈ g.nodes.map Node.id := by
    intro id mem
    obtain ⟨-, e, there, ⟨-, rfl⟩ | ⟨rfl, -⟩⟩ := mem_neighbours.mp mem
    · exact (coherent.ends e there).2
    · exact (coherent.ends e there).1
  have order := coherent.map_id_nodesUnder given
  refine ⟨fun n mem => mem_of_mem_nodesUnder mem, order, by rw [order]; exact nodup_distinct _, ?_⟩
  intro n node
  rw [← mem_neighbours]
  constructor
  · intro mem
    rw [← order]
    exact List.mem_map_of_mem mem
  · intro mem
    exact List.mem_filterMap.mpr ⟨n.id, mem, coherent.node?_of_mem node⟩

/-- **Edges of one relation from one node lead to nodes**, and to different ones.  Two of them with one target would
have one id, and so would be one edge. -/
theorem leadsTo (coherent : g.Coherent) (x : Node) (r : Relation) :
    g.LeadsTo x r (g.nodesUnder ((g.edgesFrom x.id r).map Edge.target)) := by
  have given : ∀ id ∈ (g.edgesFrom x.id r).map Edge.target, id ∈ g.nodes.map Node.id := by
    intro id mem
    obtain ⟨e, leads, rfl⟩ := List.mem_map.mp mem
    exact (coherent.ends e (mem_edgesFrom.mp leads).1).2
  have order := coherent.map_id_nodesUnder given
  refine ⟨fun n mem => mem_of_mem_nodesUnder mem, order, ?_⟩
  -- The source and the relation being given, the target of an edge is what its id depends on.
  have ids : (g.edgesFrom x.id r).map Edge.id
      = ((g.edgesFrom x.id r).map Edge.target).map fun target => Edge.idOf x.id target r := by
    rw [List.map_map]
    refine List.map_congr_left fun e mem => ?_
    obtain ⟨-, source, relation⟩ := mem_edgesFrom.mp mem
    rw [Edge.id, source, relation]
    rfl
  have nodup : ((g.edgesFrom x.id r).map Edge.id).Nodup := coherent.edges.sublist (List.filter_sublist.map _)
  rw [order]
  exact List.Nodup.of_map _ (ids ▸ nodup)

end Coherent

end Graph

/-! ## Answers of a store -/

namespace Store

/-- **What a store answers about a node of a graph.**  Nodes and edges are given in their written form, and the
answers as the values that go out: what surrounds the node, what its calls lead to, and what it contains. -/
structure Answers (s : Store) (g : Graph Float) (x : Node) : Prop where
  /-- The details of a node are its edges, in order, and its neighbours. -/
  details : ∃ nodes, g.Surrounds x nodes ∧
    s.details (.str x.id) = .ok (some ⟨x.toJson, (g.edgesAt x.id).map Edge.toJson, nodes.map Node.toJson⟩) ∧
    (s.details (.str x.id)).map (Option.map Neighbourhood.toJson) = .ok (some (.obj [
      ("node", x.toJson),
      ("related_edges", .arr ((g.edgesAt x.id).map Edge.toJson)),
      ("related_nodes", .arr (nodes.map Node.toJson))]))
  /-- The dependencies are the node and what its calls lead to. -/
  dependencies : ∃ nodes, g.LeadsTo x .calls nodes ∧ s.dependencies (.str x.id) = .ok (.obj [
    ("nodes", .arr (x.toJson :: nodes.map Node.toJson)),
    ("edges", .arr ((g.edgesFrom x.id .calls).map Edge.toJson)),
    ("metadata", .obj [("query_type", .str "function_dependencies")])])
  /-- The structure is the node and what it contains. -/
  fileStructure : ∃ nodes, g.LeadsTo x .contains nodes ∧ s.fileStructure (.str x.id) = .ok (.obj [
    ("nodes", .arr (x.toJson :: nodes.map Node.toJson)),
    ("edges", .arr ((g.edgesFrom x.id .contains).map Edge.toJson)),
    ("metadata", .obj [("query_type", .str "file_structure"), ("file_id", .str x.id)])])

/-- Whether an edge has a node at either end. -/
theorem touches_toJson (id : String) (e : Edge Float) :
    touches (.str id) e.toJson = .ok (e.source == id || e.target == id) := by
  show (if e.source == id then .ok true else .ok (e.target == id) : Except Fault Bool) = _
  cases e.source == id <;> rfl

/-- Whether an edge leads from a node by a relation.  The words of relations tell them apart. -/
theorem leadsFrom_toJson (id : String) (r : Relation) (e : Edge Float) :
    leadsFrom (.str id) r e.toJson = .ok (e.source == id && e.relation == r) := by
  have word : (e.relation.text == r.text) = (e.relation == r) := by
    rw [Bool.eq_iff_iff, beq_iff_eq, beq_iff_eq]
    exact ⟨Relation.text_inj, congrArg Relation.text⟩
  show (if e.source == id then .ok (e.relation.text == r.text) else .ok false : Except Fault Bool) = _
  rw [word]
  cases e.source == id <;> rfl

/-- A test that always has an outcome is a filter. -/
theorem filterWhere_map {β : Type} {test : Json → Except Fault Bool} {f : β → Json} {p : β → Bool}
    (all : ∀ b, test (f b) = .ok (p b)) (items : List β) :
    filterWhere test (items.map f) = .ok ((items.filter p).map f) := by
  have selected : (items.filter p).map f = items.filterMap fun b => if p b then some (f b) else none := by
    rw [← List.filterMap_eq_map, List.filterMap_filter]
    rfl
  rw [selected]
  refine filterMapM_map_eq_ok fun b _ => ?_
  rw [all b]
  rfl

/-- Of both ends of the edges at a node, those that are not the node are their other ends. -/
theorem otherEnds_eq {id : String} {es : List (Edge Float)} (touch : ∀ e ∈ es, e.source = id ∨ e.target = id) :
    (es.map fun e => [Json.str e.source, .str e.target]).flatten.filter (fun other => !other.sameKey (.str id))
      = ((es.map (·.otherEnd id)).filter (· != id)).map Json.str := by
  have text (a : String) : (!(Json.str a).sameKey (.str id)) = (a != id) := rfl
  induction es with
  | nil => rfl
  | cons e rest ih =>
      obtain ⟨here, later⟩ := List.forall_mem_cons.mp touch
      have one : [Json.str e.source, .str e.target].filter (fun other => !other.sameKey (.str id))
          = ([e.otherEnd id].filter (· != id)).map Json.str := by
        by_cases source : e.source = id
        · by_cases target : e.target = id <;> simp [Edge.otherEnd, text, source, target]
        · simp [Edge.otherEnd, text, source, here.resolve_left source]
      rw [List.map_cons, List.flatten_cons, List.filter_append, one, ih later, ← List.map_append,
        ← List.filter_append, List.singleton_append, List.map_cons]

/-- Texts are distinct keys if they are distinct. -/
theorem distinctBy_sameKey (ids : List String) :
    distinctBy Json.sameKey (ids.map Json.str) = (distinct ids).map Json.str := distinctBy_map _ _ _

namespace Reflects

variable {s : Store} {path : Path} {g : Graph Float}

/-- **A store finds a node by its id**, if no two nodes of the graph share theirs. -/
theorem node?_eq (reflects : s.Reflects path g.data) (coherent : g.Coherent) (id : String) :
    s.node? (.str id) = .ok ((g.node? id).map Node.toJson) := by
  have nodes : g.data.itemsOf "nodes" = g.nodes.map Node.toJson := rfl
  have own : (fun node => node.nodeId? == some id) ∘ Node.toJson = fun n : Node => n.id == id := by
    funext n
    rw [Function.comp_apply, Node.nodeId?_toJson]
    rfl
  rw [reflects.nodes, nodes, lastWithId, ← List.map_reverse, List.find?_map, own, coherent.find?_reverse]

/-- In particular it finds every node of the graph. -/
theorem node?_of_mem (reflects : s.Reflects path g.data) (coherent : g.Coherent) {x : Node} (mem : x ∈ g.nodes) :
    s.node? (.str x.id) = .ok (some x.toJson) := by
  rw [reflects.node?_eq coherent, coherent.node?_of_mem mem]
  rfl

/-- It gives all edges of the graph, in order. -/
theorem allEdges_eq (reflects : s.Reflects path g.data) : s.allEdges = .ok (g.edges.map Edge.toJson) := by
  rw [allEdges, reflects.same]
  rfl

/-- What edges of a relation lead to is all found. -/
theorem outgoing_eq (reflects : s.Reflects path g.data) (coherent : g.Coherent) {x : Node} (mem : x ∈ g.nodes)
    (r : Relation) : s.outgoing (.str x.id) r
      = .ok (some ((x :: g.nodesUnder ((g.edgesFrom x.id r).map Edge.target)).map Node.toJson,
          (g.edgesFrom x.id r).map Edge.toJson)) := by
  have edges := filterWhere_map (leadsFrom_toJson x.id r) g.edges
  have targets : ((g.edgesFrom x.id r).map Edge.toJson).filterMapM
      (fun edge => do s.node? (← edge.member "target"))
        = .ok ((g.nodesUnder ((g.edgesFrom x.id r).map Edge.target)).map Node.toJson) := by
    rw [Graph.nodesUnder, List.map_filterMap, List.filterMap_map]
    exact filterMapM_map_eq_ok fun e _ => reflects.node?_eq coherent e.target
  refine bind_eq_ok_iff.mpr ⟨_, reflects.node?_of_mem coherent mem, ?_⟩
  refine bind_eq_ok_iff.mpr ⟨_, reflects.allEdges_eq, ?_⟩
  refine bind_eq_ok_iff.mpr ⟨_, edges, ?_⟩
  exact bind_eq_ok_iff.mpr ⟨_, targets, rfl⟩

/-- The ends of the edges at a node, without the node, are their other ends. -/
theorem details_eq (reflects : s.Reflects path g.data) (coherent : g.Coherent) {x : Node} (mem : x ∈ g.nodes) :
    s.details (.str x.id) = .ok (some ⟨x.toJson, (g.edgesAt x.id).map Edge.toJson,
      (g.nodesUnder (g.neighbours x.id)).map Node.toJson⟩) := by
  have edges := filterWhere_map (touches_toJson x.id) g.edges
  have ends : ((g.edgesAt x.id).map Edge.toJson).mapM endsOf
      = .ok ((g.edgesAt x.id).map fun e => [.str e.source, .str e.target]) := by
    rw [mapM_eq_ok_iff, List.map_map, List.map_map]
    rfl
  have others : distinctBy Json.sameKey (((g.edgesAt x.id).map fun e =>
      [Json.str e.source, .str e.target]).flatten.filter fun other => !other.sameKey (.str x.id))
        = (g.neighbours x.id).map Json.str := by
    rw [otherEnds_eq fun e mem => (Graph.mem_edgesAt.mp mem).2, distinctBy_sameKey, Graph.neighbours]
  have nodes : ((g.neighbours x.id).map Json.str).filterMapM s.node?
      = .ok ((g.nodesUnder (g.neighbours x.id)).map Node.toJson) := by
    rw [Graph.nodesUnder, List.map_filterMap]
    exact filterMapM_map_eq_ok fun id _ => reflects.node?_eq coherent id
  refine bind_eq_ok_iff.mpr ⟨_, reflects.node?_of_mem coherent mem, ?_⟩
  refine bind_eq_ok_iff.mpr ⟨_, reflects.allEdges_eq, ?_⟩
  refine bind_eq_ok_iff.mpr ⟨_, edges, ?_⟩
  refine bind_eq_ok_iff.mpr ⟨_, ends, ?_⟩
  refine bind_eq_ok_iff.mpr ⟨_, ?_, rfl⟩
  rw [others, nodes]

/-- **A store that has the data of a coherent graph answers for every node of it.**  For the details, the ends of the
edges at a node are looked up one by one; by coherence each of them is found, and only the node itself is left out. -/
theorem answers (reflects : s.Reflects path g.data) (coherent : g.Coherent) {x : Node} (mem : x ∈ g.nodes) :
    s.Answers g x where
  details := by
    have found := reflects.details_eq coherent mem
    exact ⟨_, coherent.surrounds x, found, by rw [found]; rfl⟩
  dependencies := ⟨_, coherent.leadsTo x .calls, by rw [dependencies, reflects.outgoing_eq coherent mem]; rfl⟩
  fileStructure := ⟨_, coherent.leadsTo x .contains, by rw [fileStructure, reflects.outgoing_eq coherent mem]; rfl⟩

end Reflects

/-- A store in which nothing has been saved. -/
def blank : Store := ⟨samplePath, emptyData, []⟩

/-- A client that has saved a graph has its data. -/
theorem reflects_of_save {files files' : FileSystem} {s s' : Store} {g : Graph Float} {path : Path}
    (saved : s.save files (.graph g) = (files', s', .ok path)) : s'.Reflects path g.data := by
  obtain ⟨index, indexed, reflects⟩ := exists_reflects s.path g.graphData
  rw [save, payload_graph] at saved
  dsimp only at saved
  split at saved
  · next refused => simp at saved
  · rw [withData_of_ok indexed] at saved
    obtain ⟨-, rfl, result⟩ := saved
    exact reflects

end Store

namespace Builder

variable {α : Type} [Scalar α] {b : Builder α} {fs : FileSystem} {now : String} {input : BuildInput}
  {imports exports : FileMap} {s u : BuildState α} {g : Graph α}

/-- The graph of a build is coherent. -/
theorem Built.coherent (built : Built b fs now input imports exports s u g) : g.Coherent := by
  refine ⟨?_, ?_, built.ends_mem⟩
  · rw [built.nodes]
    exact u.nodes.nodup
  · rw [built.edges]
    exact u.edges.nodup

/-- No function calls itself, -/
theorem Built.ends_ne_of_call (built : Built b fs now input imports exports s u g) {e : Edge α}
    (mem : e ∈ g.edgesOf .calls) : e.source ≠ e.target := by
  rw [built.edgesOf] at mem
  obtain ⟨t, stage⟩ := built.exists_stage (built.enables_of_mem mem)
  obtain ⟨c, hc, d, hd, call, rfl⟩ := built.call_of_mem stage mem
  intro same
  obtain rfl := List.inj_on_of_nodup_map (b.nodup_retained input) hc hd same
  exact call.other ⟨rfl, rfl⟩

/-- and nothing contains itself. -/
theorem Built.ends_ne_of_contained (built : Built b fs now input imports exports s u g)
    (absolute : b.workspace.isAbsolute = true) {e : Edge α} (mem : e ∈ g.edgesOf .contains) :
    e.source ≠ e.target := by
  rw [built.edgesOf] at mem
  obtain ⟨count, run⟩ := built.relateAll
  have hung : Hung s.nodes u.edges := (built.populated absolute).hung (b.fresh_initialState imports exports)
    (plain_of_mem_placedEntities absolute) (built.enables_of_mem mem) run
  obtain ⟨there, relation⟩ := BuildState.mem_edgesOf.mp mem
  obtain ⟨n, node, ne, source, target⟩ := hung.sound e there relation
  intro same
  have lower := (hung.shape n node).rank_containerOf_lt ne
  rw [← source, ← target, same] at lower
  exact lt_irrefl _ lower

/-- **Neighbour queries over a saved build are complete**, for every node of the graph.  No node is listed behind
itself, as in an absolute workspace nothing calls or contains itself.  A save leaves the client with the data of the
graph (`Store.reflects_of_save`), and the graph of a build is coherent; the rest is said of any coherent graph. -/
theorem answers_of_saved {b : Builder Float} {g : Graph Float} (h : b.build fs now input = .ok g)
    {files files' : FileSystem} {store store' : Store} {path : Path}
    (saved : store.save files (.graph g) = (files', store', .ok path)) :
    (∀ x ∈ g.nodes, store'.Answers g x) ∧
      (b.workspace.isAbsolute = true →
        ∀ r ∈ [Relation.calls, Relation.contains], ∀ e ∈ g.edgesOf r, e.source ≠ e.target) := by
  obtain ⟨imports, exports, s, u, built⟩ := build_eq_ok_iff.mp h
  refine ⟨fun x mem => (Store.reflects_of_save saved).answers built.coherent mem, ?_⟩
  intro absolute r given e mem
  rcases List.mem_cons.mp given with rfl | given
  · exact built.ends_ne_of_call mem
  · obtain rfl := List.mem_singleton.mp given
    exact built.ends_ne_of_contained absolute mem

/-- A file that imports itself, with a function that calls another one of the file. -/
def loopingInput : BuildInput where
  sources := [("f", "g()"), ("g", "")].map fun (name, snippet) =>
    .record (.obj [("file_path", .str "a.ts"), ("name", .str name), ("element_type", .str "function"),
      ("start_line", .int 1), ("code_snippet", .str snippet)])
  imports := .obj [("a.ts", .strs ["./a"])]

/-- The import of the file by itself is among its edges, and the file is not among its neighbours.  What the first
function depends on is the second one. -/
theorem answers_of_saved_loop :
    let b := (sample Float .directory).withFilters (Filters.allEnabled 0)
    ∃ g files store path, b.build sampleFiles "" loopingInput = .ok g ∧
      Store.blank.save Store.bare (.graph g) = (files, store, .ok path) ∧
        (∀ x ∈ g.nodes, store.Answers g x) ∧
        (∀ r ∈ [Relation.calls, Relation.contains], ∀ e ∈ g.edgesOf r, e.source ≠ e.target) ∧
        (g.edgesAt "file:a.ts").map Edge.id
          = ["project_root->file:a.ts:CONTAINS", "file:a.ts->entity:a.ts:function:f:1:CONTAINS",
            "file:a.ts->entity:a.ts:function:g:1:CONTAINS", "entity:a.ts:function:f:1->file:a.ts:DEFINED_IN",
            "entity:a.ts:function:g:1->file:a.ts:DEFINED_IN", "file:a.ts->file:a.ts:IMPORTS"] ∧
        g.neighbours "file:a.ts" = ["project_root", "entity:a.ts:function:f:1", "entity:a.ts:function:g:1"] ∧
        ∃ x ∈ g.nodes, ∃ y ∈ g.nodes, x.id = "entity:a.ts:function:f:1" ∧ y.id = "entity:a.ts:function:g:1" ∧
          store.dependencies (.str "entity:a.ts:function:f:1") = .ok (.obj [
            ("nodes", .arr [x.toJson, y.toJson]),
            ("edges", .arr ((g.edgesFrom "entity:a.ts:function:f:1" .calls).map Edge.toJson)),
            ("metadata", .obj [("query_type", .str "function_dependencies")])]) := by
  intro b
  have finishes : (b.build sampleFiles "" loopingInput).toOption.any (fun g =>
      (Store.blank.save Store.bare (.graph g)).2.2.toOption.any (fun _ => true)
        && (g.edgesAt "file:a.ts").map Edge.id
          == ["project_root->file:a.ts:CONTAINS", "file:a.ts->entity:a.ts:function:f:1:CONTAINS",
            "file:a.ts->entity:a.ts:function:g:1:CONTAINS", "entity:a.ts:function:f:1->file:a.ts:DEFINED_IN",
            "entity:a.ts:function:g:1->file:a.ts:DEFINED_IN", "file:a.ts->file:a.ts:IMPORTS"]
        && g.neighbours "file:a.ts" == ["project_root", "entity:a.ts:function:f:1", "entity:a.ts:function:g:1"]
        && (g.edgesFrom "entity:a.ts:function:f:1" .calls).map Edge.target == ["entity:a.ts:function:g:1"]
        && g.nodes.any (fun n => n.id == "entity:a.ts:function:f:1")) = true := by
    decide +kernel
  obtain ⟨g, h, facts⟩ := exists_ok_of_any_toOption finishes
  simp only [Bool.and_eq_true, beq_iff_eq] at facts
  obtain ⟨⟨⟨⟨saves, edges⟩, neighbours⟩, calls⟩, caller⟩ := facts
  obtain ⟨path, answer, -⟩ := exists_ok_of_any_toOption saves
  have saved : Store.blank.save Store.bare (.graph g) = (_, _, .ok path) := Prod.ext rfl (Prod.ext rfl answer)
  obtain ⟨answers, apart⟩ := answers_of_saved h saved
  -- What the caller depends on is one node, as there is one call.
  obtain ⟨x, mem, own⟩ := List.any_eq_true.mp caller
  rw [beq_iff_eq] at own
  obtain ⟨nodes, leads, dependencies⟩ := (answers x mem).dependencies
  have order := leads.order
  rw [own] at order dependencies
  rw [calls] at order
  obtain ⟨y, rfl, callee⟩ := List.map_eq_singleton_iff.mp order
  exact ⟨g, _, _, path, h, saved, answers, apart rfl, edges, neighbours, x, mem, y, leads.own y (by simp), own, callee,
    dependencies⟩

end Builder

end CodeAtlas
