import CodeAtlas.Proofs.Connectivity
import CodeAtlas.Proofs.Containment
import CodeAtlas.Proofs.EntityIds

/-!
# Containment leaves one community

When containment is related, every node of a graph is reached from the project by containment edges: by
`Hung.reached` for files and directories, and one step below its file for a code element, as long as no path of a
file has an arrow in it.  The other relations add edges between the same nodes and separate nothing.  So the graph
has one connected component, and the communities of connected nodes are a single one that holds all of them
(`Builder.one_community`).  A build without entities has the project for its only node, which is no community.

## Outline

The first half is about components alone: where all nodes are joined to one of them, the lists of the search can
only be one (`exists_components_eq_singleton`), since any two of them begin with ids that are joined, and joined ids
stand together.  The second half is about builds.  That all nodes are joined to the project is read off `Hung`,
which says of every node what contains it, and of every way up where it ends; the edges of the other relations are
needed for one thing only, that they do not lead away from the nodes.
-/

namespace CodeAtlas

namespace Components

/-- A list that the search has found begins with a node. -/
theorem AreComponents.exists_head {nodes : List String} {edges : List Ends} {lists : List (List String)}
    (exact : AreComponents nodes edges lists) {c : List String} (mem : c ∈ lists) :
    ∃ v ∈ nodes, v ∈ c := by
  obtain ⟨firsts, sub, heads⟩ := exact.ordered
  have head : c.head? ∈ firsts.map some := heads ▸ List.mem_map_of_mem mem
  obtain ⟨v, first, eq⟩ := List.mem_map.mp head
  exact ⟨v, sub.subset first, List.mem_of_head? eq.symm⟩

/-- Lists without a repetition that are all the same are one list. -/
theorem eq_singleton_of_nodup_flatten {lists : List (List String)} (nodup : lists.flatten.Nodup)
    {c : List String} (mem : c ∈ lists) (ne : c ≠ []) (only : ∀ d ∈ lists, d = c) : lists = [c] := by
  match lists with
  | [] => cases mem
  | [d] => rw [only d List.mem_cons_self]
  | d :: d' :: rest =>
      obtain rfl := only d List.mem_cons_self
      obtain rfl := only d' (List.mem_cons_of_mem _ List.mem_cons_self)
      obtain ⟨x, member⟩ := List.exists_mem_of_ne_nil _ ne
      rw [List.flatten_cons, List.flatten_cons, List.nodup_append'] at nodup
      exact absurd (List.mem_append_left _ member) (nodup.2.2 member)

/-- **Where all nodes are joined to one of them, and no edge leads away from the nodes, there is one component**, and
it lists the nodes.  By the exact search: every list begins with a node, which is joined to the first one, and ids
that are joined stand together. -/
theorem exists_components_eq_singleton {nodes : List String} {edges : List Ends} (nodup : nodes.Nodup)
    (ends : ∀ e ∈ edges, e.1 ∈ nodes ∧ e.2 ∈ nodes) {root : String} (mem : root ∈ nodes)
    (joined : ∀ n ∈ nodes, Joined edges root n) :
    ∃ c, components nodes edges = [c] ∧ c.Perm nodes := by
  have exact := areComponents_components nodes edges
  have closed : Closed edges nodes := by
    rintro x - y (edge | edge)
    · exact (ends _ edge).2
    · exact (ends _ edge).1
  obtain ⟨c, ⟨listed, rootIn⟩, -⟩ := exact.existsUnique_mem root mem
  -- Every list has a node in it, which stands together with the root.
  have only : ∀ d ∈ components nodes edges, d = c := by
    intro d hd
    obtain ⟨v, node, vIn⟩ := exact.exists_head hd
    have together := (exact.together_iff root (List.mem_flatten_of_mem listed rootIn) v
      (List.mem_flatten_of_mem hd vIn)).mpr (joined v node)
    obtain ⟨both, hboth, rootIn', vIn'⟩ := together
    rw [eq_of_mem_of_nodup_flatten exact.nodup hd hboth vIn vIn',
      eq_of_mem_of_nodup_flatten exact.nodup listed hboth rootIn rootIn']
  have single := eq_singleton_of_nodup_flatten exact.nodup listed (List.ne_nil_of_mem rootIn) only
  refine ⟨c, single, ?_⟩
  have members := exact.mem_flatten_iff
  have distinct := exact.nodup
  rw [single, List.flatten_singleton] at members distinct
  rw [List.perm_ext_iff_of_nodup distinct nodup]
  intro x
  rw [members]
  constructor
  · rintro ⟨n, node, way⟩
    exact closed.mem_of_joined node way
  · intro node
    exact ⟨x, node, Relation.ReflTransGen.refl⟩

end Components

namespace Community

variable {α : Type} [Scalar α] {nodes : Nodes} {edges : List (Edge α)} {cs : List (Community α)}

/-- The communities of connected nodes are the components with two members at least, in some order. -/
theorem perm_members_of_connected (h : connected nodes edges = .ok cs) :
    (cs.map (·.members)).Perm (connectedGroups nodes edges) := by
  obtain ⟨found, hfound, rfl⟩ := connected_eq_ok_iff.mp h
  rw [← map_members_ofGroups hfound]
  exact (List.mergeSort_perm _ _).map _

end Community

namespace Hung

variable {α : Type} {nodes : Catalog Node Node.id} {edges : Catalog (Edge α) Edge.id} {g : Graph α}

/-- An edge of containment joins its ends. -/
theorem joined_of_reflTransGen {p c : String} (way : Relation.ReflTransGen g.Contains p c) :
    Components.Joined (g.edges.map Edge.ends) p c := by
  refine Relation.ReflTransGen.mono ?_ p c way
  rintro p c ⟨e, edge, rfl, rfl⟩
  exact Or.inl (List.mem_map_of_mem (mem_edgesOf.mp edge).1)

/-- **Every node is joined to the project** if no file has an arrow in its path.  A code element is joined by way of
its file, which contains it then. -/
theorem joined (h : Hung nodes edges) (hedges : g.edges = edges.toList)
    (free : ∀ f ∈ nodes.toList, f.kind = .file → ∀ path, f.relativePath = some path →
      ¬ ['-', '>'] <:+: path.toList) {n : Node} (node : n ∈ nodes.toList) :
    Components.Joined (g.edges.map Edge.ends) projectId n.id := by
  refine joined_of_reflTransGen ?_
  by_cases kind : n.kind = .codeElement
  · -- A code element is one step below its file, which is no code element.
    have ne : n.kind ≠ .project := by simp [kind]
    obtain ⟨file, node', id⟩ := h.exists_container node ne
    have place := (h.shape n node).kind_of_container ne (h.shape file node') id
    have above := h.reached hedges _ file node' place rfl
    have contained : containerOf n ∈ g.containers n.id := by
      rw [h.containers_of_element hedges free node kind]
      exact List.mem_singleton_self _
    rw [id] at above
    exact above.tail (contains_of_mem_containers contained)
  · exact h.reached hedges _ n node kind rfl

end Hung

namespace Builder

variable {α : Type} [Scalar α] {b : Builder α} {fs : FileSystem} {now : String} {input : BuildInput}
  {imports exports : FileMap} {s u : BuildState α} {g : Graph α}

/-- The node of a file is made for the file of a placed entity, with all the entities in it. -/
theorem Built.exists_placed_of_file (built : Built b fs now input imports exports s u g) {n : Node}
    (mem : n ∈ s.nodes.toList) (kind : n.kind = .file) :
    ∃ e ∈ placedEntities b.workspace input.sources,
      fileNode fs (b.initialState imports exports) (b.workspace.absolute e.filePath)
        (sameFile b.workspace (placedEntities b.workspace input.sources) e) = .ok n := by
  cases built.grown.origin n mem with
  | project made => simp [(projectNode_shape made).2.1] at kind
  | @file group _ mem made =>
      obtain ⟨path, members⟩ := group
      obtain ⟨⟨e, given, rfl⟩, rfl⟩ := mem_byFile.mp mem
      exact ⟨e, given, made⟩
  | directory => simp [directoryNode] at kind
  | element => simp [entityNode] at kind

/-- Files have paths without arrows in them if placed entities have. -/
theorem Built.no_arrow_of_file (built : Built b fs now input imports exports s u g)
    (free : ∀ e ∈ placedEntities b.workspace input.sources,
      ¬ ['-', '>'] <:+: (e.pathIn b.workspace).toList) :
    ∀ f ∈ s.nodes.toList, f.kind = .file → ∀ path, f.relativePath = some path →
      ¬ ['-', '>'] <:+: path.toList := by
  intro f mem kind path eq
  obtain ⟨e, given, made⟩ := built.exists_placed_of_file mem kind
  obtain rfl := Option.some.inj ((fileNode_shape made).2.2.2.symm.trans eq)
  exact free e given

/-- A build with entities has a file beside the project, -/
theorem Built.two_le_length (built : Built b fs now input imports exports s u g)
    (absolute : b.workspace.isAbsolute = true) (nonempty : placedEntities b.workspace input.sources ≠ []) :
    2 ≤ s.nodes.toList.length := by
  obtain ⟨e, given⟩ := List.exists_mem_of_ne_nil _ nonempty
  have populated := built.populated absolute
  obtain ⟨file, found, id⟩ := populated.fileNode? (plain_of_mem_placedEntities absolute) given
  obtain ⟨_, there⟩ := find?_of_registered? found
  obtain ⟨project, found', id'⟩ := populated.project?
  have sub : [projectId, file.id] ⊆ s.nodes.toList.map Node.id := by
    rw [List.cons_subset, List.cons_subset, ← id']
    exact ⟨List.mem_map_of_mem (Catalog.find?_eq_some_iff.mp found').1,
      List.mem_map_of_mem (Catalog.find?_eq_some_iff.mp there).1, List.nil_subset _⟩
  have apart : [projectId, file.id].Nodup := by
    rw [id, fileIdOf]
    simp [projectId, ← String.toList_inj]
  simpa using (List.subperm_of_subset apart sub).length_le

/-- and one without entities has the project alone. -/
theorem Built.length_le_one (built : Built b fs now input imports exports s u g)
    (empty : placedEntities b.workspace input.sources = []) : s.nodes.toList.length ≤ 1 := by
  have grown := built.grown
  rw [empty] at grown
  have alone : ∀ id ∈ s.nodes.toList.map Node.id, id = projectId := by
    rw [List.forall_mem_map]
    intro n mem
    cases grown.origin n mem with
    | project made => exact (projectNode_shape made).1
    | file group => cases group
    | directory group => cases group
    | element given => cases given
  have nodup := s.nodes.nodup
  rw [List.eq_replicate_of_mem alone, List.nodup_replicate, List.length_map] at nodup
  exact nodup

/-- With containment, the nodes are one component if no path of a file has an arrow in it. -/
theorem Built.exists_component (built : Built b fs now input imports exports s u g)
    (absolute : b.workspace.isAbsolute = true) (enabled : b.filters.enableContains = true)
    (free : ∀ e ∈ placedEntities b.workspace input.sources,
      ¬ ['-', '>'] <:+: (e.pathIn b.workspace).toList) :
    ∃ c, Community.connectedComponents u.nodes u.edges.toList = [c] ∧ c.Perm (g.nodes.map Node.id) := by
  have hung := built.hung absolute enabled
  have root : projectId ∈ g.nodes.map Node.id := by
    rw [built.nodes_made, ← Catalog.contains_eq_true_iff]
    exact (built.populated absolute).indexed.project
  have ends : ∀ e ∈ g.edges.map Edge.ends, e.1 ∈ g.nodes.map Node.id ∧ e.2 ∈ g.nodes.map Node.id := by
    rw [List.forall_mem_map]
    exact built.ends_mem
  have joined : ∀ id ∈ g.nodes.map Node.id,
      Components.Joined (g.edges.map Edge.ends) projectId id := by
    rw [List.forall_mem_map, built.nodes_made]
    exact fun n mem => hung.joined built.edges (built.no_arrow_of_file free) mem
  have nodup : (g.nodes.map Node.id).Nodup := built.nodes_made ▸ s.nodes.nodup
  rw [Community.connectedComponents, ← built.nodes, ← built.edges]
  exact Components.exists_components_eq_singleton nodup ends root joined

/-- **With containment, connectivity finds one community**, of all the nodes, if no path of a file has an arrow in it
and there is a file at all.  What has been proved of the forest of containment carries this: each way up ends at the
project, so that all nodes are joined. -/
theorem one_community (absolute : b.workspace.isAbsolute = true) (enabled : b.filters.enableContains = true)
    (strategy : b.strategy = .connectivity)
    (free : ∀ e ∈ placedEntities b.workspace input.sources,
      ¬ ['-', '>'] <:+: (e.pathIn b.workspace).toList)
    (h : b.build fs now input = .ok g) :
    (placedEntities b.workspace input.sources ≠ [] →
      ∃ c, g.communities = [c] ∧ c.members.Nodup ∧ c.members.Perm (g.nodes.map Node.id)) ∧
    (placedEntities b.workspace input.sources = [] → g.communities = []) := by
  obtain ⟨imports, exports, s, u, built⟩ := build_eq_ok_iff.mp h
  obtain ⟨component, single, perm⟩ := built.exists_component absolute enabled free
  have found := built.communities
  rw [strategy, Community.detect] at found
  have members := Community.perm_members_of_connected found
  -- The component is a community if it has a second member.
  have length : component.length = s.nodes.toList.length := by
    rw [perm.length_eq, List.length_map, built.nodes_made]
  rw [Community.connectedGroups, single, List.filter_singleton, length, Bool.cond_decide] at members
  constructor
  · intro nonempty
    rw [if_pos (built.two_le_length absolute nonempty), List.perm_singleton] at members
    obtain ⟨c, communities, rfl⟩ := List.map_eq_singleton_iff.mp members
    have nodup : (g.nodes.map Node.id).Nodup := built.nodes_made ▸ s.nodes.nodup
    exact ⟨c, communities, perm.nodup_iff.mpr nodup, perm⟩
  · intro empty
    have alone := built.length_le_one empty
    rw [if_neg (by omega), List.perm_nil, List.map_eq_nil_iff] at members
    exact members

/-- The second file and the function in it are in the community of the first ones. -/
theorem one_community_of_two_files :
    let b := sample Rat .connectivity
    let records := [sampleRecord "src/a.ts" "f" .null, sampleRecord "b.ts" "g" .null]
    b.workspace.isAbsolute = true ∧ b.filters.enableContains = true ∧ b.strategy = .connectivity ∧
      (∀ e ∈ placedEntities b.workspace (records.map .record),
        ¬ ['-', '>'] <:+: (e.pathIn b.workspace).toList) ∧
      placedEntities b.workspace (records.map .record) ≠ [] ∧
      ∃ g, sampleBuild Rat .connectivity records = .ok g ∧
        ∃ c, g.communities = [c] ∧ c.members.Perm (g.nodes.map Node.id) ∧ c.members.length = 6 := by
  intro b records
  have free : ∀ e ∈ placedEntities b.workspace (records.map .record),
      ¬ ['-', '>'] <:+: (e.pathIn b.workspace).toList := by decide +kernel
  have nonempty : placedEntities b.workspace (records.map .record) ≠ [] := List.cons_ne_nil _ _
  have finishes : (sampleBuild Rat .connectivity records).toOption.any
      (fun g => g.nodes.length == 6) = true := by decide +kernel
  obtain ⟨g, h, six⟩ := exists_ok_of_any_toOption finishes
  obtain ⟨c, single, -, perm⟩ := (one_community (by decide) rfl rfl free h).1 nonempty
  refine ⟨by decide, rfl, rfl, free, nonempty, g, h, c, single, perm, ?_⟩
  rw [perm.length_eq, List.length_map]
  simpa using six

end Builder

end CodeAtlas
