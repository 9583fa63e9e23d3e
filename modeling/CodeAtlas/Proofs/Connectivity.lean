import CodeAtlas.Proofs.Communities
import CodeAtlas.Proofs.Components
import Mathlib.Algebra.Field.Rat
import Mathlib.Tactic.NormNum

/-!
# Communities of connected nodes score alike

A community of connected nodes is a connected component, and no edge crosses the border of a component.  So
what its score compares with the inner edges is nothing: in exact arithmetic every score is one, and sorting
the communities by their scores leaves them in the order in which they were found.

That there are inner edges at all, and no fewer than it takes to connect the members, is read off the search.
Each id that it lists behind the first has been put on the stack for an edge, and that edge is dropped when an
end of it is listed, so that it is counted once (`length_explore_le`).
-/

namespace CodeAtlas.Components

/-! ## The edges of a component -/

/-- Whether an edge has an end among some ids. -/
def meets (ids : List String) (e : Ends) : Bool := ids.contains e.1 || ids.contains e.2

/-- An edge at a member of some ids has an end among them. -/
theorem meets_of_touches {ids : List String} {v : String} (mem : v ∈ ids) {e : Ends}
    (touching : touches v e = true) : meets ids e = true := by
  simp only [touches, Bool.or_eq_true, beq_iff_eq] at touching
  simp only [meets, Bool.or_eq_true, List.contains_iff_mem]
  rcases touching with rfl | rfl
  · exact Or.inl mem
  · exact Or.inr mem

/-- Of the edges that meet some ids, those at one of these ids pay for its neighbours: each neighbour that is put on
the stack comes from an edge of its own, and these edges are not among those left. -/
theorem length_neighbours_add_countP_le {ids : List String} {v : String} (mem : v ∈ ids)
    (edges : List Ends) :
    (neighbours v edges).length + (avoiding v edges).countP (meets ids)
      ≤ edges.countP (meets ids) := by
  have pushed : (neighbours v edges).length ≤ (edges.filter (touches v)).length := by
    rw [neighbours, List.length_reverse]
    exact List.length_filterMap_le _ _
  have paid : (edges.filter (touches v)).countP (meets ids) = (edges.filter (touches v)).length := by
    rw [List.countP_eq_length]
    intro e at_v
    exact meets_of_touches mem (List.mem_filter.mp at_v).2
  have split : edges.countP (meets ids)
      = (edges.filter (touches v)).countP (meets ids) + (avoiding v edges).countP (meets ids) :=
    List.countP_eq_countP_filter_add edges (meets ids) (touches v)
  omega

/-- A search keeps what it has found. -/
theorem subset_explore (edges : List Ends) (stack found : List String) :
    found ⊆ (explore edges stack found).1 := by
  fun_induction explore edges stack found with
  | case1 edges found => exact fun x mem => List.mem_reverse.mpr mem
  | case2 edges found v stack known ih => exact ih
  | case3 edges found v stack new ih => exact fun x mem => ih (List.mem_cons_of_mem v mem)

/-- **A search lists no more ids than it met edges**, besides those that it began with.  By the recursion of the
search, with the stack counted among what is to be paid for: an id that was known is taken from it for nothing, and a
new one pays for its neighbours with the edges at it. -/
theorem length_explore_le (edges : List Ends) (stack found : List String) :
    (explore edges stack found).1.length
      ≤ found.length + stack.length + edges.countP (meets (explore edges stack found).1) := by
  fun_induction explore edges stack found with
  | case1 edges found => simp
  | case2 edges found v stack known ih =>
      rw [List.length_cons]
      omega
  | case3 edges found v stack new ih =>
      have listed : v ∈ (explore (avoiding v edges) (neighbours v edges ++ stack) (v :: found)).1 :=
        subset_explore _ _ _ List.mem_cons_self
      have paid := length_neighbours_add_countP_le listed edges
      rw [List.length_cons, List.length_append] at ih
      rw [List.length_cons]
      omega

/-- A search leaves some of the edges that it was given, in their order. -/
theorem explore_snd_sublist (edges : List Ends) (stack found : List String) :
    (explore edges stack found).2.Sublist edges := by
  fun_induction explore edges stack found with
  | case1 edges found => exact List.Sublist.refl _
  | case2 edges found v stack known ih => exact ih
  | case3 edges found v stack new ih => exact ih.trans List.filter_sublist

/-- Every list of `search` is one longer than the number of edges that meet it, at most.  The start of a search is
what is one too many; later searches count in what the earlier ones have left, which is no more than there was. -/
theorem length_le_of_mem_search (nodes : List String) :
    ∀ {done : List String} {edges : List Ends} {c : List String}, c ∈ search done edges nodes →
      c.length ≤ edges.countP (meets c) + 1 := by
  induction nodes with
  | nil =>
      intro done edges c mem
      cases mem
  | cons v nodes ih =>
      intro done edges c mem
      rw [search] at mem
      split at mem
      · exact ih mem
      · rcases List.mem_cons.mp mem with rfl | later
        · have bound := length_explore_le edges [v] []
          simp only [List.length_nil, List.length_singleton] at bound
          omega
        · exact (ih later).trans
            (Nat.succ_le_succ (explore_snd_sublist edges [v] []).countP_le)

variable {nodes : List String} {edges : List Ends} {c : List String}

/-- **It takes one edge less than a component has members** to connect it. -/
theorem length_le_of_mem_components (mem : c ∈ components nodes edges) :
    c.length ≤ edges.countP (meets c) + 1 :=
  length_le_of_mem_search nodes mem

/-- **No edge leaves a component**: what is adjacent to a joined id is joined as well. -/
theorem closed_of_mem_components (mem : c ∈ components nodes edges) : Closed edges c := by
  have lists : Lists edges [] nodes (components nodes edges) :=
    lists_search nodes (fun x hx => by simp at hx) (fun e => by simp)
  obtain ⟨v, -, -, spec⟩ := lists.component c mem
  intro x hx y adjacent
  exact (spec y).mpr (((spec x).mp hx).tail adjacent)

/-- An edge has both its ends in a closed set, or none. -/
theorem Closed.contains_eq (closed : Closed edges c) {e : Ends} (mem : e ∈ edges) :
    c.contains e.1 = c.contains e.2 := by
  have there : e.1 ∈ c → e.2 ∈ c := fun inside => closed _ inside _ (Or.inl mem)
  have back : e.2 ∈ c → e.1 ∈ c := fun inside => closed _ inside _ (Or.inr mem)
  rw [Bool.eq_iff_iff, List.contains_iff_mem, List.contains_iff_mem]
  exact ⟨there, back⟩

end CodeAtlas.Components

namespace CodeAtlas.Community

open Components

variable {α : Type} {nodes : Nodes} {edges : List (Edge α)} {component : List String}

/-! ## The edges of a community -/

/-- No edge of a closed set is counted as one that leads out of it. -/
theorem external_eq_zero (closed : Closed (edges.map Edge.ends) component) :
    (edgeCounts component edges).external = 0 := by
  show edges.countP _ = 0
  rw [List.countP_eq_zero]
  intro e mem
  have same := closed.contains_eq (List.mem_map_of_mem mem)
  simpa [Edge.ends] using same

/-- The edges that meet a component are all inside it. -/
theorem internal_eq_countP_meets (closed : Closed (edges.map Edge.ends) component) :
    (edgeCounts component edges).internal = (edges.map Edge.ends).countP (meets component) := by
  rw [List.countP_map]
  show edges.countP _ = _
  refine List.countP_congr fun e mem => ?_
  have same : component.contains e.source = component.contains e.target :=
    closed.contains_eq (List.mem_map_of_mem mem)
  simp only [Function.comp_apply, meets, Edge.ends, same, Bool.and_self, Bool.or_self]

/-- What is counted for a connected component. -/
theorem edgeCounts_of_mem (mem : component ∈ connectedComponents nodes edges) :
    (edgeCounts component edges).external = 0 ∧
      component.length ≤ (edgeCounts component edges).internal + 1 := by
  have closed : Closed (edges.map Edge.ends) component := closed_of_mem_components mem
  refine ⟨external_eq_zero closed, ?_⟩
  rw [internal_eq_countP_meets closed]
  exact length_le_of_mem_components mem

/-! ## What the communities say -/

/-- The components that are communities. -/
def connectedGroups (nodes : Nodes) (edges : List (Edge α)) : List (List String) :=
  (connectedComponents nodes edges).filter fun c => 2 ≤ c.length

/-- Communities are the components of two ids and more. -/
theorem mem_connectedGroups :
    component ∈ connectedGroups nodes edges
      ↔ component ∈ connectedComponents nodes edges ∧ 2 ≤ component.length := by
  simp [connectedGroups]

/-- No id is in two of them, as in the components themselves. -/
theorem pairwise_disjoint_connectedGroups (nodes : Nodes) (edges : List (Edge α)) :
    (connectedGroups nodes edges).Pairwise List.Disjoint := by
  have exact := areComponents_components (nodes.toList.map Node.id) (edges.map Edge.ends)
  exact (List.nodup_flatten.mp exact.nodup).2.filter _

variable [Scalar α] {found : Nat} {c : Community α} {cs : List (Community α)}

/-- What a community says of its component; what it says of tags and languages is left out, as nothing here depends on
it. -/
theorem ofComponent_fields (h : ofComponent nodes edges found component = .ok c) :
    c.id = numbered found ∧ c.members = component ∧ c.score = (edgeCounts component edges).score ∧
      c.cohesion = (edgeCounts component edges).cohesion ∧
      c.coupling = (edgeCounts component edges).coupling := by
  simp only [ofComponent, bind_eq_ok_iff] at h
  obtain ⟨text, -, tags, -, language, -, made⟩ := h
  obtain rfl := Except.ok.inj made
  exact ⟨rfl, rfl, rfl, rfl, rfl⟩

/-- The members of the communities, before these are sorted, are the components in order. -/
theorem map_members_ofGroups
    (h : ofGroups (ofComponent nodes edges) (connectedGroups nodes edges) = .ok cs) :
    cs.map (·.members) = connectedGroups nodes edges := by
  rw [map_of_ofGroups h (·.members) Prod.fst fun _ _ _ made => (ofComponent_fields made).2.1]
  exact List.zipIdx_map_fst 0 _

/-- Their ids are numbers, from one on.  They are given before the communities are sorted, and go with them. -/
theorem map_id_ofGroups
    (h : ofGroups (ofComponent nodes edges) (connectedGroups nodes edges) = .ok cs) :
    cs.map (·.id) = (List.range cs.length).map numbered :=
  map_id_of_ofGroups h fun _ _ _ made => (ofComponent_fields made).1

/-! ## The communities of a graph -/

/-- Communities that no edge crosses the border of, with as many edges inside as it takes to connect the members, and
no member in common.  This holds for scores of any kind, rounded ones as well. -/
structure Separate (edges : List (Edge α)) (cs : List (Community α)) : Prop where
  /-- No edge crosses the border. -/
  external : ∀ c ∈ cs, (edgeCounts c.members edges).external = 0
  /-- There are edges enough to connect the members: one for each but the first. -/
  internal : ∀ c ∈ cs, c.members.length ≤ (edgeCounts c.members edges).internal + 1
  /-- No node is in two communities. -/
  disjoint : cs.Pairwise fun c d => c.members.Disjoint d.members

/-- Communities that are told apart by no measure, and stand as they were found. -/
structure Level (nodes : Nodes) (edges : List (Edge Rat)) (cs : List (Community Rat)) : Prop where
  /-- Nothing is compared with the inner edges, so that the score and the cohesion are full and the coupling is
  none. -/
  measures : ∀ c ∈ cs, c.score = 1 ∧ c.cohesion = 1 ∧ c.coupling = 0
  /-- These are the communities before they are sorted. -/
  unsorted : ofGroups (ofComponent nodes edges) (connectedGroups nodes edges) = .ok cs
  /-- They stand in the order of the components. -/
  members : cs.map (·.members) = connectedGroups nodes edges
  /-- They are numbered from one on, in the order in which they were found. -/
  ids : cs.map (·.id) = (List.range cs.length).map fun k => "community_" ++ toString (k + 1)

/-- The members of a community are one of the components. -/
theorem mem_connectedGroups_of_mem
    (h : ofGroups (ofComponent nodes edges) (connectedGroups nodes edges) = .ok cs) (mem : c ∈ cs) :
    c.members ∈ connectedGroups nodes edges := by
  rw [← map_members_ofGroups h]
  exact List.mem_map_of_mem mem

/-- The communities of connected nodes are those of the components, sorted by score. -/
theorem connected_eq_ok_iff :
    connected nodes edges = .ok cs ↔
      ∃ found, ofGroups (ofComponent nodes edges) (connectedGroups nodes edges) = .ok found ∧
        byScore found = cs := map_eq_ok_iff

/-- **Communities of connected nodes are separate**, in whatever order their scores have put them.  Sorting permutes
the communities, and none of the three clauses depends on their order. -/
theorem separate_of_connected (h : connected nodes edges = .ok cs) : Separate edges cs := by
  obtain ⟨found, hfound, rfl⟩ := connected_eq_ok_iff.mp h
  have sorted : (byScore found).Perm found := List.mergeSort_perm _ _
  have counts : ∀ c ∈ byScore found, (edgeCounts c.members edges).external = 0 ∧
      c.members.length ≤ (edgeCounts c.members edges).internal + 1 := by
    intro c mem
    have group := mem_connectedGroups_of_mem hfound (sorted.mem_iff.mp mem)
    exact edgeCounts_of_mem (mem_connectedGroups.mp group).1
  refine ⟨fun c mem => (counts c mem).1, fun c mem => (counts c mem).2, ?_⟩
  have disjoint := pairwise_disjoint_connectedGroups nodes edges
  rw [← map_members_ofGroups hfound, List.pairwise_map] at disjoint
  exact sorted.symm.pairwise disjoint List.disjoint_symm

/-! ## Exact scores -/

/-- Communities that no score tells apart stay where they are, since sorting is stable. -/
theorem byScore_eq_self (level : ∀ c ∈ cs, ∀ d ∈ cs, Scalar.lt c.score d.score = false) :
    byScore cs = cs := by
  refine List.mergeSort_of_pairwise (List.pairwise_of_forall_mem_list ?_)
  intro c hc d hd
  simp [level c hc d hd]

/-- Edges that are all inside are the whole of what is counted.  The fractions are computed exactly here; with
rounding they would be what the rounding makes of them. -/
theorem exact_measures {counts : EdgeCounts} (inside : 0 < counts.internal)
    (outside : counts.external = 0) :
    (counts.score : Rat) = 1 ∧ (counts.cohesion : Rat) = 1 ∧ (counts.coupling : Rat) = 0 := by
  obtain ⟨internal, external⟩ := counts
  obtain rfl : external = 0 := outside
  have ne : (internal : Rat) ≠ 0 := by exact_mod_cast inside.ne'
  have ne' : ¬ (internal : Int) + (0 : Nat) = 0 := by
    simp only at inside
    omega
  have total : (⟨internal, 0⟩ : EdgeCounts).total ≠ 0 := inside.ne'
  refine ⟨?_, ?_, ?_⟩
  · rw [EdgeCounts.score, balance, if_neg ne']
    simp [Scalar.ofInt, Scalar.ratio, ne]
  · rw [EdgeCounts.cohesion, if_neg total]
    simp [Scalar.ofInt, Scalar.ratio, EdgeCounts.total, ne]
  · rw [EdgeCounts.coupling, if_neg total]
    simp [Scalar.ofInt, Scalar.ratio, EdgeCounts.total]

/-- All measures of the communities are alike.  A community has two members at least, so that `edgeCounts_of_mem`
gives it an edge inside, and none outside. -/
theorem measures_of_ofGroups {edges : List (Edge Rat)} {cs : List (Community Rat)}
    (h : ofGroups (ofComponent nodes edges) (connectedGroups nodes edges) = .ok cs) :
    ∀ c ∈ cs, c.score = 1 ∧ c.cohesion = 1 ∧ c.coupling = 0 := by
  intro c mem
  obtain ⟨component, found, made⟩ := exists_group_of_mem h mem
  obtain ⟨-, members, score, cohesion, coupling⟩ := ofComponent_fields made
  -- A community has two members at least, and so an edge inside.
  have group := mem_connectedGroups_of_mem h mem
  rw [members] at group
  obtain ⟨listed, two⟩ := mem_connectedGroups.mp group
  obtain ⟨outside, inside⟩ := edgeCounts_of_mem listed
  rw [score, cohesion, coupling]
  exact exact_measures (by omega) outside

/-- **The scores of connected communities say nothing.**  No edge leaves a community, and it takes an edge for
each member but one to connect it; so in exact arithmetic all measures are alike, and the communities stand
in the order of their components, numbered from one on. -/
theorem connected_level (nodes : Nodes) :
    (∀ (α : Type) [Scalar α] (edges : List (Edge α)) cs, connected nodes edges = .ok cs →
      Separate edges cs) ∧
    ∀ (edges : List (Edge Rat)) cs, connected nodes edges = .ok cs → Level nodes edges cs := by
  refine ⟨fun α _ edges cs => separate_of_connected, fun edges cs h => ?_⟩
  obtain ⟨found, hfound, rfl⟩ := connected_eq_ok_iff.mp h
  have measures := measures_of_ofGroups hfound
  have unsorted : byScore found = found := by
    refine byScore_eq_self fun c hc d hd => ?_
    rw [(measures c hc).1, (measures d hd).1]
    decide
  rw [unsorted]
  exact ⟨measures, hfound, map_members_ofGroups hfound, map_id_ofGroups hfound⟩

/-- Four files, two and two of which are connected, the first two by way of an id that is no node. -/
def twoPairs : Nodes × List (Edge Rat) where
  fst := Catalog.ofList (["a", "b", "c", "d"].map fun name =>
    { id := name, kind := .file, name := .str name, absolutePath := none })
  snd := [("a", "?"), ("?", "b"), ("c", "d"), ("d", "c")].map fun (source, target) =>
    { source, target, relation := .imports, weight := 1, properties := .written [] }

/-- Two communities of two files each, one of them with an id among its members that is no node. -/
theorem connected_level_of_two_pairs :
    ∃ cs, connected twoPairs.1 twoPairs.2 = .ok cs ∧ cs.length = 2 ∧ Separate twoPairs.2 cs ∧
      Level twoPairs.1 twoPairs.2 cs := by
  have finishes : (ofGroups (ofComponent twoPairs.1 twoPairs.2)
      (connectedGroups twoPairs.1 twoPairs.2)).toOption.any (fun cs => cs.length == 2) = true := by
    decide +kernel
  obtain ⟨found, hfound, two⟩ := exists_ok_of_any_toOption finishes
  have h : connected twoPairs.1 twoPairs.2 = .ok (byScore found) :=
    connected_eq_ok_iff.mpr ⟨found, hfound, rfl⟩
  have length : (byScore found).length = 2 := by simpa [byScore] using two
  have level := connected_level twoPairs.1
  exact ⟨_, h, length, level.1 Rat twoPairs.2 _ h, level.2 twoPairs.2 _ h⟩

end CodeAtlas.Community
