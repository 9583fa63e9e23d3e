import CodeAtlas.Community.Detection
import Mathlib.Logic.Relation
import Mathlib.Data.List.Nodup
import Mathlib.Data.List.Pairwise

/-!
# The search for components is exact

`Components.components` lists connected components by depth-first searches that drop every edge of a node
once the node is listed.  This module compares what it lists with paths of edges.

## The two sides

`Joined` is the declarative side: a path of edges, each taken in either direction, leads from one id to the
other.  Nothing in it knows of a stack or of an order.  `AreComponents` says what lists have to be in order
to be *the* components of a graph: they list exactly the ids joined to a node, each once, two ids together
iff they are joined, and they stand in the order of the nodes.

## The invariant of a search

A search is at any moment three lists: the edges left, the stack and the ids found.  `Searching` ties them
together.  Its field `frontier` is what completeness rests on: an id that is adjacent to a found one has
been found or is pending, so that nothing is missing when the stack is empty.  The edges left are those
which no found id touches, which is why a finished search hands the next one a graph without its component.
-/

namespace CodeAtlas.Components

/-! ## Paths of edges -/

/-- An edge joins two ids, in either direction. -/
def Adjacent (edges : List Ends) (u v : String) : Prop := (u, v) ∈ edges ∨ (v, u) ∈ edges

/-- A path of edges, each taken in either direction, leads from one id to the other. -/
def Joined (edges : List Ends) : String → String → Prop := Relation.ReflTransGen (Adjacent edges)

/-- Edges are taken in either direction. -/
theorem Adjacent.symm {edges : List Ends} {u v : String} (h : Adjacent edges u v) :
    Adjacent edges v u := Or.symm h

instance (edges : List Ends) : Std.Symm (Adjacent edges) := ⟨fun _ _ => Adjacent.symm⟩

/-- A path can be walked back. -/
theorem Joined.symm {edges : List Ends} {u v : String} (h : Joined edges u v) :
    Joined edges v u := Relation.ReflTransGen.stdSymm.symm u v h

/-- Paths can be put together. -/
theorem Joined.trans {edges : List Ends} {u v w : String} (h : Joined edges u v)
    (h' : Joined edges v w) : Joined edges u w := Relation.ReflTransGen.trans h h'

/-- A set of ids that no edge leaves. -/
def Closed (edges : List Ends) (ids : List String) : Prop :=
  ∀ x ∈ ids, ∀ y, Adjacent edges x y → y ∈ ids

/-- A path does not leave a closed set: by induction over its steps. -/
theorem Closed.mem_of_joined {edges : List Ends} {ids : List String} (closed : Closed edges ids)
    {x y : String} (hx : x ∈ ids) (h : Joined edges x y) : y ∈ ids := by
  induction h with
  | refl => exact hx
  | tail _ step ih => exact closed _ ih _ step

/-- The edges of a graph that touch none of some ids. -/
def Remaining (graph : List Ends) (ids : List String) (edges : List Ends) : Prop :=
  ∀ e, e ∈ edges ↔ e ∈ graph ∧ e.1 ∉ ids ∧ e.2 ∉ ids

/-- The edges that are left join what all edges join, outside of the ids that are done. -/
theorem Remaining.adjacent_iff {graph edges : List Ends} {ids : List String}
    (remaining : Remaining graph ids edges) {u v : String} :
    Adjacent edges u v ↔ Adjacent graph u v ∧ u ∉ ids ∧ v ∉ ids := by
  simp only [Adjacent, remaining (u, v), remaining (v, u)]
  tauto

/-- **Outside a closed set, the edges that are left join what all edges join.**  This is why a search may throw away
the edges of the nodes that it has been at, and why the next search may go on with what the last one has left. -/
theorem Remaining.joined_iff {graph edges : List Ends} {ids : List String}
    (remaining : Remaining graph ids edges) (closed : Closed graph ids) {v x : String}
    (hv : v ∉ ids) : Joined edges v x ↔ Joined graph v x := by
  constructor
  · exact Relation.ReflTransGen.mono (fun _ _ h => (remaining.adjacent_iff.mp h).1) v x
  · intro h
    suffices Joined edges v x ∧ x ∉ ids from this.1
    induction h with
    | refl => exact ⟨Relation.ReflTransGen.refl, hv⟩
    | tail _ step ih =>
        obtain ⟨joined, outside⟩ := ih
        -- A path cannot enter a closed set, for it could leave it again the way it came.
        have outside' := fun inside => outside (closed _ inside _ step.symm)
        exact ⟨joined.tail (remaining.adjacent_iff.mpr ⟨step, outside, outside'⟩), outside'⟩

/-! ## One id taken from the stack -/

/-- The edges that do not touch an id. -/
theorem mem_avoiding {v : String} {edges : List Ends} {e : Ends} :
    e ∈ avoiding v edges ↔ e ∈ edges ∧ e.1 ≠ v ∧ e.2 ≠ v := by
  simp [avoiding, touches]

/-- The other end of an edge at `v` is the one that is not `v`.  A loop has no other end. -/
theorem otherEnd?_eq_some_iff {v w : String} {e : Ends} (h : touches v e = true) :
    otherEnd? v e = some w ↔ w ≠ v ∧ (e = (v, w) ∨ e = (w, v)) := by
  obtain ⟨a, b⟩ := e
  simp only [touches, Bool.or_eq_true, beq_iff_eq] at h
  unfold otherEnd?
  grind

/-- What is put on the stack are the ids that the edges left join to the visited one. -/
theorem mem_neighbours {v w : String} {edges : List Ends} :
    w ∈ neighbours v edges ↔ w ≠ v ∧ Adjacent edges v w := by
  simp only [neighbours, List.mem_reverse, List.mem_filterMap, List.mem_filter]
  constructor
  · rintro ⟨e, ⟨mem, touching⟩, other⟩
    obtain ⟨ne, rfl | rfl⟩ := (otherEnd?_eq_some_iff touching).mp other
    · exact ⟨ne, Or.inl mem⟩
    · exact ⟨ne, Or.inr mem⟩
  · rintro ⟨ne, mem | mem⟩
    · have touching : touches v (v, w) = true := by simp [touches]
      exact ⟨_, ⟨mem, touching⟩, (otherEnd?_eq_some_iff touching).mpr ⟨ne, Or.inl rfl⟩⟩
    · have touching : touches v (w, v) = true := by simp [touches]
      exact ⟨_, ⟨mem, touching⟩, (otherEnd?_eq_some_iff touching).mpr ⟨ne, Or.inr rfl⟩⟩

/-! ## The invariant of a search -/

/-- Where a search that began at `start` stands. -/
structure Searching (graph : List Ends) (start : String) (edges : List Ends)
    (stack found : List String) : Prop where
  /-- No id is found twice. -/
  nodup : found.Nodup
  /-- The edges left are those that no found id touches. -/
  remaining : Remaining graph found edges
  /-- Whatever is found or pending is joined to the start. -/
  joined : ∀ x, x ∈ found ∨ x ∈ stack → Joined graph start x
  /-- What is adjacent to a found id is found or pending. -/
  frontier : ∀ x ∈ found, ∀ y, Adjacent graph x y → y ∈ found ∨ y ∈ stack
  /-- The start is found first. -/
  first : (found.reverse ++ stack).head? = some start

namespace Searching

variable {graph edges : List Ends} {start v : String} {stack found : List String}

/-- A search begins with its start on the stack and nothing found. -/
theorem init (graph : List Ends) (start : String) : Searching graph start graph [start] [] where
  nodup := List.nodup_nil
  remaining e := by simp
  joined x h := by
    obtain rfl : x = start := by simpa using h
    exact Relation.ReflTransGen.refl
  frontier x h := by simp at h
  first := rfl

/-- An id that has been found before is dropped from the stack. -/
theorem skip (h : Searching graph start edges (v :: stack) found) (known : v ∈ found) :
    Searching graph start edges stack found where
  nodup := h.nodup
  remaining := h.remaining
  joined x hx := h.joined x (hx.imp_right (List.mem_cons_of_mem v))
  frontier x hx y adjacent := by
    rcases h.frontier x hx y adjacent with mem | mem
    · exact Or.inl mem
    · rcases List.mem_cons.mp mem with rfl | mem
      · exact Or.inl known
      · exact Or.inr mem
  first := by
    have ne : found.reverse ≠ [] := List.ne_nil_of_mem (List.mem_reverse.mpr known)
    have := h.first
    rwa [List.head?_append_of_ne_nil _ ne] at this ⊢

/-- A new id is found, and its neighbours are pending. -/
theorem visit (h : Searching graph start edges (v :: stack) found) (new : v ∉ found) :
    Searching graph start (avoiding v edges) (neighbours v edges ++ stack) (v :: found) where
  nodup := List.nodup_cons.mpr ⟨new, h.nodup⟩
  remaining e := by
    simp only [mem_avoiding, h.remaining e, List.mem_cons, not_or]
    tauto
  joined x hx := by
    have reached : Joined graph start v := h.joined v (Or.inr List.mem_cons_self)
    simp only [List.mem_cons, List.mem_append, mem_neighbours] at hx
    rcases hx with (rfl | mem) | ⟨-, adjacent⟩ | mem
    · exact reached
    · exact h.joined x (Or.inl mem)
    · exact reached.tail (h.remaining.adjacent_iff.mp adjacent).1
    · exact h.joined x (Or.inr (List.mem_cons_of_mem v mem))
  frontier x hx y adjacent := by
    simp only [List.mem_cons, List.mem_append, mem_neighbours]
    rcases List.mem_cons.mp hx with rfl | mem
    · by_cases known : y = x ∨ y ∈ found
      · exact Or.inl known
      · obtain ⟨ne, unknown⟩ := not_or.mp known
        exact Or.inr (Or.inl ⟨ne, h.remaining.adjacent_iff.mpr ⟨adjacent, new, unknown⟩⟩)
    · rcases h.frontier x mem y adjacent with mem' | mem'
      · exact Or.inl (Or.inr mem')
      · rcases List.mem_cons.mp mem' with rfl | mem'
        · exact Or.inl (Or.inl rfl)
        · exact Or.inr (Or.inr mem')
  first := by
    have := h.first
    simp only [List.reverse_cons, List.append_assoc, List.singleton_append]
    cases hrev : found.reverse with
    | nil => simpa [hrev] using this
    | cons a rest => simpa [hrev] using this

/-- **A search keeps its invariant to the end**, when nothing is pending any more.  By the recursion of the search,
with `skip` and `visit` for its two steps. -/
theorem explore (h : Searching graph start edges stack found) :
    Searching graph start (explore edges stack found).2 []
      (explore edges stack found).1.reverse := by
  fun_induction Components.explore edges stack found with
  | case1 edges found => simpa using h
  | case2 edges found v stack known ih =>
      exact ih (h.skip (List.contains_iff_mem.mp known))
  | case3 edges found v stack new ih =>
      exact ih (h.visit fun mem => new (List.contains_iff_mem.mpr mem))

/-- Nothing is adjacent to what a finished search has found and not found itself: the frontier, with an empty stack.
-/
theorem closed (h : Searching graph start edges [] found) : Closed graph found := by
  intro x hx y adjacent
  simpa using h.frontier x hx y adjacent

/-- **A finished search has found exactly what is joined to its start.**  Everything found is joined to it all the way
through, and as what is found is closed, no path from the start leaves it. -/
theorem mem_iff (h : Searching graph start edges [] found) {x : String} :
    x ∈ found ↔ Joined graph start x := by
  constructor
  · exact fun hx => h.joined x (Or.inl hx)
  · intro joined
    have hstart : start ∈ found := by
      have := List.mem_of_head? h.first
      simpa using this
    exact h.closed.mem_of_joined hstart joined

end Searching

/-! ## All searches -/

/-- What the searches from some nodes list, once the components that hold the ids in `done` are done.  It is proved
from the last node to the first, so that the lists are those of a tail of the nodes and `done` stands for everything
before. -/
structure Lists (graph : List Ends) (done nodes : List String) (lists : List (List String)) : Prop where
  /-- No id stands twice within or across the lists, and -/
  nodup : lists.flatten.Nodup
  /-- none of them has been listed before. -/
  fresh : ∀ x ∈ lists.flatten, x ∉ done
  /-- Every node is listed now or has been before. -/
  covers : ∀ n ∈ nodes, n ∈ done ∨ n ∈ lists.flatten
  /-- A list is what is joined to its first id, which is a node. -/
  component : ∀ c ∈ lists, ∃ v ∈ nodes, c.head? = some v ∧ ∀ x, x ∈ c ↔ Joined graph v x
  /-- The first ids stand in the order of the nodes. -/
  ordered : ∃ firsts : List String, firsts.Sublist nodes ∧ lists.map List.head? = firsts.map some
  /-- No other node of a list comes in front of its first id. -/
  earliest : ∀ c ∈ lists, ∀ v, c.head? = some v →
    ∀ n ∈ nodes, n ∈ c → nodes.idxOf v ≤ nodes.idxOf n

namespace Lists

variable {graph : List Ends} {done nodes : List String} {lists : List (List String)} {v : String}

/-- Without nodes there is nothing to list. -/
theorem nil (graph : List Ends) (done : List String) : Lists graph done [] [] := by
  constructor <;> simp

/-- What stands in one of the lists is listed. -/
theorem mem_flatten {c : List String} {x : String} (hc : c ∈ lists) (hx : x ∈ c) :
    x ∈ lists.flatten := List.mem_flatten.mpr ⟨c, hc, hx⟩

/-- A further node in front, which stands in no list, leaves the order of the others as it was. -/
theorem idxOf_le_cons (ne : ∀ x ∈ lists.flatten, x ≠ v) (h : Lists graph done nodes lists)
    {c : List String} (hc : c ∈ lists) {w : String} (first : c.head? = some w) {n : String}
    (hn : n ∈ v :: nodes) (mem : n ∈ c) : (v :: nodes).idxOf w ≤ (v :: nodes).idxOf n := by
  have hn' : n ≠ v := ne n (mem_flatten hc mem)
  have hw' : w ≠ v := ne w (mem_flatten hc (List.mem_of_head? first))
  rw [List.idxOf_cons_ne _ hw'.symm, List.idxOf_cons_ne _ hn'.symm]
  exact Nat.succ_le_succ (h.earliest c hc w first n (List.mem_of_ne_of_mem hn' hn) mem)

/-- A node that has been listed before starts no search. -/
theorem skip (h : Lists graph done nodes lists) (known : v ∈ done) :
    Lists graph done (v :: nodes) lists where
  nodup := h.nodup
  fresh := h.fresh
  covers n hn := by
    rcases List.mem_cons.mp hn with rfl | hn
    · exact Or.inl known
    · exact h.covers n hn
  component c hc := by
    obtain ⟨w, hw, spec⟩ := h.component c hc
    exact ⟨w, List.mem_cons_of_mem v hw, spec⟩
  ordered := by
    obtain ⟨firsts, sub, eq⟩ := h.ordered
    exact ⟨firsts, sub.cons v, eq⟩
  earliest c hc w first n hn mem :=
    h.idxOf_le_cons (fun x hx eq => h.fresh x hx (eq ▸ known)) hc first hn mem

/-- A node that is new starts a search, whose component stands in front.  It is the earliest node of its component,
and none of the later lists can share an id with it, since these are fresh for it too. -/
theorem cons {component : List String} (h : Lists graph (component ++ done) nodes lists)
    (nodup : component.Nodup) (outside : ∀ x ∈ component, x ∉ done)
    (first : component.head? = some v) (spec : ∀ x, x ∈ component ↔ Joined graph v x) :
    Lists graph done (v :: nodes) (component :: lists) where
  nodup := by
    rw [List.flatten_cons, List.nodup_append']
    refine ⟨nodup, h.nodup, ?_⟩
    intro x hx hx'
    exact h.fresh x hx' (List.mem_append_left done hx)
  fresh x hx := by
    rcases List.mem_append.mp (List.flatten_cons ▸ hx) with mem | mem
    · exact outside x mem
    · exact fun inside => h.fresh x mem (List.mem_append_right component inside)
  covers n hn := by
    rw [List.flatten_cons, List.mem_append]
    rcases List.mem_cons.mp hn with rfl | hn
    · exact Or.inr (Or.inl (List.mem_of_head? first))
    · rcases h.covers n hn with mem | mem
      · rcases List.mem_append.mp mem with mem | mem
        · exact Or.inr (Or.inl mem)
        · exact Or.inl mem
      · exact Or.inr (Or.inr mem)
  component c hc := by
    rcases List.mem_cons.mp hc with rfl | hc
    · exact ⟨v, List.mem_cons_self, first, spec⟩
    · obtain ⟨w, hw, rest⟩ := h.component c hc
      exact ⟨w, List.mem_cons_of_mem v hw, rest⟩
  ordered := by
    obtain ⟨firsts, sub, eq⟩ := h.ordered
    exact ⟨v :: firsts, sub.cons_cons v, by simp [first, eq]⟩
  earliest c hc w first' n hn mem := by
    rcases List.mem_cons.mp hc with rfl | hc
    · obtain rfl : v = w := Option.some.inj (first.symm.trans first')
      simp
    · refine h.idxOf_le_cons (fun x hx eq => h.fresh x hx ?_) hc first' hn mem
      exact List.mem_append_left done (eq ▸ List.mem_of_head? first)

end Lists

/-- **Every list of `search` is a component**, whatever has been done before.  By induction over the nodes, for all
lists of what is done and left: that no edge leaves what is done is kept when a component is added to it. -/
theorem lists_search {graph : List Ends} (nodes : List String) :
    ∀ {done : List String} {edges : List Ends}, Closed graph done → Remaining graph done edges →
      Lists graph done nodes (search done edges nodes) := by
  induction nodes with
  | nil => intro done edges _ _; exact Lists.nil graph done
  | cons v nodes ih =>
      intro done edges closed remaining
      by_cases known : v ∈ done
      · rw [search, if_pos (List.contains_iff_mem.mpr known)]
        exact (ih closed remaining).skip known
      · rw [search, if_neg (fun h => known (List.contains_iff_mem.mp h))]
        have finished := (Searching.init edges v).explore
        set component := (explore edges [v] []).1 with hcomponent
        set rest := (explore edges [v] []).2 with hrest
        have spec : ∀ x, x ∈ component ↔ Joined graph v x := fun x => by
          rw [← remaining.joined_iff closed known, ← finished.mem_iff, List.mem_reverse]
        -- No edge leaves what is done together with the new component, and the edges left are
        -- those outside of both, so that the remaining nodes may be searched in them.
        have closed' : Closed graph (component ++ done) := by
          intro x hx y adjacent
          rcases List.mem_append.mp hx with mem | mem
          · exact List.mem_append_left done ((spec y).mpr (((spec x).mp mem).tail adjacent))
          · exact List.mem_append_right component (closed x mem y adjacent)
        have remaining' : Remaining graph (component ++ done) rest := fun e => by
          rw [finished.remaining e, remaining e]
          simp only [List.mem_reverse, List.mem_append, not_or]
          tauto
        refine (ih closed' remaining').cons ?_ ?_ ?_ spec
        · exact List.nodup_reverse.mp finished.nodup
        · exact fun x mem inside => known (closed.mem_of_joined inside ((spec x).mp mem).symm)
        · simpa using finished.first

/-! ## The components of a graph -/

/-- What lists have to be in order to be the connected components of a graph with some nodes.  Ends of edges
need not be nodes. -/
structure AreComponents (nodes : List String) (edges : List Ends) (lists : List (List String)) :
    Prop where
  /-- No id stands twice within or across the lists. -/
  nodup : lists.flatten.Nodup
  /-- Every node is in exactly one list. -/
  existsUnique_mem : ∀ n ∈ nodes, ∃! c, c ∈ lists ∧ n ∈ c
  /-- Listed is what is joined to a node. -/
  mem_flatten_iff : ∀ x, x ∈ lists.flatten ↔ ∃ n ∈ nodes, Joined edges n x
  /-- Listed ids stand together iff they are joined. -/
  together_iff : ∀ x ∈ lists.flatten, ∀ y ∈ lists.flatten,
    (∃ c ∈ lists, x ∈ c ∧ y ∈ c) ↔ Joined edges x y
  /-- The lists begin with nodes, in the order of the nodes. -/
  ordered : ∃ firsts : List String, firsts.Sublist nodes ∧ lists.map List.head? = firsts.map some
  /-- Each list begins with the earliest of its nodes. -/
  earliest : ∀ c ∈ lists, ∀ v, c.head? = some v →
    ∀ n ∈ nodes, n ∈ c → nodes.idxOf v ≤ nodes.idxOf n

/-- Lists without a repetition hold an id in one list at most. -/
theorem eq_of_mem_of_nodup_flatten {lists : List (List String)} (nodup : lists.flatten.Nodup)
    {c d : List String} (hc : c ∈ lists) (hd : d ∈ lists) {x : String} (xc : x ∈ c) (xd : x ∈ d) :
    c = d := by
  by_contra ne
  have : Std.Symm (List.Disjoint (α := String)) := ⟨fun _ _ => List.disjoint_symm⟩
  have disjoint := (List.nodup_flatten.mp nodup).2
  exact disjoint.forall hc hd ne xc xd

/-- **The lists of `components` are the components**, from the searches over all nodes with nothing done before. -/
theorem areComponents_components (nodes : List String) (edges : List Ends) :
    AreComponents nodes edges (components nodes edges) := by
  have lists : Lists edges [] nodes (components nodes edges) :=
    lists_search nodes (fun x hx => by simp at hx) (fun e => by simp)
  have covers : ∀ n ∈ nodes, n ∈ (components nodes edges).flatten := fun n hn => by
    simpa using lists.covers n hn
  refine ⟨lists.nodup, ?_, ?_, ?_, lists.ordered, lists.earliest⟩
  · intro n hn
    obtain ⟨c, hc, mem⟩ := List.mem_flatten.mp (covers n hn)
    refine ⟨c, ⟨hc, mem⟩, ?_⟩
    rintro d ⟨hd, mem'⟩
    exact eq_of_mem_of_nodup_flatten lists.nodup hd hc mem' mem
  · intro x
    constructor
    · intro hx
      obtain ⟨c, hc, mem⟩ := List.mem_flatten.mp hx
      obtain ⟨v, hv, -, spec⟩ := lists.component c hc
      exact ⟨v, hv, (spec x).mp mem⟩
    · rintro ⟨n, hn, joined⟩
      obtain ⟨c, hc, mem⟩ := List.mem_flatten.mp (covers n hn)
      obtain ⟨v, -, -, spec⟩ := lists.component c hc
      exact List.mem_flatten.mpr ⟨c, hc, (spec x).mpr (((spec n).mp mem).trans joined)⟩
  · intro x hx y hy
    constructor
    · rintro ⟨c, hc, xc, yc⟩
      obtain ⟨v, -, -, spec⟩ := lists.component c hc
      exact ((spec x).mp xc).symm.trans ((spec y).mp yc)
    · intro joined
      obtain ⟨c, hc, xc⟩ := List.mem_flatten.mp hx
      obtain ⟨v, -, -, spec⟩ := lists.component c hc
      exact ⟨c, hc, xc, (spec y).mpr (((spec x).mp xc).trans joined)⟩

end CodeAtlas.Components

namespace CodeAtlas.Community

variable {α : Type}

/-- **The connected components of a graph are exact**, for every catalog of nodes and every list of edges:
edges may repeat, be loops, or end at ids that are no nodes. -/
theorem connectedComponents_exact (nodes : Nodes) (edges : List (Edge α)) :
    Components.AreComponents (nodes.toList.map Node.id) (edges.map Edge.ends)
      (connectedComponents nodes edges) :=
  Components.areComponents_components _ _

end CodeAtlas.Community
