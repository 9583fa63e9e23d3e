import CodeAtlas.Build.Relations
import CodeAtlas.Proofs.Ids
import CodeAtlas.Proofs.Steps

/-!
# What the steps for relations do

Every step for a relation offers edges, one after the other, and an offered edge is taken up or left.  So
whatever a step does comes down to the edges that it adds: `Adds s new t` says that `t` is `s` with the
edges `new` behind its own, between nodes that are there.

A step whose proposals can all be made up comes to its end.  That is so wherever every node has the fields of
its kind (`Node.Complete`), and no step takes this away; `runSteps_adds` puts the steps together.  Where a fault
ends a step, what it has done are the offers in front of it (`reached`).

An offer is refused for one of three reasons: its weight does not pass the filters, an end is no node, or its id
is taken.  By the first two it depends on the edge alone, once the nodes are made, and the third means that the
graph has an edge with its id (`contains_foldl_offer`).  The last section says for each relation what is proposed.
-/

namespace CodeAtlas

variable {α : Type}

/-- A node has the fields that relations and communities look at in nodes of its kind. -/
structure Node.Complete (n : Node) : Prop where
  /-- A directory or file has a path in the workspace, -/
  path : n.kind = .directory ∨ n.kind = .file → n.relativePath.isSome
  /-- and a code element says of which kind it is. -/
  element : n.kind = .codeElement → n.elementKind.isSome

/-- Whether the weight of an edge passes the filters.  Structural edges pass whatever their weight is. -/
def Filters.passes [Scalar α] (filters : Filters α) (e : Edge α) : Bool :=
  e.relation.isStructural || !Scalar.lt e.weight filters.minRelationWeight

/-- A structural edge passes. -/
theorem Filters.passes_of_structural [Scalar α] (filters : Filters α) {e : Edge α}
    (structural : e.relation.isStructural = true) : filters.passes e = true := by
  rw [Filters.passes, structural, Bool.true_or]

/-- An edge that passes the filters though it is not structural is not lighter than they ask for. -/
theorem Filters.lt_eq_false_of_passes [Scalar α] {filters : Filters α} {e : Edge α}
    (passes : filters.passes e = true) (other : e.relation.isStructural = false) :
    Scalar.lt e.weight filters.minRelationWeight = false := by
  rwa [Filters.passes, other, Bool.false_or, Bool.not_eq_true'] at passes

/-- An edge of a relation whose edges all have the full weight.  It says nothing of a score. -/
structure Edge.Unscored [Scalar α] (r : Relation) (e : Edge α) : Prop where
  relation : e.relation = r
  /-- Its weight is not worked out from anything. -/
  weight : e.weight = Scalar.ofNat 1
  properties : ∀ description score tags crossFile,
    e.properties ≠ .similarity description score tags crossFile

/-- Such edges of one relation pass the filters together. -/
theorem Edge.Unscored.passes_eq [Scalar α] {r : Relation} {e : Edge α} (unscored : e.Unscored r)
    (filters : Filters α) : filters.passes e
      = (r.isStructural || !Scalar.lt (Scalar.ofNat 1) filters.minRelationWeight) := by
  rw [Filters.passes, unscored.relation, unscored.weight]

namespace BuildState

/-! ## Edges that are added -/

/-- The edges of a relation are those edges of a state that are of it. -/
theorem mem_edgesOf {s : BuildState α} {r : Relation} {e : Edge α} :
    e ∈ s.edgesOf r ↔ e ∈ s.edges.toList ∧ e.relation = r := by
  simp [edgesOf]

/-- An id is taken iff an edge of its relation has it, as the id tells the relation.  So no relation can take an id
from another one. -/
theorem contains_iff_edgesOf {s : BuildState α} {e : Edge α} :
    s.edges.contains e.id = true ↔ ∃ e' ∈ s.edgesOf e.relation, e'.id = e.id := by
  rw [Catalog.contains_eq_true_iff, List.mem_map]
  constructor
  · rintro ⟨e', mem, id⟩
    exact ⟨e', mem_edgesOf.mpr ⟨mem, Edge.relation_eq_of_id_eq id⟩, id⟩
  · rintro ⟨e', mem, id⟩
    exact ⟨e', (mem_edgesOf.mp mem).1, id⟩

/-- The state `t` is `s` with the edges `new` behind its own, between nodes of `s`, and differs in nothing else.  This
is what every step for a relation comes down to, with a fault or without one; it composes (`Adds.trans`), and all
later results about edges start from it. -/
structure Adds (s : BuildState α) (new : List (Edge α)) (t : BuildState α) : Prop where
  /-- Nothing but edges has changed. -/
  frame : t = { s with edges := t.edges }
  /-- The new ones come behind the others, which stay as they were. -/
  edges : t.edges.toList = s.edges.toList ++ new
  /-- New edges join nodes. -/
  ends : ∀ e ∈ new, s.nodes.contains e.source = true ∧ s.nodes.contains e.target = true

namespace Adds

variable {s t u : BuildState α} {new more : List (Edge α)}

/-- Nothing may be added. -/
theorem refl (s : BuildState α) : Adds s [] s := ⟨rfl, (List.append_nil _).symm, by simp⟩

/-- No node comes or goes. -/
theorem nodes (h : Adds s new t) : t.nodes = s.nodes := by rw [h.frame]

/-- **What is added twice is added together.**  As no node goes, the ends of the later edges were there before the
earlier ones. -/
theorem trans (h : Adds s new t) (h' : Adds t more u) : Adds s (new ++ more) u where
  frame := by rw [h'.frame, h.frame]
  edges := by rw [h'.edges, h.edges, List.append_assoc]
  ends e mem := by
    rcases List.mem_append.mp mem with first | second
    · exact h.ends e first
    · have ends := h'.ends e second
      rwa [h.nodes] at ends

/-- What is added tells the state, -/
theorem eq_of_adds (h : Adds s new t) (h' : Adds s new u) : t = u := by
  have edges : t.edges = u.edges := Catalog.ext_toList (h.edges.trans h'.edges.symm)
  rw [h.frame, h'.frame, edges]

/-- and is told by it. -/
theorem new_eq (h : Adds s new t) (h' : Adds s more t) : new = more :=
  List.append_cancel_left (h.edges.symm.trans h'.edges)

/-- Of the new edges, those of a relation come behind the ones that were there. -/
theorem edgesOf (h : Adds s new t) (r : Relation) :
    t.edgesOf r = s.edgesOf r ++ new.filter (·.relation == r) := by
  rw [BuildState.edgesOf, h.edges, List.filter_append, ← BuildState.edgesOf]

/-- Edges of other relations leave those of a relation as they are. -/
theorem edgesOf_eq (h : Adds s new t) {r : Relation} (other : ∀ e ∈ new, e.relation ≠ r) :
    t.edgesOf r = s.edgesOf r := by
  have none : new.filter (·.relation == r) = [] := by
    rw [List.filter_eq_nil_iff]
    intro e mem
    simpa using other e mem
  rw [h.edgesOf, none, List.append_nil]

/-- An edge that is there stays there. -/
theorem contains (h : Adds s new t) {id : String}
    (known : s.edges.contains id = true) : t.edges.contains id = true := by
  rw [Catalog.contains_eq_true_iff] at known ⊢
  rw [h.edges, List.map_append]
  exact List.mem_append_left _ known

end Adds

/-! ## Proposals -/

/-- Proposed is what a draft has, where it has something. -/
theorem mem_proposals {drafts : List (Except Fault (Option (Edge α)))} {e : Edge α} :
    .ok e ∈ proposals drafts ↔ .ok (some e) ∈ drafts := by
  simp only [proposals, List.mem_filterMap]
  constructor
  · rintro ⟨f | _ | e', mem, eq⟩
    · cases eq
    · cases eq
    · obtain rfl : e' = e := Except.ok.inj (Option.some.inj eq)
      exact mem
  · intro mem
    exact ⟨_, mem, rfl⟩

/-- Drafts without a fault make proposals without a fault. -/
theorem proposals_ok {drafts : List (Except Fault (Option (Edge α)))}
    (ok : ∀ d ∈ drafts, ∃ e?, d = .ok e?) : ∀ p ∈ proposals drafts, ∃ e, p = .ok e := by
  intro p mem
  obtain ⟨d, draft, eq⟩ := List.mem_filterMap.mp mem
  obtain ⟨e?, rfl⟩ := ok d draft
  cases e? with
  | none => cases eq
  | some e => exact ⟨e, (Option.some.inj eq).symm⟩

/-- The proposals in front of the first fault. -/
def reached : List (Except Fault (Edge α)) → List (Edge α)
  | .ok e :: rest => e :: reached rest
  | _ => []

/-- What is reached was proposed. -/
theorem mem_of_mem_reached {proposals : List (Except Fault (Edge α))} {e : Edge α}
    (mem : e ∈ reached proposals) : .ok e ∈ proposals := by
  induction proposals with
  | nil => cases mem
  | cons p rest ih =>
      cases p with
      | error f => cases mem
      | ok first =>
          rcases List.mem_cons.mp mem with rfl | later
          · exact List.mem_cons_self
          · exact List.mem_cons_of_mem _ (ih later)

/-- Without a fault all proposals are reached. -/
theorem map_reached_of_ok {proposals : List (Except Fault (Edge α))}
    (ok : ∀ p ∈ proposals, ∃ e, p = .ok e) : (reached proposals).map .ok = proposals := by
  induction proposals with
  | nil => rfl
  | cons p rest ih =>
      obtain ⟨⟨e, rfl⟩, later⟩ := List.forall_mem_cons.mp ok
      rw [reached, List.map_cons, ih later]

/-- So everything that was proposed is reached then. -/
theorem mem_reached_of_ok {proposals : List (Except Fault (Edge α))}
    (ok : ∀ p ∈ proposals, ∃ e, p = .ok e) {e : Edge α} (mem : .ok e ∈ proposals) :
    e ∈ reached proposals := by
  rw [← map_reached_of_ok ok] at mem
  obtain ⟨e', there, eq⟩ := List.mem_map.mp mem
  exact Except.ok.inj eq ▸ there

/-- The nodes of a kind are those nodes of a state that are of it. -/
theorem mem_nodesOf {s : BuildState α} {kind : NodeKind} {n : Node} :
    n ∈ s.nodesOf kind ↔ n ∈ s.nodes.toList ∧ n.kind = kind := by
  simp [nodesOf]

/-- The directory above a node is that of its path, -/
theorem directoryAbove_eq {n : Node} {path : String} (h : n.relativePath = some path) :
    directoryAbove n = .ok (Path.directoryOf path) := by
  rw [directoryAbove, h]

/-- so that it is known where there is one. -/
theorem exists_directoryAbove {n : Node} (h : n.relativePath.isSome) :
    ∃ path, directoryAbove n = .ok path := by
  obtain ⟨path, eq⟩ := Option.isSome_iff_exists.mp h
  exact ⟨_, directoryAbove_eq eq⟩

/-- Something is proposed for a code element, or nothing is, as long as it has its kind, -/
theorem exists_elementProposal (s : BuildState α) (edge : Node → String → Edge α) {n : Node}
    (h : n.elementKind.isSome) : ∃ e?, s.elementProposal edge n = .ok e? := by
  obtain ⟨kind, eq⟩ := Option.isSome_iff_exists.mp h
  unfold elementProposal
  rw [eq]
  split <;> exact ⟨_, rfl⟩

/-- and what is proposed is the edge for its file. -/
theorem elementProposal_eq_some {s : BuildState α} {edge : Node → String → Edge α} {n : Node}
    {e : Edge α} (h : s.elementProposal edge n = .ok (some e)) : ∃ file kind, e = edge file kind := by
  unfold elementProposal at h
  split at h
  · cases h
  · split at h
    · exact ⟨_, _, (Option.some.inj (Except.ok.inj h)).symm⟩
    · cases h

/-! ## Steps and what they add -/

/-- What a step that offers the edges `proposals` does: it adds some of them, in order, and counts them. -/
def Offered (s : BuildState α) (proposals : List (Edge α)) (t : BuildState α) (count : Nat) : Prop :=
  ∃ new, Adds s new t ∧ new.Sublist proposals ∧ count = new.length

/-- Nothing need be added. -/
theorem Offered.nothing (s : BuildState α) (proposals : List (Edge α)) : Offered s proposals s 0 :=
  ⟨[], Adds.refl s, List.nil_sublist _, rfl⟩

/-- What is offered in two parts is offered in one, and counted together. -/
theorem Offered.append {s t u : BuildState α} {first later : List (Edge α)} {m n : Nat}
    (h : Offered s first t m) (h' : Offered t later u n) : Offered s (first ++ later) u (m + n) := by
  obtain ⟨new, adds, sub, rfl⟩ := h
  obtain ⟨new', adds', sub', rfl⟩ := h'
  exact ⟨new ++ new', adds.trans adds', sub.append sub', by simp⟩

/-- A step adds edges of a certain sort, counts them, and meets no fault, wherever every node has the fields of its
kind. -/
def Relates (P : Edge α → Prop) (step : BuildState α → StepResult α) : Prop :=
  ∀ s : BuildState α, (∀ n ∈ s.nodes.toList, n.Complete) →
    ∃ t count new, step s = (t, .ok count) ∧ Adds s new t ∧ count = new.length ∧ ∀ e ∈ new, P e

/-- A sort of edges may be taken for a wider one. -/
theorem Relates.mono {P Q : Edge α → Prop} {step : BuildState α → StepResult α}
    (h : Relates P step) (sub : ∀ e, P e → Q e) : Relates Q step := by
  intro s complete
  obtain ⟨t, count, new, run, adds, length, sort⟩ := h s complete
  exact ⟨t, count, new, run, adds, length, fun e mem => sub e (sort e mem)⟩

/-- What a step adds is of the sort of what it proposes. -/
theorem relates_of_offered {P : Edge α → Prop} {step : BuildState α → StepResult α}
    (h : ∀ s : BuildState α, (∀ n ∈ s.nodes.toList, n.Complete) →
      ∃ t count proposals, step s = (t, .ok count) ∧ Offered s proposals t count ∧
        ∀ e ∈ proposals, P e) : Relates P step := by
  intro s complete
  obtain ⟨t, count, proposals, run, ⟨new, adds, sub, length⟩, sort⟩ := h s complete
  exact ⟨t, count, new, run, adds, length, fun e mem => sort e (sub.subset mem)⟩

/-- A run that comes to its end goes on with what is behind it. -/
theorem runSteps_append {s t : BuildState α} {steps : List (BuildState α → StepResult α)}
    (run : s.runSteps steps = (t, none)) (more : List (BuildState α → StepResult α)) :
    s.runSteps (steps ++ more) = t.runSteps more := by
  induction steps generalizing s with
  | nil =>
      obtain rfl : s = t := congrArg Prod.fst run
      rfl
  | cons step rest ih =>
      rw [List.cons_append, runSteps]
      rw [runSteps] at run
      split at run
      · exact ih run
      · cases run

/-- **What every step keeps, a run of steps keeps**, whether or not a fault ends it. -/
theorem runSteps_keeps {P : BuildState α → Prop} (steps : List (BuildState α → StepResult α))
    (keeps : ∀ step ∈ steps, ∀ s, P s → P (step s).1) {s : BuildState α} (start : P s) :
    P (s.runSteps steps).1 := by
  induction steps generalizing s with
  | nil => exact start
  | cons step rest ih =>
      obtain ⟨here, later⟩ := List.forall_mem_cons.mp keeps
      have kept := here s start
      rw [runSteps]
      split
      · next taken =>
          rw [taken] at kept
          exact ih later kept
      · next taken => rwa [taken] at kept

/-- **A run of steps** adds edges of the sort that its steps add, and meets no fault.  By induction over the steps:
what one of them leaves has the same nodes, so that the next one meets no fault either. -/
theorem runSteps_adds {P : Edge α → Prop} (steps : List (BuildState α → StepResult α))
    (relates : ∀ step ∈ steps, Relates P step) {s : BuildState α}
    (complete : ∀ n ∈ s.nodes.toList, n.Complete) :
    ∃ t new, s.runSteps steps = (t, none) ∧ Adds s new t ∧ ∀ e ∈ new, P e := by
  induction steps generalizing s with
  | nil => exact ⟨s, [], rfl, Adds.refl s, by simp⟩
  | cons step rest ih =>
      obtain ⟨here, later⟩ := List.forall_mem_cons.mp relates
      obtain ⟨t, count, new, run, adds, -, sort⟩ := here s complete
      have complete' : ∀ n ∈ t.nodes.toList, n.Complete := by rwa [adds.nodes]
      obtain ⟨u, more, run', adds', sort'⟩ := ih later complete'
      refine ⟨u, new ++ more, ?_, adds.trans adds', ?_⟩
      · rw [runSteps, run]
        exact run'
      · intro e mem
        exact (List.mem_append.mp mem).elim (sort e) (sort' e)

/-! ## Offers -/

variable [Scalar α] {filters : Filters α}

/-- When an edge is taken up. -/
theorem accepts_iff {s : BuildState α} {e : Edge α} :
    s.accepts filters e = true ↔
      filters.passes e = true ∧ s.nodes.contains e.source = true ∧
        s.nodes.contains e.target = true ∧ s.edges.contains e.id = false := by
  simp only [accepts, Filters.passes, Bool.and_eq_true, Bool.not_eq_true', and_assoc]

/-- An edge that is accepted comes behind the others. -/
theorem adds_addEdge {s : BuildState α} {e : Edge α} (accepted : s.accepts filters e = true) :
    Adds s [e] (s.addEdge e) := by
  obtain ⟨-, source, target, unknown⟩ := accepts_iff.mp accepted
  refine ⟨rfl, ?_, by simpa using ⟨source, target⟩⟩
  rw [addEdge, Catalog.toList_insertNew, if_neg (by simp [unknown])]

/-- One offer adds the edge or nothing, and counts it. -/
theorem offered_offer (filters : Filters α) (progress : BuildState α × Nat) (e : Edge α) :
    ∃ m, Offered progress.1 [e] (offer filters progress e).1 m ∧
      (offer filters progress e).2 = progress.2 + m := by
  unfold offer
  split
  · next accepted => exact ⟨1, ⟨[e], adds_addEdge accepted, List.Sublist.refl _, rfl⟩, rfl⟩
  · exact ⟨0, Offered.nothing _ _, rfl⟩

/-- **A run of offers** adds some of what is offered, by induction over the offers. -/
theorem offered_foldl_offer (filters : Filters α) (proposals : List (Edge α))
    (progress : BuildState α × Nat) :
    ∃ m, Offered progress.1 proposals (proposals.foldl (offer filters) progress).1 m ∧
      (proposals.foldl (offer filters) progress).2 = progress.2 + m := by
  induction proposals generalizing progress with
  | nil => exact ⟨0, Offered.nothing _ _, rfl⟩
  | cons e rest ih =>
      obtain ⟨m, first, count⟩ := offered_offer filters progress e
      obtain ⟨n, later, count'⟩ := ih (offer filters progress e)
      exact ⟨m + n, first.append later, by rw [List.foldl_cons, count', count]; omega⟩

/-- **A run of offers up to a limit** adds some of what is proposed.  A limit that has been reached leaves out offers,
which makes what is added no more than part of what is proposed. -/
theorem offered_foldl_offerUpTo (filters : Filters α) (limit : Int)
    (propose : Placed × Placed → Option (Edge α)) (pairs : List (Placed × Placed))
    (progress : BuildState α × Nat) :
    ∃ m, Offered progress.1 (pairs.filterMap propose)
        (pairs.foldl (offerUpTo filters limit propose) progress).1 m ∧
      (pairs.foldl (offerUpTo filters limit propose) progress).2 = progress.2 + m := by
  induction pairs generalizing progress with
  | nil => exact ⟨0, Offered.nothing _ _, rfl⟩
  | cons pair rest ih =>
      -- A pair that proposes nothing is passed over, as is every pair behind the limit.
      have here : ∃ m, Offered progress.1 (propose pair).toList
            (offerUpTo filters limit propose progress pair).1 m ∧
          (offerUpTo filters limit propose progress pair).2 = progress.2 + m := by
        unfold offerUpTo
        split
        · exact ⟨0, Offered.nothing _ _, rfl⟩
        · cases proposed : propose pair with
          | none => exact ⟨0, Offered.nothing _ _, rfl⟩
          | some e => exact offered_offer filters progress e
      have split : (pair :: rest).filterMap propose
          = (propose pair).toList ++ rest.filterMap propose := by
        cases proposed : propose pair <;> simp [proposed]
      obtain ⟨m, first, count⟩ := here
      obtain ⟨n, later, count'⟩ := ih (offerUpTo filters limit propose progress pair)
      refine ⟨m + n, ?_, by rw [List.foldl_cons, count', count]; omega⟩
      rw [split]
      exact first.append later

/-- What an offer that does not pass leaves is what was there. -/
theorem offer_of_not_passes {progress : BuildState α × Nat} {e : Edge α}
    (refused : filters.passes e = false) : offer filters progress e = progress := by
  have stays : ¬ progress.1.accepts filters e = true := by
    rw [accepts_iff, refused]
    exact fun accepted => Bool.false_ne_true accepted.1
  rw [offer, if_neg stays]

/-- **Every edge that a run of offers adds** was offered and passes. -/
theorem mem_edges_foldl_offer {proposals : List (Edge α)} {progress : BuildState α × Nat} {e : Edge α}
    (mem : e ∈ (proposals.foldl (offer filters) progress).1.edges.toList) :
    e ∈ progress.1.edges.toList ∨ e ∈ proposals ∧ filters.passes e = true := by
  induction proposals generalizing progress with
  | nil => exact Or.inl mem
  | cons first rest ih =>
      rcases ih mem with early | ⟨later, passes⟩
      · unfold offer at early
        split at early
        · next accepted =>
            rcases Catalog.mem_insertNew.mp early with old | ⟨rfl, -⟩
            · exact Or.inl old
            · exact Or.inr ⟨List.mem_cons_self, (accepts_iff.mp accepted).1⟩
        · exact Or.inl early
      · exact Or.inr ⟨List.mem_cons_of_mem _ later, passes⟩

/-- **A limit that is not exceeded by what passes has no effect.**  By induction over the pairs: each that passes
takes one from the room that is left, whether or not an edge is added for it, so that there is room for all of them.
-/
theorem foldl_offerUpTo_eq (filters : Filters α) (limit : Int)
    (propose : Placed × Placed → Option (Edge α)) (pairs : List (Placed × Placed))
    (progress : BuildState α × Nat)
    (few : (progress.2 + (pairs.filter fun pair => (propose pair).any filters.passes).length : Int)
      ≤ limit) :
    pairs.foldl (offerUpTo filters limit propose) progress
      = (pairs.filterMap propose).foldl (offer filters) progress := by
  induction pairs generalizing progress with
  | nil => rfl
  | cons pair rest ih =>
      rw [List.foldl_cons, List.filterMap_cons]
      rw [List.filter_cons] at few
      cases proposed : propose pair with
      | none =>
          rw [proposed] at few
          have here : offerUpTo filters limit propose progress pair = progress := by
            unfold offerUpTo
            rw [proposed]
            split <;> rfl
          rw [here]
          exact ih progress (by simpa using few)
      | some e =>
          rw [proposed, Option.any_some] at few
          rw [List.foldl_cons]
          cases passes : filters.passes e with
          | false =>
              rw [passes] at few
              have here : offerUpTo filters limit propose progress pair = progress := by
                unfold offerUpTo
                rw [proposed]
                dsimp only
                rw [offer_of_not_passes passes, ite_self]
              rw [here, offer_of_not_passes passes]
              exact ih progress (by simpa using few)
          | true =>
              -- There is room for this edge, and what it adds to the count is taken from what may still come.
              rw [passes, if_pos rfl, List.length_cons] at few
              have room : ¬ limit ≤ (progress.2 : Int) := by omega
              have here : offerUpTo filters limit propose progress pair = offer filters progress e := by
                rw [offerUpTo, if_neg room, proposed]
              have count : (offer filters progress e).2 ≤ progress.2 + 1 := by
                unfold offer
                split <;> simp
              rw [here]
              exact ih _ (by omega)

/-- **An edge between nodes that passes is there once it has been offered**, by itself or by an earlier one with its
id.  What comes behind its own offer takes nothing away. -/
theorem contains_foldl_offer (filters : Filters α) {proposals : List (Edge α)}
    (progress : BuildState α × Nat) {e : Edge α}
    (mem : e ∈ proposals) (passes : filters.passes e = true)
    (source : progress.1.nodes.contains e.source = true)
    (target : progress.1.nodes.contains e.target = true) :
    (proposals.foldl (offer filters) progress).1.edges.contains e.id = true := by
  induction proposals generalizing progress with
  | nil => cases mem
  | cons first rest ih =>
      obtain ⟨-, ⟨new, added, -⟩, -⟩ := offered_offer filters progress first
      rw [List.foldl_cons]
      rcases List.mem_cons.mp mem with rfl | later
      · -- An offer between nodes that passes can only be refused for its id.
        have here : (offer filters progress e).1.edges.contains e.id = true := by
          unfold offer
          split
          · exact Catalog.contains_insertNew.mpr (Or.inr rfl)
          · next refused =>
              rw [accepts_iff] at refused
              simpa [passes, source, target] using refused
        obtain ⟨-, ⟨new', added', -⟩, -⟩ :=
          offered_foldl_offer filters rest (offer filters progress e)
        exact added'.contains here
      · refine ih _ later ?_ ?_ <;> rwa [added.nodes]

/-- **What has been offered is refused from then on**, whatever has become of it: its weight and its ends are as they
were, and if these were no reason to refuse it, its id is taken now. -/
theorem accepts_of_offered {proposals : List (Edge α)} {progress : BuildState α × Nat}
    {t : BuildState α} {more : List (Edge α)}
    (later : Adds (proposals.foldl (offer filters) progress).1 more t) {e : Edge α}
    (mem : e ∈ proposals) : t.accepts filters e = false := by
  obtain ⟨-, ⟨new, adds, -⟩, -⟩ := offered_foldl_offer filters proposals progress
  rw [Bool.eq_false_iff, Ne, accepts_iff, later.nodes, adds.nodes]
  rintro ⟨passes, source, target, unknown⟩
  have taken := later.contains (contains_foldl_offer filters progress mem passes source target)
  rw [taken] at unknown
  cases unknown

/-- Offers of edges that are refused leave everything as it is. -/
theorem foldl_offer_eq_of_refused {proposals : List (Edge α)} {progress : BuildState α × Nat}
    (refused : ∀ e ∈ proposals, progress.1.accepts filters e = false) :
    proposals.foldl (offer filters) progress = progress := by
  induction proposals with
  | nil => rfl
  | cons e rest ih =>
      obtain ⟨here, later⟩ := List.forall_mem_cons.mp refused
      have stays : offer filters progress e = progress := if_neg (by simp [here])
      rw [List.foldl_cons, stays]
      exact ih later

/-- Edges that do not pass are refused. -/
theorem foldl_offer_eq_of_not_passes (filters : Filters α) (proposals : List (Edge α))
    (refused : ∀ e ∈ proposals, filters.passes e = false) (progress : BuildState α × Nat) :
    proposals.foldl (offer filters) progress = progress := by
  refine foldl_offer_eq_of_refused fun e mem => ?_
  rw [Bool.eq_false_iff, Ne, accepts_iff, refused e mem]
  exact fun accepted => Bool.false_ne_true accepted.1

/-- Where a relation had no edges, those that it has after some offers were offered. -/
theorem mem_of_mem_edgesOf_foldl_offer {s : BuildState α} {r : Relation} (filters : Filters α)
    {proposals : List (Edge α)} (start : s.edgesOf r = []) {e : Edge α}
    (mem : e ∈ (proposals.foldl (offer filters) (s, 0)).1.edgesOf r) : e ∈ proposals := by
  obtain ⟨-, ⟨new, adds, sub, -⟩, -⟩ := offered_foldl_offer filters proposals (s, 0)
  rw [adds.edgesOf, start, List.nil_append] at mem
  exact sub.subset (List.mem_filter.mp mem).1

/-- Proposals that are edges are offered as such. -/
theorem offerAll_map_ok (s : BuildState α) (proposals : List (Edge α)) :
    s.offerAll filters (proposals.map .ok)
      = ((proposals.foldl (offer filters) (s, 0)).1,
          .ok (proposals.foldl (offer filters) (s, 0)).2) := by
  have run := runUntilFault_map_ok (offer filters) proposals (s, 0)
  unfold offerAll
  rw [run]

/-- **Proposals without a fault** are all offered. -/
theorem offered_offerAll (filters : Filters α) (s : BuildState α)
    {proposals : List (Except Fault (Edge α))} (ok : ∀ p ∈ proposals, ∃ e, p = .ok e) :
    ∃ t count, s.offerAll filters proposals = (t, .ok count) ∧
      Offered s (reached proposals) t count := by
  obtain ⟨m, offered, count⟩ := offered_foldl_offer filters (reached proposals) (s, 0)
  refine ⟨_, m, ?_, offered⟩
  rw [← map_reached_of_ok ok, offerAll_map_ok, map_reached_of_ok ok, count, Nat.zero_add]

/-- Offers that come to their end have met no fault. -/
theorem ok_of_offerAll {s t : BuildState α} {proposals : List (Except Fault (Edge α))} {count : Nat}
    (run : s.offerAll filters proposals = (t, .ok count)) : ∀ p ∈ proposals, ∃ e, p = .ok e := by
  unfold offerAll at run
  split at run
  · next finished =>
      -- Whether an offer can be made depends on the proposal alone.
      refine (runUntilFault_finishes_iff (fun _ _ => True) (fun p => ∃ e, p = .ok e) [] proposals
        (fun _ _ _ _ _ _ _ _ => trivial) (fun _ _ _ _ _ _ => exists_map_eq_ok_iff) trivial).mp ⟨_, finished⟩
  · cases run

/-- Whether or not a fault ends the offers, the state is that after the proposals in front of it. -/
theorem offerAll_fst (filters : Filters α) (s : BuildState α)
    (proposals : List (Except Fault (Edge α))) :
    (s.offerAll filters proposals).1 = ((reached proposals).foldl (offer filters) (s, 0)).1 := by
  have run : ∀ progress : BuildState α × Nat,
      (runUntilFault (fun progress (p : Except Fault (Edge α)) => p.map (offer filters progress))
        progress proposals).1 = (reached proposals).foldl (offer filters) progress := by
    induction proposals with
    | nil => exact fun _ => rfl
    | cons p rest ih =>
        cases p with
        | error f => exact fun _ => rfl
        | ok e => exact fun progress => ih (offer filters progress e)
  rw [← run (s, 0), offerAll]
  split <;> next eq => rw [eq]

/-- Offers add edges, whether or not a fault ends them. -/
theorem adds_offerAll (filters : Filters α) (s : BuildState α)
    (proposals : List (Except Fault (Edge α))) : ∃ new, Adds s new (s.offerAll filters proposals).1 := by
  obtain ⟨-, ⟨new, adds, -⟩, -⟩ := offered_foldl_offer filters (reached proposals) (s, 0)
  exact ⟨new, by rwa [offerAll_fst]⟩

/-! ## What is proposed for each relation -/

variable {around : Surroundings α}

/-- What is proposed to contain a node. -/
def containmentDraft (s : BuildState α) (n : Node) : Except Fault (Option (Edge α)) :=
  match n.kind with
  | .project => .ok none
  | .directory => s.directoryProposal n
  | .file => s.fileProposal n
  | .codeElement => s.elementContained n

/-- What is proposed to contain nodes, kind by kind. -/
def containmentDrafts (s : BuildState α) : List (Except Fault (Option (Edge α))) :=
  (s.nodesOf .directory).map s.directoryProposal ++ (s.nodesOf .file).map s.fileProposal
    ++ (s.nodesOf .codeElement).map s.elementContained

/-- There is a draft for every node but the project. -/
theorem mem_containmentDrafts {s : BuildState α} {d : Except Fault (Option (Edge α))} :
    d ∈ s.containmentDrafts
      ↔ ∃ n ∈ s.nodes.toList, n.kind ≠ .project ∧ s.containmentDraft n = d := by
  simp only [containmentDrafts, List.mem_append, List.mem_map, mem_nodesOf]
  constructor
  · rintro ((⟨n, ⟨mem, kind⟩, rfl⟩ | ⟨n, ⟨mem, kind⟩, rfl⟩) | ⟨n, ⟨mem, kind⟩, rfl⟩) <;>
      exact ⟨n, mem, by simp [kind], by simp only [containmentDraft, kind]⟩
  · rintro ⟨n, mem, ne, rfl⟩
    cases kind : n.kind with
    | project => exact absurd kind ne
    | directory => exact Or.inl (Or.inl ⟨n, ⟨mem, kind⟩, by simp only [containmentDraft, kind]⟩)
    | file => exact Or.inl (Or.inr ⟨n, ⟨mem, kind⟩, by simp only [containmentDraft, kind]⟩)
    | codeElement => exact Or.inr ⟨n, ⟨mem, kind⟩, by simp only [containmentDraft, kind]⟩

/-- A directory with its path can be looked up above, -/
theorem exists_directoryProposal (s : BuildState α) {n : Node} (h : n.relativePath.isSome) :
    ∃ e?, s.directoryProposal n = .ok e? := by
  obtain ⟨path, above⟩ := exists_directoryAbove h
  unfold directoryProposal
  rw [above]
  split <;> exact ⟨_, rfl⟩

/-- and so can a file. -/
theorem exists_fileProposal (s : BuildState α) {n : Node} (h : n.relativePath.isSome) :
    ∃ e?, s.fileProposal n = .ok e? := by
  obtain ⟨path, above⟩ := exists_directoryAbove h
  unfold fileProposal
  rw [above]
  exact ⟨_, rfl⟩

/-- So the drafts of containment meet no fault where every node has the fields of its kind. -/
theorem containmentDrafts_ok {s : BuildState α} (complete : ∀ n ∈ s.nodes.toList, n.Complete) :
    ∀ d ∈ s.containmentDrafts, ∃ e?, d = .ok e? := by
  intro d draft
  obtain ⟨n, mem, -, rfl⟩ := mem_containmentDrafts.mp draft
  unfold containmentDraft
  cases kind : n.kind with
  | project => exact ⟨none, rfl⟩
  | directory => exact s.exists_directoryProposal ((complete n mem).path (Or.inl kind))
  | file => exact s.exists_fileProposal ((complete n mem).path (Or.inr kind))
  | codeElement => exact s.exists_elementProposal _ ((complete n mem).element kind)

/-- Containment is proposed by structural edges. -/
theorem containmentDraft_eq_some {s : BuildState α} {n : Node} {e : Edge α}
    (h : s.containmentDraft n = .ok (some e)) : ∃ source target description line,
      e = structuralEdge source target .contains description line := by
  unfold containmentDraft at h
  split at h
  · cases h
  · unfold directoryProposal at h
    split at h
    · obtain ⟨project, -, rfl⟩ := Option.map_eq_some_iff.mp (Except.ok.inj h)
      exact ⟨_, _, _, _, rfl⟩
    · obtain ⟨path, -, h⟩ := map_eq_ok_iff.mp h
      obtain ⟨parent, -, rfl⟩ := Option.map_eq_some_iff.mp h
      exact ⟨_, _, _, _, rfl⟩
  · obtain ⟨path, -, h⟩ := map_eq_ok_iff.mp h
    split at h <;> obtain ⟨parent, -, rfl⟩ := Option.map_eq_some_iff.mp h <;> exact ⟨_, _, _, _, rfl⟩
  · obtain ⟨file, kind, rfl⟩ := elementProposal_eq_some h
    exact ⟨_, _, _, _, rfl⟩

/-- What is proposed to define code elements. -/
def definitionDrafts (s : BuildState α) : List (Except Fault (Option (Edge α))) :=
  (s.nodesOf .codeElement).map s.elementDefined

/-- The drafts of definitions meet none there either. -/
theorem definitionDrafts_ok {s : BuildState α} (complete : ∀ n ∈ s.nodes.toList, n.Complete) :
    ∀ d ∈ s.definitionDrafts, ∃ e?, d = .ok e? := by
  intro d draft
  obtain ⟨n, node, rfl⟩ := List.mem_map.mp draft
  obtain ⟨mem, kind⟩ := mem_nodesOf.mp node
  exact s.exists_elementProposal _ ((complete n mem).element kind)

/-- Structural edges have the full weight, -/
theorem unscored_structuralEdge (source target : String) (r : Relation) (description : String) (line : Json) :
    (structuralEdge source target r description line : Edge α).Unscored r :=
  ⟨rfl, rfl, fun _ _ _ _ => nofun⟩

/-- and so have imports, -/
theorem unscored_of_mem_importProposals {s : BuildState α} {e : Edge α}
    (mem : e ∈ s.importProposals around) : e.Unscored .imports := by
  simp only [importProposals, List.mem_flatMap] at mem
  obtain ⟨⟨importer, specifiers⟩, -, mem⟩ := mem
  split at mem
  · cases mem
  · obtain ⟨specifier, -, eq⟩ := List.mem_filterMap.mp mem
    obtain ⟨resolved, -, eq⟩ := Option.bind_eq_some_iff.mp eq
    obtain ⟨target, -, rfl⟩ := Option.map_eq_some_iff.mp eq
    exact ⟨rfl, rfl, fun _ _ _ _ => nofun⟩

/-- and calls. -/
theorem unscored_of_mem_callProposals {s : BuildState α} {e : Edge α} (mem : e ∈ s.callProposals) :
    e.Unscored .calls := by
  simp only [callProposals, List.mem_flatMap, List.mem_map] at mem
  obtain ⟨caller, -, name, -, callee, -, rfl⟩ := mem
  exact ⟨rfl, rfl, fun _ _ _ _ => nofun⟩

/-- What is proposed for two entities of one file.  The threshold has to be exceeded, as nothing is proposed for a
score that is at most as great. -/
theorem sameFileProposal_eq_some_iff {s : BuildState α} {a b : Placed} {e : Edge α} :
    s.sameFileProposal around (a, b) = some e ↔
      (comparable a.entity b.entity = true ∧
        Scalar.le (s.score around a b) around.filters.sameFileThreshold = false ∧
          a.nodeId ≠ b.nodeId) ∧ similarEdge a b (s.score around a b) false = e := by
  simp only [sameFileProposal, Option.ite_none_right_eq_some, Option.some.injEq, Bool.and_eq_true,
    Bool.not_eq_true', bne_iff_ne, and_assoc]

/-- What is proposed for two entities of two files. -/
theorem crossFileProposal_eq_some_iff {s : BuildState α} {a b : Placed} {e : Edge α} :
    s.crossFileProposal around (a, b) = some e ↔
      (Scalar.lt around.filters.crossFileThreshold (s.score around a b) = true ∧
        a.nodeId ≠ b.nodeId) ∧ similarEdge a b (s.score around a b) true = e := by
  simp only [crossFileProposal, Option.ite_none_right_eq_some, Option.some.injEq, Bool.and_eq_true,
    bne_iff_ne]

/-- Both are edges between similar entities, -/
theorem relation_of_sameFileProposal {s : BuildState α} {pair : Placed × Placed} {e : Edge α}
    (h : s.sameFileProposal around pair = some e) : e.relation = .relatedTo := by
  obtain ⟨-, rfl⟩ := sameFileProposal_eq_some_iff.mp h
  rfl

/-- within files and across them. -/
theorem relation_of_crossFileProposal {s : BuildState α} {pair : Placed × Placed} {e : Edge α}
    (h : s.crossFileProposal around pair = some e) : e.relation = .relatedTo := by
  obtain ⟨-, rfl⟩ := crossFileProposal_eq_some_iff.mp h
  rfl

omit [Scalar α] in
/-- Which pairs are looked at across files depends on no other edges than the imports. -/
theorem crossFilePairs_congr {s t : BuildState α} (frame : t = { s with edges := t.edges })
    (imports : t.edgesOf .imports = s.edgesOf .imports) : t.crossFilePairs = s.crossFilePairs := by
  have linked : t.isLinked = s.isLinked := by
    funext path
    unfold isLinked importLinked
    rw [imports, frame]
    rfl
  unfold crossFilePairs
  rw [linked, frame]
  rfl

omit [Scalar α] in
/-- Without imports there are no such pairs. -/
theorem crossFilePairs_eq_nil {s : BuildState α} (none : s.edgesOf .imports = []) :
    s.crossFilePairs = [] := by
  have linked : ∀ path, s.isLinked path = false := by
    intro path
    unfold isLinked importLinked
    rw [none]
    split <;> rfl
  have groups : (s.placedByFile.filter fun g => s.isLinked g.1) = [] :=
    List.filter_eq_nil_iff.mpr (by simp [linked])
  rw [crossFilePairs, groups]
  rfl

/-- What is proposed within files. -/
def sameFileProposals (around : Surroundings α) (s : BuildState α) : List (Edge α) :=
  (s.placedByFile.flatMap fun g => pairs g.2).filterMap (s.sameFileProposal around)

/-- The same for all that is proposed within files. -/
theorem relation_of_mem_sameFileProposals {s : BuildState α} {e : Edge α}
    (mem : e ∈ s.sameFileProposals around) : e.relation = .relatedTo := by
  obtain ⟨pair, -, proposed⟩ := List.mem_filterMap.mp mem
  exact relation_of_sameFileProposal proposed

/-- The pairs within files are offered, one after the other. -/
theorem relateSameFile_eq (around : Surroundings α) (s : BuildState α) :
    s.relateSameFile around = (s.sameFileProposals around).foldl (offer around.filters) (s, 0) := rfl

/-- What is added for them is part of what is proposed. -/
theorem offered_relateSameFile (around : Surroundings α) (s : BuildState α) :
    Offered s (s.sameFileProposals around) (s.relateSameFile around).1 (s.relateSameFile around).2 := by
  obtain ⟨m, offered, count⟩ :=
    offered_foldl_offer around.filters (s.sameFileProposals around) (s, 0)
  rw [Nat.zero_add] at count
  rw [relateSameFile_eq, count]
  exact offered

/-- The pairs within files leave the imports as they are. -/
theorem imports_relateSameFile (around : Surroundings α) (s : BuildState α) :
    (s.relateSameFile around).1.edgesOf .imports = s.edgesOf .imports := by
  obtain ⟨new, adds, sub, -⟩ := offered_relateSameFile around s
  refine adds.edgesOf_eq fun e mem eq => ?_
  rw [relation_of_mem_sameFileProposals (sub.subset mem)] at eq
  cases eq

/-- So it is for pairs across files, up to the limit. -/
theorem offered_relateCrossFile (around : Surroundings α) (s : BuildState α) :
    Offered s (s.crossFilePairs.filterMap (s.crossFileProposal around))
      (s.relateCrossFile around).1 (s.relateCrossFile around).2 := by
  obtain ⟨m, offered, count⟩ := offered_foldl_offerUpTo around.filters
    around.filters.maxCrossFileRelations (s.crossFileProposal around) s.crossFilePairs (s, 0)
  obtain rfl : (s.relateCrossFile around).2 = m := count.trans (Nat.zero_add m)
  exact offered

/-- Pairs across files come behind those within files. -/
theorem relateSimilar_eq (around : Surroundings α) (s : BuildState α) :
    s.relateSimilar around
      = (((s.relateSameFile around).1.relateCrossFile around).1,
          .ok ((s.relateSameFile around).2
            + ((s.relateSameFile around).1.relateCrossFile around).2)) := by
  unfold relateSimilar
  rfl

end BuildState

end CodeAtlas
