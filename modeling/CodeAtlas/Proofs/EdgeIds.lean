import CodeAtlas.Proofs.Build

/-!
# Which edges are refused for their id

A step for a relation offers edges one after the other, and an edge whose id is taken is refused.  This is
meant for edges that are there already.  The id of an edge is made of its ends with an arrow in between, and
the ids of nodes may have arrows of their own, so that an edge may also be refused for the id of another one.

`BuildState.Offers` says which edges a step offers, and in which state, and `Builder.Offers` says it of a whole
build.  Behind every offer there is the rest of the build, which takes no edge away (`Built.adds_of_offers`).

So a refused edge has an edge of its id in front of it, and `Builder.edges_refused` says when this one is the
same edge: always if no two nodes of the graph overlap across an arrow (`Crossing`), and this is exactly when
edges between its nodes are told apart by their ids.  Without arrows in ids of nodes there is no such pair
(`not_crossing_of_no_arrow`).
-/

namespace CodeAtlas

/-! ## Ids of nodes with arrows in them -/

/-- Two ids overlap across an arrow, in a text that is not there alone: what stands between the two arrows of
`front->between->back` can be put to either end. -/
def Crossing (ids : List String) : Prop :=
  ∃ front ∈ ids, ∃ back ∈ ids, ∃ between,
    front ++ "->" ++ between ∈ ids ∧ between ++ "->" ++ back ∈ ids

/-- Edges between some nodes are told apart by their ids: the id of an edge tells its two ends and its relation, as
long as the ends are among these nodes. -/
def ToldApart (ids : List String) : Prop :=
  ∀ source ∈ ids, ∀ target ∈ ids, ∀ source' ∈ ids, ∀ target' ∈ ids, ∀ r r' : Relation,
    Edge.idOf source target r = Edge.idOf source' target' r' →
      source = source' ∧ target = target' ∧ r = r'

/-- A text is not followed by an arrow in itself. -/
theorem ne_append_arrow (front between : String) : front ≠ front ++ "->" ++ between := by
  intro eq
  have lengths := congrArg (List.length ∘ String.toList) eq
  simp [String.toList_append] at lengths

/-- **Edges are told apart exactly if no two nodes overlap across an arrow.**  Two edges with one id have their arrows
in different places of the same text, and what stands between the two places overlaps. -/
theorem toldApart_iff {ids : List String} : ToldApart ids ↔ ¬ Crossing ids := by
  constructor
  · rintro apart ⟨front, hfront, back, hback, between, longer, shorter⟩
    refine ne_append_arrow front between (apart _ hfront _ shorter _ longer _ hback .contains .contains ?_).1
    exact Edge.idOf_eq_iff.mpr ⟨rfl, Or.inr (Or.inl ⟨between, rfl, rfl⟩)⟩
  · intro apart source hs target ht source' hs' target' ht' r r' eq
    obtain ⟨rfl, ⟨rfl, rfl⟩ | ⟨between, rfl, rfl⟩ | ⟨between, rfl, rfl⟩⟩ := Edge.idOf_eq_iff.mp eq
    · exact ⟨rfl, rfl, rfl⟩
    · exact absurd ⟨source, hs, target', ht', between, hs', ht⟩ apart
    · exact absurd ⟨source', hs', target, ht, between, hs, ht'⟩ apart

/-- Without arrows in ids nothing overlaps, since an overlapping id has one in it. -/
theorem not_crossing_of_no_arrow {ids : List String}
    (free : ∀ id ∈ ids, ¬ ['-', '>'] <:+: id.toList) : ¬ Crossing ids := by
  rintro ⟨front, -, -, -, between, longer, -⟩
  exact free _ longer ⟨front.toList, between.toList, by simp [String.toList_append]⟩

namespace BuildState

variable {α : Type} {s t v : BuildState α} {r : Relation} {e : Edge α}

/-- Where edges are told apart by their ids, an id leads to one pair of nodes and one relation.  The ends of all edges
that were added are nodes, which is what brings them under the hypothesis. -/
theorem Adds.same_of_id_eq {new : List (Edge α)} (h : Adds s new v) (start : s.edges = .empty)
    (apart : ToldApart (s.nodes.toList.map Node.id)) (source : s.nodes.contains e.source = true)
    (target : s.nodes.contains e.target = true) {e' : Edge α} (mem : e' ∈ v.edges.toList)
    (id : e'.id = e.id) : e'.ends = e.ends ∧ e'.relation = e.relation := by
  rw [h.edges, start] at mem
  obtain ⟨source', target'⟩ := h.ends e' mem
  rw [Catalog.contains_eq_true_iff] at source target source' target'
  obtain ⟨eqSource, eqTarget, relation⟩ :=
    apart _ source' _ target' _ source _ target e'.relation e.relation id
  exact ⟨Prod.ext eqSource eqTarget, relation⟩

variable [Scalar α] {around : Surroundings α} {filters : Filters α}

/-! ## What a run offers -/

/-- The step for the relation `r` that is taken in the state `t` comes to the state `v` and offers the edge `e` there.
A step offers what stands in a list, and a state in the middle is what the front of the list has left.  For pairs of
entities in different files the list is one of pairs, and an edge is offered for a pair only as long as there is room.
-/
inductive Offers (around : Surroundings α) (t : BuildState α) : Relation → BuildState α → Edge α → Prop
  | listed {r : Relation} {e : Edge α} {front back : List (Edge α)}
      (list : reached (t.proposed around r) = front ++ e :: back) :
      Offers around t r (front.foldl (offer around.filters) (t, 0)).1 e
  | withinFile {e : Edge α} {front back : List (Edge α)}
      (list : t.sameFileProposals around = front ++ e :: back) :
      Offers around t .relatedTo (front.foldl (offer around.filters) (t, 0)).1 e
  | acrossFiles {same v : BuildState α} {count : Nat} {e : Edge α} {pair : Placed × Placed}
      {front back : List (Placed × Placed)}
      (before : (t.relateSameFile around).1 = same) (list : same.crossFilePairs = front ++ pair :: back)
      (upTo : front.foldl (offerUpTo around.filters around.filters.maxCrossFileRelations
        (same.crossFileProposal around)) (same, 0) = (v, count))
      (room : (count : Int) < around.filters.maxCrossFileRelations)
      (proposed : same.crossFileProposal around pair = some e) : Offers around t .relatedTo v e

/-- What stands in front of an offer in a list adds edges, and so does what stands behind it. -/
theorem adds_of_split (filters : Filters α) (front back : List (Edge α)) (progress : BuildState α × Nat)
    (e : Edge α) : (∃ new, Adds progress.1 new (front.foldl (offer filters) progress).1) ∧
      ∃ n more, Adds (offer filters ((front.foldl (offer filters) progress).1, n) e).1 more
        ((front ++ e :: back).foldl (offer filters) progress).1 := by
  obtain ⟨-, ⟨new, adds, -⟩, -⟩ := offered_foldl_offer filters front progress
  obtain ⟨-, ⟨more, adds', -⟩, -⟩ := offered_foldl_offer filters back
    (offer filters (front.foldl (offer filters) progress) e)
  refine ⟨⟨new, adds⟩, (front.foldl (offer filters) progress).2, more, ?_⟩
  rw [List.foldl_append, List.foldl_cons]
  exact adds'

/-- **What a step does before an offer, and behind it.**  By the kinds of offers; for similar entities the pairs
within files come first, and the pairs across files are offered in the state that they have left. -/
theorem Offers.adds (h : Offers around t r v e) : (∃ new, Adds t new v) ∧
    ∃ n more, Adds (offer around.filters (v, n) e).1 more (relate around r t).1 := by
  have similar : (relate around .relatedTo t).1
      = ((t.relateSameFile around).1.relateCrossFile around).1 := by
    rw [relate, relateSimilar_eq]
  cases h with
  | @listed _ _ front back list =>
      have ne : r ≠ .relatedTo := by
        rintro rfl
        cases front <;> cases list
      rw [relate_eq_offerAll around t ne, offerAll_fst, list]
      exact adds_of_split around.filters front back (t, 0) e
  | @withinFile _ front back list =>
      obtain ⟨earlier, n, more, later⟩ := adds_of_split around.filters front back (t, 0) e
      obtain ⟨across, adds, -⟩ := offered_relateCrossFile around (t.relateSameFile around).1
      rw [← list, ← relateSameFile_eq] at later
      rw [similar]
      exact ⟨earlier, n, _, later.trans adds⟩
  | @acrossFiles same _ count _ pair front back before list upTo room proposed =>
      subst before
      obtain ⟨within, adds, -⟩ := offered_relateSameFile around t
      obtain ⟨-, ⟨new, adds', -⟩, -⟩ := offered_foldl_offerUpTo around.filters
        around.filters.maxCrossFileRelations ((t.relateSameFile around).1.crossFileProposal around) front
        ((t.relateSameFile around).1, 0)
      obtain ⟨-, ⟨more, adds'', -⟩, -⟩ := offered_foldl_offerUpTo around.filters
        around.filters.maxCrossFileRelations ((t.relateSameFile around).1.crossFileProposal around) back
        (offer around.filters (v, count) e)
      rw [upTo] at adds'
      refine ⟨⟨_, adds.trans adds'⟩, count, more, ?_⟩
      -- There is room for the pair, so that what is proposed for it is offered.
      have here : offerUpTo around.filters around.filters.maxCrossFileRelations
          ((t.relateSameFile around).1.crossFileProposal around) (v, count) pair
            = offer around.filters (v, count) e := by
        rw [offerUpTo, if_neg (by simpa using room), proposed]
      rw [similar, relateCrossFile, list, List.foldl_append, List.foldl_cons, upTo, here]
      exact adds''

/-- An offer between nodes that passes the filters is only refused for its id, -/
theorem contains_of_refused (passes : filters.passes e = true)
    (source : v.nodes.contains e.source = true) (target : v.nodes.contains e.target = true)
    (refused : v.accepts filters e = false) : v.edges.contains e.id = true := by
  by_contra unknown
  rw [Bool.not_eq_true] at unknown
  rw [accepts_iff.mpr ⟨passes, source, target, unknown⟩] at refused
  cases refused

/-- and its id is taken behind it. -/
theorem contains_offer (n : Nat) (passes : filters.passes e = true)
    (source : v.nodes.contains e.source = true) (target : v.nodes.contains e.target = true) :
    (offer filters (v, n) e).1.edges.contains e.id = true :=
  contains_foldl_offer filters (v, n) (List.mem_singleton_self e) passes source target

end BuildState

namespace Builder

variable {α : Type} [Scalar α] {b : Builder α} {fs : FileSystem} {now : String} {input : BuildInput}
  {imports exports : FileMap} {s u v : BuildState α} {g : Graph α} {e : Edge α}

/-- The state of a build in which the step for a relation is taken, if it is enabled. -/
def stateBefore (b : Builder α) (fs : FileSystem) (input : BuildInput) (r : Relation) :
    Except Fault (BuildState α) := do
  let imports ← fileMap b.workspace input.imports
  let exports ← fileMap b.workspace input.exports
  let s ← makeNodes fs (b.initialState imports exports) (placedEntities b.workspace input.sources)
  match s.runSteps ((r.before.filter b.filters.enables).map
    (BuildState.relate ⟨fs, b.filters, b.extensions⟩)) with
  | (t, none) => .ok t
  | (_, some f) => .error f

/-- A build comes to the state `v` and offers the edge `e` there. -/
def Offers (b : Builder α) (fs : FileSystem) (input : BuildInput) (v : BuildState α) (e : Edge α) :
    Prop :=
  ∃ r t, b.filters.enables r = true ∧ b.stateBefore fs input r = .ok t ∧
    BuildState.Offers ⟨fs, b.filters, b.extensions⟩ t r v e

/-- The state in front of a step is what the steps before it have left of the nodes. -/
theorem Built.runSteps_of_stateBefore (built : Built b fs now input imports exports s u g)
    {r : Relation} {t : BuildState α} (h : b.stateBefore fs input r = .ok t) :
    s.runSteps ((r.before.filter b.filters.enables).map
      (BuildState.relate ⟨fs, b.filters, b.extensions⟩)) = (t, none) := by
  simp only [stateBefore, built.importMap, built.exportMap, built.made, bind, Except.bind] at h
  split at h
  · next t' run =>
      obtain rfl := Except.ok.inj h
      exact run
  · cases h

/-- **What a build does before an offer, and behind it.**  A state of a build is followed by what has been added
to it (`BuildState.Adds`): nodes stay, and edges come behind those that are there.  What is added in front of an
offer and what is added behind it compose, first within the step that makes the offer (`BuildState.Offers.adds`)
and then with the steps around it, so that whatever an offer leaves is found again in the graph. -/
theorem Built.adds_of_offers (built : Built b fs now input imports exports s u g)
    (h : b.Offers fs input v e) : (∃ new, BuildState.Adds s new v) ∧
      ∃ n more, BuildState.Adds (BuildState.offer b.filters (v, n) e).1 more u := by
  obtain ⟨r, t, enabled, before, offers⟩ := h
  have run := built.runSteps_of_stateBefore before
  have enabled' : Filters.enables (Surroundings.mk fs b.filters b.extensions).filters r = true := enabled
  obtain ⟨t', u', earlier, behind, all, run', adds, -, adds'', -⟩ :=
    BuildState.relateAll_split enabled' built.complete
  obtain rfl : t' = t := congrArg Prod.fst (run'.symm.trans run)
  obtain ⟨count, related⟩ := built.relateAll
  obtain rfl : u' = u := congrArg Prod.fst (all.symm.trans related)
  obtain ⟨⟨new, adds'⟩, n, more, later⟩ := offers.adds
  exact ⟨⟨_, adds.trans adds'⟩, n, _, later.trans adds''⟩

/-- **Which edges are refused for their id.**  Edges between the nodes of a graph are told apart by their ids
exactly when no two nodes overlap across an arrow, and edges of different relations always are, whatever their
ends.  Every edge between nodes that a build offers and that passes the filters leaves an edge of its id in the
graph; and if no two nodes overlap, one of its ends and relation, which is there before when the offer is refused.

What carries the proof is that the ends of all edges are nodes, in the state of the offer as well as in the end
(`Adds.same_of_id_eq`), so that telling apart the edges between nodes is all that is needed. -/
theorem edges_refused (h : b.build fs now input = .ok g) :
    (ToldApart (g.nodes.map Node.id) ↔ ¬ Crossing (g.nodes.map Node.id)) ∧
      (∀ (r r' : Relation), r ≠ r' → ∀ source target source' target' : String,
        Edge.idOf source target r ≠ Edge.idOf source' target' r') ∧
      ∀ v e, b.Offers fs input v e → b.filters.passes e = true →
        v.nodes.contains e.source = true → v.nodes.contains e.target = true →
          (∃ e' ∈ g.edges, e'.id = e.id) ∧
            (¬ Crossing (g.nodes.map Node.id) →
              (v.accepts b.filters e = false →
                ∃ e' ∈ v.edges.toList, e'.ends = e.ends ∧ e'.relation = e.relation) ∧
              ∃ e' ∈ g.edges, e'.ends = e.ends ∧ e'.relation = e.relation) := by
  refine ⟨toldApart_iff, ?_, fun v e offers passes source target => ?_⟩
  · intro r r' different source target source' target' same
    exact different (Edge.relation_eq_of_id_eq same)
  obtain ⟨_, _, s, u, built⟩ := build_eq_ok_iff.mp h
  obtain ⟨all, ran⟩ := built.adds built.complete
  obtain ⟨⟨new, early⟩, n, more, late⟩ := built.adds_of_offers offers
  have start : s.edges = .empty := built.grown.edges
  -- Behind the offer its id is taken, and it stays taken.
  have taken := late.contains (BuildState.contains_offer n passes source target)
  have known := BuildState.contains_of_refused passes source target
  rw [early.nodes] at source target
  obtain ⟨e', mem, id⟩ := List.mem_map.mp (Catalog.contains_eq_true_iff.mp taken)
  rw [built.nodes, built.edges, ran.nodes]
  refine ⟨⟨e', mem, id⟩, fun free => ?_⟩
  have apart := toldApart_iff.mpr free
  refine ⟨fun refused => ?_, e', mem, ran.same_of_id_eq start apart source target mem id⟩
  obtain ⟨d, there, same⟩ := List.mem_map.mp (Catalog.contains_eq_true_iff.mp (known refused))
  exact ⟨d, there, early.same_of_id_eq start apart source target there same⟩

/-! ## Two small builds -/

/-- The edge at a place in the list of a step, with the state in which it is offered. -/
def offerAt (b : Builder α) (fs : FileSystem) (input : BuildInput) (r : Relation) (place : Nat) :
    Except Fault (Option (BuildState α × Edge α)) :=
  (b.stateBefore fs input r).map fun t =>
    let list := BuildState.reached (t.proposed ⟨fs, b.filters, b.extensions⟩ r)
    list[place]?.map fun e => (((list.take place).foldl (BuildState.offer b.filters) (t, 0)).1, e)

/-- What stands at a place in the list of a step is offered there. -/
theorem offers_of_offerAt {r : Relation} (enabled : b.filters.enables r = true) {place : Nat}
    (h : b.offerAt fs input r place = .ok (some (v, e))) : b.Offers fs input v e := by
  obtain ⟨t, before, offer⟩ := map_eq_ok_iff.mp h
  obtain ⟨e', there, eq⟩ := Option.map_eq_some_iff.mp offer
  obtain ⟨rfl, rfl⟩ := Prod.mk.inj eq
  obtain ⟨bound, rfl⟩ := List.getElem?_eq_some_iff.mp there
  exact ⟨r, t, enabled, before, .listed (by rw [List.getElem_cons_drop, List.take_append_drop])⟩

/-- Two functions in two files, the first of which imports the second one under two names. -/
def twiceImportingInput : BuildInput :=
  { callingInput with imports := .obj [("a.ts", .arr [.str "./b", .str "../ws/b"])] }

/-- The second import is refused, and the first one is there. -/
theorem edges_refused_of_two_imports :
    let b := (sample Rat .connectivity).withFilters (Filters.allEnabled 0)
    ∃ g v e, b.build sampleFiles "" twiceImportingInput = .ok g ∧
      b.Offers sampleFiles twiceImportingInput v e ∧ b.filters.passes e = true ∧
        v.nodes.contains e.source = true ∧ v.nodes.contains e.target = true ∧
        v.accepts b.filters e = false ∧ ¬ Crossing (g.nodes.map Node.id) ∧
        ∃ e' ∈ v.edges.toList, e'.ends = e.ends ∧ e'.relation = e.relation := by
  intro b
  have free : (b.build sampleFiles "" twiceImportingInput).toOption.any
      (fun g => decide (∀ id ∈ g.nodes.map Node.id, ¬ ['-', '>'] <:+: id.toList)) = true := by
    decide +kernel
  have second : (b.offerAt sampleFiles twiceImportingInput .imports 1).toOption.any
      (fun offer => offer.any fun (v, e) => b.filters.passes e && v.nodes.contains e.source
        && v.nodes.contains e.target && !v.accepts b.filters e) = true := by
    decide +kernel
  obtain ⟨g, h, noArrow⟩ := exists_ok_of_any_toOption free
  obtain ⟨_, there, offer⟩ := exists_ok_of_any_toOption second
  obtain ⟨⟨v, e⟩, rfl, fine⟩ := (Option.any_eq_true _ _).mp offer
  simp only [Bool.and_eq_true, Bool.not_eq_true'] at fine
  obtain ⟨⟨⟨passes, source⟩, target⟩, refused⟩ := fine
  have offers : b.Offers sampleFiles twiceImportingInput v e := offers_of_offerAt rfl there
  have apart : ¬ Crossing (g.nodes.map Node.id) := not_crossing_of_no_arrow (of_decide_eq_true noArrow)
  obtain ⟨-, -, kept⟩ := edges_refused h
  exact ⟨g, v, e, h, offers, passes, source, target, refused, apart,
    ((kept v e offers passes source target).2 apart).1 refused⟩

/-- Two elements whose files and ids overlap across an arrow. -/
def arrowInput : BuildInput where
  sources := [.record (sampleElement "a" "x->entity" "a->entity:a:x:function:f"),
    .record (sampleElement "a->entity:a:x" "function" "f")]

/-- The containment of an element may be refused for the id of another containment. -/
theorem containment_refused_for_another_one :
    let b := sample Rat .connectivity
    (∃ g, b.build sampleFiles "" arrowInput = .ok g) ∧
      ∃ v e, b.Offers sampleFiles arrowInput v e ∧ b.filters.passes e = true ∧
        v.nodes.contains e.source = true ∧ v.nodes.contains e.target = true ∧
        v.accepts b.filters e = false ∧
        ∀ e' ∈ v.edges.toList, ¬ (e'.ends = e.ends ∧ e'.relation = e.relation) := by
  intro b
  have finishes : (b.build sampleFiles "" arrowInput).toOption.any (fun _ => true) = true := by
    decide +kernel
  have fourth : (b.offerAt sampleFiles arrowInput .contains 3).toOption.any
      (fun offer => offer.any fun (v, e) => b.filters.passes e && v.nodes.contains e.source
        && v.nodes.contains e.target && !v.accepts b.filters e
        && decide (∀ e' ∈ v.edges.toList, ¬ (e'.ends = e.ends ∧ e'.relation = e.relation))) = true := by
    decide +kernel
  obtain ⟨g, h, -⟩ := exists_ok_of_any_toOption finishes
  obtain ⟨_, there, offer⟩ := exists_ok_of_any_toOption fourth
  obtain ⟨⟨v, e⟩, rfl, fine⟩ := (Option.any_eq_true _ _).mp offer
  simp only [Bool.and_eq_true, Bool.not_eq_true', decide_eq_true_iff] at fine
  obtain ⟨⟨⟨⟨passes, source⟩, target⟩, refused⟩, other⟩ := fine
  exact ⟨⟨g, h⟩, v, e, offers_of_offerAt rfl there, passes, source, target, refused, other⟩

end Builder

end CodeAtlas
