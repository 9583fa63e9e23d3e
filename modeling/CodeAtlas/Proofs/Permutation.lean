import CodeAtlas.Proofs.Growth
import CodeAtlas.Proofs.Likeness
import Mathlib.Data.Sym.Sym2

/-!
# The order of the sources

Sources in another order lead to the same nodes and to the same edges, if no two of their entities have one id.  An
input that has been put in another order gives a build neither more nor less to work on, so that most of this is
`Within` taken both ways.

Similar entities are related in the direction in which they were seen, so that their edges may be turned round.  A
pair that is to be related is so in the other order, one way round or the other way round: the score is mutual
(`score_comm`), and so are the conditions for files.  No pair is to be related both ways round, and there are as many
of them as before, which is why the limit has room for all of them in the other order too (`AtMost.of_swap`).

## Outline

That no two entities have one id makes all of them retained in either order (`Reordered.retained`), so that the two
inputs are `Within` each other, and nodes and the edges of four relations are those of `Growth`, taken both ways.
What is left are similar entities.  Whether a pair is to be related does not depend on the order, but which of the
two comes first does (`SimilarWithin.reordered`, `SimilarAcross.reordered`); and whether the limit has room for a
pair depends on how many there are, which `FewAcross.reordered` carries over.
-/

namespace CodeAtlas

/-! ## Pairs in two orders -/

section Pairs

variable {β : Type} {xs : List β} {a b : β}

/-- Two members of a list come one behind the other. -/
theorem pair_sublist_or (ha : a ∈ xs) (hb : b ∈ xs) (ne : a ≠ b) :
    [a, b].Sublist xs ∨ [b, a].Sublist xs := by
  induction xs with
  | nil => cases ha
  | cons x xs ih =>
      rcases List.mem_cons.mp ha with rfl | ha'
      · have later : b ∈ xs := List.mem_of_ne_of_mem ne.symm hb
        exact Or.inl ((List.singleton_sublist.mpr later).cons_cons a)
      · rcases List.mem_cons.mp hb with rfl | hb'
        · exact Or.inr ((List.singleton_sublist.mpr ha').cons_cons b)
        · exact (ih ha' hb').imp (·.cons x) (·.cons x)

/-- One of two members of a list is seen when the other one is not, -/
theorem seenBefore_or (ha : a ∈ xs) (hb : b ∈ xs) (ne : a ≠ b) : SeenBefore xs a b ∨ SeenBefore xs b a := by
  induction xs with
  | nil => cases ha
  | cons x xs ih =>
      rw [seenBefore_cons, seenBefore_cons]
      by_cases eq : a = x
      · exact Or.inl ⟨fun eq' => ne (eq.trans eq'.symm), Or.inl eq⟩
      · by_cases eq' : b = x
        · exact Or.inr ⟨eq, Or.inl eq'⟩
        · have rest := ih (List.mem_of_ne_of_mem eq ha) (List.mem_of_ne_of_mem eq' hb)
          exact rest.imp (fun seen => ⟨eq', Or.inr seen⟩) fun seen => ⟨eq, Or.inr seen⟩

/-- and not the other way round as well. -/
theorem SeenBefore.asymm (h : SeenBefore xs a b) : ¬ SeenBefore xs b a := by
  rintro ⟨front', isFront', mem', new'⟩
  obtain ⟨front, isFront, mem, new⟩ := h
  rcases List.prefix_or_prefix_of_prefix isFront isFront' with shorter | shorter
  · exact new' (shorter.subset mem)
  · exact new (shorter.subset mem')

/-- A member is not seen before itself. -/
theorem SeenBefore.ne (h : SeenBefore xs a b) : a ≠ b := by
  rintro rfl
  exact h.asymm h

/-- **Pairs that are turned round are no fewer.**  Each pair goes to one in the other order, itself or turned round,
and no two of them go to the same one, as no pair is there both ways round. -/
theorem AtMost.of_swap {limit : Int} {p q : β × β → Prop} (h : AtMost limit q)
    (either : ∀ x, p x → q x ∨ q x.swap) (once : ∀ x, p x → ¬ p x.swap) : AtMost limit p := by
  have found : ∀ x, ∃ y, p x → q y ∧ (y = x ∨ y = x.swap) := by
    intro x
    by_cases hx : p x
    · rcases either x hx with straight | turned
      · exact ⟨x, fun _ => ⟨straight, Or.inl rfl⟩⟩
      · exact ⟨x.swap, fun _ => ⟨turned, Or.inr rfl⟩⟩
    · exact ⟨x, fun hx' => absurd hx' hx⟩
  choose f hf using found
  refine h.of_injective f (fun x hx => (hf x hx).1) fun x y hx hy same => ?_
  -- Two pairs that become one are one pair, or one of them is the other turned round.
  rcases (hf x hx).2 with eq | eq <;> rcases (hf y hy).2 with eq' | eq' <;> rw [eq, eq'] at same
  · exact same
  · exact absurd (same ▸ hx) (once y hy)
  · exact absurd (same ▸ hy) (once x hx)
  · exact Prod.swap_injective same

end Pairs

namespace Builder

variable {α : Type} {b : Builder α} {fs : FileSystem} {now now' : String} {input input' : BuildInput}

/-- One input is another one in another order, and no two entities have one id.  With two of one id the first one
would be retained, which depends on the order. -/
structure Reordered (b : Builder α) (input input' : BuildInput) : Prop where
  /-- The same entities are placed, each as often as before. -/
  placed : (placedEntities b.workspace input.sources).Perm (placedEntities b.workspace input'.sources)
  /-- No two of them have one id, so that all are retained in any order. -/
  distinct : ((placedEntities b.workspace input.sources).map (idOf b.workspace)).Nodup
  imports : input.imports = input'.imports

namespace Reordered

/-- The order may be turned back. -/
theorem symm (h : b.Reordered input input') : b.Reordered input' input where
  placed := h.placed.symm
  distinct := (h.placed.map _).nodup_iff.mp h.distinct
  imports := h.imports.symm

/-- The retained entities are the same, in the order of the sources. -/
theorem retained (h : b.Reordered input input') : (b.retained input).Perm (b.retained input') := by
  rw [retained_eq_of_nodup h.distinct, retained_eq_of_nodup h.symm.distinct]
  exact h.placed

/-- Neither input gives a build more to work on than the other. -/
theorem within (h : b.Reordered input input') : b.Within input input' where
  placed := h.placed.subset
  retained := h.retained.subset
  imports := h.imports

end Reordered

variable [Scalar α] {imports exports imports' exports' : FileMap} {s u s' u' : BuildState α} {g g' : Graph α}
  {c d : Entity}

/-- **The score is mutual.** -/
theorem score_comm (b : Builder α) (fs : FileSystem) (c d : Entity) : b.score fs c d = b.score fs d c :=
  Similarity.Traits.similarity_comm _ _

/-- Two entities of one file are to be related in any order, one way round or the other way round. -/
theorem SimilarWithin.reordered (h : b.SimilarWithin fs input c d) (reordered : b.Reordered input input') :
    b.SimilarWithin fs input' c d ∨ b.SimilarWithin fs input' d c := by
  have ne : c ≠ d := by
    have two : [c, d].Nodup := (b.nodup_retained input).of_map.sublist h.order
    simpa using two
  have mem : ∀ e ∈ [c, d], e ∈ b.retained input' := fun e mem =>
    reordered.retained.mem_iff.mp (h.order.subset mem)
  rcases pair_sublist_or (mem c (by simp)) (mem d (by simp)) ne with order | order
  · exact Or.inl { h with order := order }
  · obtain ⟨x, y, ne, hx, hy⟩ := h.tags
    exact Or.inr
      { order := order
        file := h.file.symm
        tags := ⟨x, y, ne, hx.symm, hy.symm⟩
        kind := h.kind.imp Eq.symm fun ⟨tag, mem, hc, hd⟩ => ⟨tag, mem, hd, hc⟩
        above := b.score_comm fs c d ▸ h.above
        weight := b.score_comm fs c d ▸ h.weight }

/-- So are two entities of two files.  Here the direction is that of the files as they are first seen, and the
conditions on tags and names are mutual like the score. -/
theorem SimilarAcross.reordered {edges edges' : List (Edge α)} (h : b.SimilarAcross fs input edges c d)
    (reordered : b.Reordered input input') (part : ∀ e, b.TakesPart edges e → b.TakesPart edges' e) :
    b.SimilarAcross fs input' edges' c d ∨ b.SimilarAcross fs input' edges' d c := by
  have hc := reordered.retained.mem_iff.mp h.source
  have hd := reordered.retained.mem_iff.mp h.target
  rcases seenBefore_or (List.mem_map_of_mem hc) (List.mem_map_of_mem hd) h.order.ne with order | order
  · exact Or.inl
      { source := hc
        target := hd
        order := order
        linked := ⟨part c h.linked.1, part d h.linked.2⟩
        above := h.above
        weight := h.weight }
  · exact Or.inr
      { source := hd
        target := hc
        order := order
        linked := ⟨part d h.linked.2, part c h.linked.1⟩
        above := b.score_comm fs c d ▸ h.above
        weight := b.score_comm fs c d ▸ h.weight }

/-- **The limit has as much room** in another order. -/
theorem FewAcross.reordered {edges edges' : List (Edge α)} (few : b.FewAcross fs input edges)
    (reordered : b.Reordered input' input) (part : ∀ e, b.TakesPart edges' e → b.TakesPart edges e) :
    b.FewAcross fs input' edges' :=
  few.of_swap (fun _ across => across.reordered reordered part)
    fun _ across across' => across.order.asymm across'.order

/-! ## Graphs -/

/-- A pair that is to be related has an edge with its ends, where ids are told apart. -/
theorem Built.exists_similar_ends (built : Built b fs now input imports exports s u g)
    (absolute : b.workspace.isAbsolute = true) (apart : ToldApart (s.nodes.toList.map Node.id))
    (enabled : b.filters.enables .relatedTo = true) (few : b.FewAcross fs input (u.edgesOf .imports))
    (similar : b.SimilarWithin fs input c d ∨ b.SimilarAcross fs input (u.edgesOf .imports) c d) :
    ∃ e ∈ u.edgesOf .relatedTo, e.ends = (idOf b.workspace c, idOf b.workspace d) := by
  obtain ⟨t, stage⟩ := built.exists_stage enabled
  obtain ⟨e, mem, id⟩ := built.exists_similar absolute stage few similar
  obtain ⟨new, adds⟩ := built.adds built.complete
  have retained := mem_retained_of_similar similar
  have same : e.id = (b.similarEdge fs c d true).id := id
  exact ⟨e, mem, (adds.same_of_id_eq built.grown.edges apart (built.contains_idOf retained.1)
    (built.contains_idOf retained.2) (BuildState.mem_edgesOf.mp mem).1 same).1⟩

/-- **Related entities** are related in any order, in one direction or in the other.  What an edge stands for is a
pair that is to be related; the pair has its edge in the other build, where the limit has room for it. -/
theorem Reordered.exists_related (reordered : b.Reordered input input')
    (absolute : b.workspace.isAbsolute = true) (built : Built b fs now input imports exports s u g)
    (built' : Built b fs now' input' imports' exports' s' u' g')
    (apart : ToldApart (s.nodes.toList.map Node.id)) (apart' : ToldApart (s'.nodes.toList.map Node.id))
    (few : b.FewAcross fs input (u.edgesOf .imports)) {e : Edge α} (mem : e ∈ u.edgesOf .relatedTo) :
    ∃ e' ∈ u'.edgesOf .relatedTo, s(e'.source, e'.target) = s(e.source, e.target) := by
  have enabled := built.enables_of_mem mem
  have part := reordered.within.takesPart absolute built built' apart'
  have part' := reordered.symm.within.takesPart absolute built' built apart
  have few' := few.reordered reordered.symm part'
  obtain ⟨t, stage⟩ := built.exists_stage enabled
  -- In the other order the pair is to be related too, and has its edge.
  obtain ⟨c, d, similar, ends⟩ : ∃ c d,
      ((b.SimilarWithin fs input' c d ∨ b.SimilarAcross fs input' (u'.edgesOf .imports) c d) ∨
        b.SimilarWithin fs input' d c ∨ b.SimilarAcross fs input' (u'.edgesOf .imports) d c) ∧
      e.ends = (idOf b.workspace c, idOf b.workspace d) := by
    rcases built.similar_of_mem absolute stage few mem with ⟨c, d, pair, rfl⟩ | ⟨c, d, pair, rfl⟩
    · exact ⟨c, d, (pair.reordered reordered).imp Or.inl Or.inl, rfl⟩
    · exact ⟨c, d, (pair.reordered reordered part).imp Or.inr Or.inr, rfl⟩
  obtain ⟨source, target⟩ := Prod.mk.inj ends
  rcases similar with straight | turned
  · obtain ⟨e', mem', ends'⟩ := built'.exists_similar_ends absolute apart' enabled few' straight
    obtain ⟨source', target'⟩ := Prod.mk.inj ends'
    exact ⟨e', mem', by rw [source, target, source', target']⟩
  · obtain ⟨e', mem', ends'⟩ := built'.exists_similar_ends absolute apart' enabled few' turned
    obtain ⟨source', target'⟩ := Prod.mk.inj ends'
    exact ⟨e', mem', by rw [source, target, source', target', Sym2.eq_swap]⟩

end Builder

/-- Two graphs with the same nodes and edges, by their ids. -/
structure Graph.SameOutput {α : Type} (g g' : Graph α) : Prop where
  /-- The ids of nodes are the same, -/
  nodes : ∀ id, id ∈ g.nodes.map Node.id ↔ id ∈ g'.nodes.map Node.id
  /-- and so are those of edges, but for the edges between similar entities. -/
  edges : ∀ r, r ≠ .relatedTo → ∀ id, id ∈ (g.edgesOf r).map Edge.id ↔ id ∈ (g'.edgesOf r).map Edge.id

namespace Builder

/-- **The order of the sources does not matter** if no two entities have one id: there are the same nodes, and the
same edges but for those between similar entities.  These join the same pairs of nodes, perhaps in the other
direction, as long as no node has an arrow in its id and the limit for edges across files has room for all pairs
that are to be related. -/
theorem output_of_permuted_sources {α : Type} [Scalar α] {b : Builder α} {fs : FileSystem} {now now' : String}
    {input : BuildInput} {sources : List Source} {g g' : Graph α} (absolute : b.workspace.isAbsolute = true)
    (perm : input.sources.Perm sources)
    (distinct : ((placedEntities b.workspace input.sources).map (idOf b.workspace)).Nodup)
    (h : b.build fs now input = .ok g) (h' : b.build fs now' { input with sources } = .ok g') :
    g.SameOutput g' ∧
      ((∀ id ∈ g.nodes.map Node.id, ¬ ['-', '>'] <:+: id.toList) →
        b.FewAcross fs input (g.edgesOf .imports) → ∀ pair : Sym2 String,
          pair ∈ (g.edgesOf .relatedTo).map (fun e => s(e.source, e.target)) ↔
            pair ∈ (g'.edgesOf .relatedTo).map fun e => s(e.source, e.target)) := by
  obtain ⟨imports, exports, s, u, built⟩ := build_eq_ok_iff.mp h
  obtain ⟨imports', exports', s', u', built'⟩ := build_eq_ok_iff.mp h'
  have reordered : b.Reordered input { input with sources } := ⟨perm.filterMap _, distinct, rfl⟩
  have nodes : ∀ id, id ∈ g.nodes.map Node.id ↔ id ∈ g'.nodes.map Node.id := by
    intro id
    rw [built.nodes_made, built'.nodes_made, ← Catalog.contains_eq_true_iff, ← Catalog.contains_eq_true_iff]
    exact ⟨reordered.within.contains absolute built built', reordered.symm.within.contains absolute built' built⟩
  refine ⟨⟨nodes, ?_⟩, ?_⟩
  · intro r ne id
    rw [built.edgesOf, built'.edgesOf, List.mem_map, List.mem_map]
    constructor
    · rintro ⟨e, mem, rfl⟩
      exact reordered.within.exists_edge absolute built built' ne mem
    · rintro ⟨e, mem, rfl⟩
      exact reordered.symm.within.exists_edge absolute built' built ne mem
  · intro free few pair
    have free' : ∀ id ∈ g'.nodes.map Node.id, ¬ ['-', '>'] <:+: id.toList :=
      fun id mem => free id ((nodes id).mpr mem)
    have apart := toldApart_iff.mpr (not_crossing_of_no_arrow free)
    have apart' := toldApart_iff.mpr (not_crossing_of_no_arrow free')
    rw [built.nodes_made] at apart
    rw [built'.nodes_made] at apart'
    rw [built.edgesOf] at few
    have part' := reordered.symm.within.takesPart absolute built' built apart
    rw [built.edgesOf, built'.edgesOf, List.mem_map, List.mem_map]
    constructor
    · rintro ⟨e, mem, rfl⟩
      exact reordered.exists_related absolute built built' apart apart' few mem
    · rintro ⟨e, mem, rfl⟩
      have few' := few.reordered reordered.symm part'
      exact reordered.symm.exists_related absolute built' built apart' apart few' mem

/-- Three functions the other way round: the edge between those of one file is turned round, and joins the same two
functions. -/
theorem output_of_permuted_sources_of_three_functions :
    let b := (sample Rat .connectivity).withFilters (Filters.allEnabled 0)
    let sources := similarInput.sources.reverse
    b.workspace.isAbsolute = true ∧ similarInput.sources.Perm sources ∧
      ((placedEntities b.workspace similarInput.sources).map (idOf b.workspace)).Nodup ∧
      ∃ g g', b.build sampleFiles "" similarInput = .ok g ∧
        b.build sampleFiles "" { similarInput with sources } = .ok g' ∧
        (∀ id ∈ g.nodes.map Node.id, ¬ ['-', '>'] <:+: id.toList) ∧
        b.FewAcross sampleFiles similarInput (g.edgesOf .imports) ∧ g.SameOutput g' ∧
        Edge.idOf "entity:a.ts:function:h:1" "entity:a.ts:function:f:1" .relatedTo ∈ g'.edges.map Edge.id ∧
        s("entity:a.ts:function:h:1", "entity:a.ts:function:f:1")
          ∈ (g.edgesOf .relatedTo).map fun e => s(e.source, e.target) := by
  intro b sources
  have perm : similarInput.sources.Perm sources := (List.reverse_perm _).symm
  have distinct : ((placedEntities b.workspace similarInput.sources).map (idOf b.workspace)).Nodup := by
    decide +kernel
  have finishes : (b.build sampleFiles "" similarInput).toOption.any
      (fun g => decide (∀ id ∈ g.nodes.map Node.id, ¬ ['-', '>'] <:+: id.toList)) = true := by
    decide +kernel
  have finishes' : (b.build sampleFiles "" { similarInput with sources }).toOption.any (fun g =>
      decide (∃ e ∈ g.edgesOf .relatedTo,
        e.ends = ("entity:a.ts:function:h:1", "entity:a.ts:function:f:1"))) = true := by
    decide +kernel
  obtain ⟨g, h, noArrow⟩ := exists_ok_of_any_toOption finishes
  obtain ⟨g', h', turned⟩ := exists_ok_of_any_toOption finishes'
  have free := of_decide_eq_true noArrow
  obtain ⟨e, mem, ends⟩ := of_decide_eq_true turned
  obtain ⟨source, target⟩ := Prod.mk.inj ends
  have count : (b.retained similarInput).length = 3 := by decide +kernel
  have few : b.FewAcross sampleFiles similarInput (g.edgesOf .imports) :=
    b.fewAcross_of_length_le sampleFiles _ _ (by rw [count]; decide)
  obtain ⟨same, related⟩ := output_of_permuted_sources (by decide) perm distinct h h'
  obtain ⟨there, relation⟩ := List.mem_filter.mp mem
  refine ⟨by decide, perm, distinct, g, g', h, h', free, few, same, ?_, ?_⟩
  · refine List.mem_map.mpr ⟨e, there, ?_⟩
    rw [Edge.id, source, target, eq_of_beq relation]
  · rw [related free few, ← source, ← target]
    exact List.mem_map_of_mem mem

end Builder

end CodeAtlas
