import CodeAtlas.Proofs.Limit
import CodeAtlas.Proofs.Order

/-!
# What a higher least weight leaves out

An edge that is not structural has to weigh as much as the filters ask for.  Of two builds that differ in the least
weight, the one that asks for less has what the other one has: whatever passes the higher weight passes the lower one
(`Filters.passes_of_withLeastWeight`), and an offer that passes can only be refused because its id is taken.  So the
states of the two builds go along with each other, the first one covering the second (`BuildState.Covers`).

The limit on pairs across files is the exception.  It counts the edges that are added, so that pairs which are too
light leave room for others that come later in order.  `Builder.leastWeight_filters` therefore promises an edge across
files only as long as the build with the lower weight has not reached its limit; every other edge is always there.

## Outline

* `Covers` is kept by offers, and so by every step that offers the same edges on both sides (`Covers.foldl_offer`,
  `Covers.relate`).
* The step for similarity is the one that does not: its pairs across files depend on the imports.  But imports all
  weigh one, so that a least weight leaves all of them or none (`imports_withLeastWeight`), and with them all pairs
  or none.
* Where none are left there is nothing to show; where all are, the two runs go through the same pairs, and as long
  as the limit is not reached on the first side it may be left out of account on it (`Covers.acrossOffers`).
-/

namespace CodeAtlas

variable {α : Type}

/-- The filters with another least weight. -/
def Filters.withLeastWeight (filters : Filters α) (weight : α) : Filters α :=
  { filters with minRelationWeight := weight }

/-- The surroundings with another least weight. -/
def Surroundings.withLeastWeight (around : Surroundings α) (weight : α) : Surroundings α :=
  { around with filters := around.filters.withLeastWeight weight }

variable [Scalar α]

/-- What passes a weight passes a lower one. -/
theorem Filters.passes_of_withLeastWeight [Scalar.Ordered α] {filters : Filters α} {weight : α}
    (higher : Scalar.le filters.minRelationWeight weight = true) {e : Edge α}
    (passes : (filters.withLeastWeight weight).passes e = true) : filters.passes e = true := by
  unfold Filters.passes at passes ⊢
  rw [Bool.or_eq_true, Bool.not_eq_true'] at passes ⊢
  refine passes.imp_right fun heavy => ?_
  by_contra light
  rw [Bool.not_eq_false] at light
  have below : Scalar.lt e.weight weight = true := Scalar.Ordered.lt_of_lt_of_le light higher
  exact Bool.false_ne_true (heavy.symm.trans below)

namespace BuildState

variable {around : Surroundings α} {weight : α} {s p q : BuildState α} {e : Edge α}

/-! ## States that go along with each other -/

/-- The state `p` has the nodes of `q`, and an edge under each id of an edge of `q`.  This is the invariant of two
builds that differ in their least weights, up to the step where the limit counts. -/
structure Covers (p q : BuildState α) : Prop where
  /-- They differ in edges alone. -/
  frame : q = { p with edges := q.edges }
  /-- Whatever id is taken on the second side is taken on the first. -/
  ids : ∀ id, q.edges.contains id = true → p.edges.contains id = true

namespace Covers

omit [Scalar α] in
/-- A state covers itself. -/
theorem refl (s : BuildState α) : Covers s s := ⟨rfl, fun _ => id⟩

omit [Scalar α] in
/-- Both states have the same nodes. -/
theorem nodes (h : Covers p q) : q.nodes = p.nodes := by rw [h.frame]

omit [Scalar α] in
/-- What is added on the first side keeps the cover. -/
theorem of_adds (h : Covers p q) {new : List (Edge α)} (adds : Adds p new s) : Covers s q :=
  ⟨by rw [h.frame, adds.frame], fun id taken => adds.contains (h.ids id taken)⟩

/-- **Offers of the same edges keep the cover**, if what passes on the second side passes on the first.  It is enough
to look at one offer: the id of an edge that is taken in on the second side is taken on the first side, now or before.
-/
theorem foldl_offer {F G : Filters α} {a b : BuildState α × Nat} (h : Covers a.1 b.1)
    (lower : ∀ e : Edge α, G.passes e = true → F.passes e = true) (proposals : List (Edge α)) :
    Covers (proposals.foldl (offer F) a).1 (proposals.foldl (offer G) b).1 := by
  obtain ⟨-, ⟨new, adds, sub, -⟩, -⟩ := offered_foldl_offer F proposals a
  obtain ⟨-, ⟨new', adds', sub', -⟩, -⟩ := offered_foldl_offer G proposals b
  refine ⟨by rw [adds'.frame, adds.frame, h.frame], fun id taken => ?_⟩
  obtain ⟨e, mem, rfl⟩ := List.mem_map.mp (Catalog.contains_eq_true_iff.mp taken)
  by_cases old : e ∈ b.1.edges.toList
  · exact adds.contains (h.ids _ (Catalog.contains_eq_true_iff.mpr (List.mem_map_of_mem old)))
  · -- A new edge has been offered on both sides, and passes on both.
    have passes : G.passes e = true := ((mem_edges_foldl_offer mem).resolve_left old).2
    rw [adds'.edges] at mem
    have there := (List.mem_append.mp mem).resolve_left old
    obtain ⟨source, target⟩ := adds'.ends e there
    rw [h.nodes] at source target
    exact contains_foldl_offer F a (sub'.subset there) (lower e passes) source target

variable [Scalar.Ordered α]

/-- A step keeps the cover. -/
theorem relate (h : Covers p q) (higher : Scalar.le around.filters.minRelationWeight weight = true)
    {r : Relation} (ne : r ≠ .relatedTo) :
    Covers (BuildState.relate around r p).1 (BuildState.relate (around.withLeastWeight weight) r q).1 := by
  have start : Covers (p, 0).1 (q, 0).1 := h
  have proposed : q.proposed (around.withLeastWeight weight) r = p.proposed around r :=
    (proposed_withFilters around _ q r).trans (proposed_congr h.frame r)
  rw [relate_eq_offerAll around p ne, relate_eq_offerAll _ q ne, offerAll_fst, offerAll_fst, proposed]
  exact start.foldl_offer (fun e => Filters.passes_of_withLeastWeight higher) _

/-- So do the steps of all relations but that of similar entities. -/
theorem runSteps (h : Covers p q) (higher : Scalar.le around.filters.minRelationWeight weight = true)
    (complete : ∀ n ∈ p.nodes.toList, n.Complete) {rs : List Relation}
    (others : ∀ r ∈ rs, r ≠ .relatedTo) :
    Covers (p.runSteps (rs.map (BuildState.relate around))).1
      (q.runSteps (rs.map (BuildState.relate (around.withLeastWeight weight)))).1 := by
  induction rs generalizing p q with
  | nil => exact h
  | cons r rest ih =>
      obtain ⟨here, behind⟩ := List.forall_mem_cons.mp others
      obtain ⟨p', count, new, step, adds, -⟩ := relates_relate around r p complete
      obtain ⟨q', count', new', step', adds', -⟩ := relates_relate (around.withLeastWeight weight) r q
        (by rwa [h.nodes])
      have next := h.relate higher here
      rw [step, step'] at next
      rw [List.map_cons, List.map_cons, BuildState.runSteps, BuildState.runSteps, step, step']
      exact ih next (by rwa [adds.nodes]) behind

/-- The pairs within files are covered. -/
theorem relateSameFile (h : Covers p q) (higher : Scalar.le around.filters.minRelationWeight weight = true) :
    Covers (p.relateSameFile around).1 (q.relateSameFile (around.withLeastWeight weight)).1 := by
  have start : Covers (p, 0).1 (q, 0).1 := h
  have proposals : q.sameFileProposals (around.withLeastWeight weight) = p.sameFileProposals around := by
    rw [h.frame]
    rfl
  rw [relateSameFile_eq, relateSameFile_eq, proposals]
  exact start.foldl_offer (fun e => Filters.passes_of_withLeastWeight higher) _

/-- **Up to the pairs across files a build with a lower weight covers one with a higher weight.** -/
theorem beforeAcross (higher : Scalar.le around.filters.minRelationWeight weight = true)
    (complete : ∀ n ∈ s.nodes.toList, n.Complete) :
    Covers (s.beforeAcross around) (s.beforeAcross (around.withLeastWeight weight)) := by
  have others : ∀ r ∈ Relation.relatedTo.before.filter around.filters.enables, r ≠ .relatedTo :=
    fun r mem => Relation.ne_of_mem_before (List.mem_of_mem_filter mem)
  have enables : (around.withLeastWeight weight).filters.enables = around.filters.enables := by
    funext r
    cases r <;> rfl
  have steps := (refl s).runSteps higher complete others
  unfold BuildState.beforeAcross
  rw [enables]
  dsimp only
  split
  · exact steps.relateSameFile higher
  · exact steps

end Covers

/-! ## The pairs across files -/

/-- All imports weigh the same, so that they pass together. -/
theorem passes_of_mem_imports {filters : Filters α} (mem : e ∈ reached (s.proposed around .imports)) :
    filters.passes e = !Scalar.lt (Scalar.ofNat 1) filters.minRelationWeight :=
  (unscored_of_mem_proposed (mem_of_mem_reached mem)).passes_eq filters

variable [Scalar.Ordered α]

/-- **A higher least weight leaves all imports or none**, as they all weigh one.  This matters for pairs across files,
which are those of files that take part in imports. -/
theorem imports_withLeastWeight (higher : Scalar.le around.filters.minRelationWeight weight = true)
    (complete : ∀ n ∈ s.nodes.toList, n.Complete) (start : s.edgesOf .imports = []) :
    (s.beforeAcross (around.withLeastWeight weight)).edgesOf .imports = [] ∨
      (s.beforeAcross (around.withLeastWeight weight)).edgesOf .imports
        = (s.beforeAcross around).edgesOf .imports := by
  have run := relateAll_eq around complete
  have run' := relateAll_eq (around.withLeastWeight weight) complete
  rw [← imports_relateAcross _ (around.withLeastWeight weight).filters.maxCrossFileRelations,
    ← imports_relateAcross around around.filters.maxCrossFileRelations]
  cases enabled : around.filters.enables .imports with
  | false =>
      have enabled' : (around.withLeastWeight weight).filters.enables .imports = false := enabled
      exact Or.inl ((edgesOf_of_disabled enabled' complete run').trans start)
  | true =>
      have enabled' : (around.withLeastWeight weight).filters.enables .imports = true := enabled
      obtain ⟨t, stage⟩ := exists_stage enabled complete run
      obtain ⟨t', stage'⟩ := exists_stage enabled' complete run'
      have proposed : s.proposed (around.withLeastWeight weight) .imports = s.proposed around .imports :=
        proposed_withFilters around _ s .imports
      rw [stage.edgesOf_eq (by decide), stage'.edgesOf_eq (by decide), proposed]
      cases heavy : Scalar.lt (Scalar.ofNat 1) weight with
      | true =>
          refine Or.inl ?_
          rw [foldl_offer_eq_of_not_passes, stage'.before, start]
          intro e mem
          rw [passes_of_mem_imports mem, Bool.not_eq_false']
          exact heavy
      | false =>
          have passes : ∀ e ∈ reached (s.proposed around .imports),
              (around.withLeastWeight weight).filters.passes e = true := by
            intro e mem
            rw [passes_of_mem_imports mem, Bool.not_eq_true']
            exact heavy
          have together : InStep .imports (t, 0) (t', 0) := ⟨stage.alike stage', rfl⟩
          have kept := together.foldl_offer (F := around.filters)
            (G := (around.withLeastWeight weight).filters) (reached (s.proposed around .imports))
            (fun e mem => (unscored_of_mem_proposed (mem_of_mem_reached mem)).relation)
            fun e mem => by rw [passes e mem, Filters.passes_of_withLeastWeight higher (passes e mem)]
          exact Or.inr kept.1.edges.symm

/-- **So it leaves all pairs across files or none.** -/
theorem acrossPairs_withLeastWeight (higher : Scalar.le around.filters.minRelationWeight weight = true)
    (complete : ∀ n ∈ s.nodes.toList, n.Complete) (start : s.edgesOf .imports = []) :
    s.acrossPairs (around.withLeastWeight weight) = [] ∨
      s.acrossPairs (around.withLeastWeight weight) = s.acrossPairs around := by
  have covers := Covers.beforeAcross higher complete
  have enables : (around.withLeastWeight weight).filters.enables .relatedTo
      = around.filters.enables .relatedTo := rfl
  unfold acrossPairs
  rw [enables]
  split
  · exact (imports_withLeastWeight higher complete start).imp crossFilePairs_eq_nil
      (crossFilePairs_congr covers.frame)
  · exact Or.inl rfl

/-- What is proposed for these pairs does not depend on the weight. -/
theorem acrossProposals_withLeastWeight
    (higher : Scalar.le around.filters.minRelationWeight weight = true)
    (complete : ∀ n ∈ s.nodes.toList, n.Complete) (start : s.edgesOf .imports = []) :
    s.acrossProposals (around.withLeastWeight weight) = [] ∨
      s.acrossProposals (around.withLeastWeight weight) = s.acrossProposals around := by
  rcases acrossPairs_withLeastWeight higher complete start with none | same
  · refine Or.inl ?_
    rw [acrossProposals, none, List.filterMap_nil]
  · refine Or.inr ?_
    rw [acrossProposals, same, (Covers.beforeAcross higher complete).frame]
    rfl

/-- **Without a limit the pairs across files are covered.** -/
theorem Covers.acrossOffers (higher : Scalar.le around.filters.minRelationWeight weight = true)
    (complete : ∀ n ∈ s.nodes.toList, n.Complete) (start : s.edgesOf .imports = []) :
    Covers ((s.acrossProposals around).foldl (offer around.filters) (s.beforeAcross around, 0)).1
      ((s.acrossProposals (around.withLeastWeight weight)).foldl
        (offer (around.withLeastWeight weight).filters)
        (s.beforeAcross (around.withLeastWeight weight), 0)).1 := by
  have started : Covers (s.beforeAcross around, 0).1
      (s.beforeAcross (around.withLeastWeight weight), 0).1 := Covers.beforeAcross higher complete
  rcases acrossProposals_withLeastWeight higher complete start with none | same
  · obtain ⟨new, -, all, -⟩ := exists_adds_relateAcross around s
    rw [none]
    exact started.of_adds all
  · rw [same]
    exact started.foldl_offer (fun e => Filters.passes_of_withLeastWeight higher) _

/-- What is added across files with a higher weight is covered, unless the limit has been reached.  Where there is
still room, a limit makes no difference, and without one the offers on both sides are the same. -/
theorem mem_relateAcross_withLeastWeight
    (higher : Scalar.le around.filters.minRelationWeight weight = true)
    (complete : ∀ n ∈ s.nodes.toList, n.Complete) (start : s.edgesOf .imports = []) {limit : Int}
    (mem : e ∈ (s.relateAcross (around.withLeastWeight weight) limit).edges.toList) :
    (s.relateAcross around limit).edges.contains e.id = true ∨
      e.isAcrossFiles = true ∧ ∃ new, Adds (s.beforeAcross around) new (s.relateAcross around limit) ∧
        (∀ e ∈ new, e.isAcrossFiles = true) ∧ (new.length : Int) = limit := by
  obtain ⟨new, sub, all, upTo⟩ := exists_adds_relateAcross around s
  obtain ⟨new', sub', all', upTo'⟩ := exists_adds_relateAcross (around.withLeastWeight weight) s
  rw [(upTo' limit).edges] at mem
  rcases List.mem_append.mp mem with early | taken
  · have there := (Covers.beforeAcross higher complete).ids _
      (Catalog.contains_eq_true_iff.mpr (List.mem_map_of_mem early))
    exact Or.inl ((upTo limit).contains there)
  · have room : 0 < limit.toNat := by
      by_contra none
      rw [Nat.eq_zero_of_not_pos none, List.take_zero] at taken
      cases taken
    by_cases reached : limit.toNat ≤ new.length
    · have offered := sub'.subset (List.mem_of_mem_take taken)
      refine Or.inr ⟨(isAcrossFiles_of_mem_acrossProposals offered).2, new.take limit.toNat, upTo limit,
        fun e mem => ?_, ?_⟩
      · exact (isAcrossFiles_of_mem_acrossProposals (sub.subset (List.mem_of_mem_take mem))).2
      · rw [List.length_take]
        omega
    · -- The limit has cut nothing off, so that the state is that after all offers.
      have adds := upTo limit
      rw [List.take_of_length_le (by omega)] at adds
      rw [adds.eq_of_adds all]
      have added : e ∈ (s.beforeAcross (around.withLeastWeight weight)).edges.toList ++ new' :=
        List.mem_append_right _ (List.mem_of_mem_take taken)
      rw [← all'.edges] at added
      exact Or.inl ((Covers.acrossOffers higher complete start).ids _
        (Catalog.contains_eq_true_iff.mpr (List.mem_map_of_mem added)))

end BuildState

/-! ## Builds that differ in their least weights -/

namespace Builder

variable {b : Builder α} {fs : FileSystem} {now : String} {input : BuildInput} {g g' : Graph α}

/-- A builder with another least weight. -/
def withLeastWeight (b : Builder α) (weight : α) : Builder α :=
  b.withFilters (b.filters.withLeastWeight weight)

/-- **A higher least weight only leaves edges out**, as long as the limit on pairs across files is not reached with
the lower one.  There is a graph with the lower weight in any case, since no weight can keep a build from coming to
its end. -/
theorem leastWeight_filters [Scalar.Ordered α] {low high : α} (le : Scalar.le low high = true)
    (h : (b.withLeastWeight high).build fs now input = .ok g') :
    ∃ g, (b.withLeastWeight low).build fs now input = .ok g ∧
      ∀ e ∈ g'.edges, e.id ∈ g.edges.map Edge.id ∨
        e.isAcrossFiles = true ∧ (g.acrossFiles.length : Int) = b.filters.maxCrossFileRelations := by
  obtain ⟨imports, exports, s, u', built'⟩ := build_eq_ok_iff.mp h
  obtain ⟨u, g, built⟩ := built'.exists_withFilters (b.filters.withLeastWeight low)
  refine ⟨g, build_eq_ok_iff.mpr ⟨imports, exports, s, u, built⟩, fun e mem => ?_⟩
  rw [built'.edges, built'.eq_relateAcross] at mem
  let around : Surroundings α := ⟨fs, b.filters.withLeastWeight low, b.extensions⟩
  have higher : Scalar.le around.filters.minRelationWeight high = true := le
  rcases BuildState.mem_relateAcross_withLeastWeight higher built.complete
    (built.edgesOf_eq_nil .imports) mem with there | ⟨across, new, adds, added, count⟩
  · rw [built.edges, built.eq_relateAcross]
    exact Or.inl (Catalog.contains_eq_true_iff.mp there)
  · obtain ⟨front, adds', within⟩ := BuildState.adds_beforeAcross around built.complete
    have edges : g.edges = front ++ new := by
      rw [built.edges, built.eq_relateAcross]
      have whole := (adds'.trans adds).edges
      rwa [built.edges_eq_nil] at whole
    rw [Graph.acrossFiles_eq edges within added]
    exact Or.inr ⟨across, count⟩

/-- A function and, in a file that its own file imports, two functions like it, the second of which has its name. -/
def namesakeInput : BuildInput where
  sources := [("a.ts", "f"), ("b.ts", "g"), ("b.ts", "f")].map fun (filePath, name) =>
    .record (.obj [("file_path", .str filePath), ("name", .str name), ("element_type", .str "function"),
      ("start_line", .int 1), ("semantic_tags", .arr [.str "api"])])
  imports := .obj [("a.ts", .arr [.str "./b"])]

/-- Below the limit all edges of the build with the higher weight are edges of the other one. -/
theorem leastWeight_filters_of_namesakes :
    let b := (sample Rat .connectivity).withFilters (Filters.allEnabled 0)
    Scalar.le (3 / 10 : Rat) (9 / 10) = true ∧
      ∃ g g', (b.withLeastWeight (9 / 10)).build sampleFiles "" namesakeInput = .ok g' ∧
        (b.withLeastWeight (3 / 10)).build sampleFiles "" namesakeInput = .ok g ∧
        g'.acrossFiles.length = 1 ∧ g.acrossFiles.length = 2 ∧
        ∀ e ∈ g'.edges, e.id ∈ g.edges.map Edge.id := by
  intro b
  have le : Scalar.le (3 / 10 : Rat) (9 / 10) = true := by decide +kernel
  have finishes : ((b.withLeastWeight (9 / 10)).build sampleFiles "" namesakeInput).toOption.any
      (fun g' => g'.acrossFiles.length == 1) = true := by
    decide +kernel
  have finishes' : ((b.withLeastWeight (3 / 10)).build sampleFiles "" namesakeInput).toOption.any
      (fun g => g.acrossFiles.length == 2) = true := by
    decide +kernel
  obtain ⟨g', h', one⟩ := exists_ok_of_any_toOption finishes
  obtain ⟨g, h, two⟩ := exists_ok_of_any_toOption finishes'
  obtain ⟨d, hd, covered⟩ := leastWeight_filters le h'
  obtain rfl : g = d := Except.ok.inj (h.symm.trans hd)
  have count : g.acrossFiles.length = 2 := by simpa using two
  refine ⟨le, g, g', h', h, by simpa using one, count, fun e mem => (covered e mem).resolve_right ?_⟩
  rintro ⟨-, reached⟩
  rw [count] at reached
  exact absurd reached (by decide)

/-- Under a limit of one the second function is related only where the first one is too light. -/
theorem lighter_edge_gives_way :
    let b := (sample Rat .connectivity).withFilters ((Filters.allEnabled 0).withLimit 1)
    ∃ g g', (b.withLeastWeight (3 / 10)).build sampleFiles "" namesakeInput = .ok g ∧
      (b.withLeastWeight (9 / 10)).build sampleFiles "" namesakeInput = .ok g' ∧
      ∃ e ∈ g'.edges, e.id ∉ g.edges.map Edge.id := by
  intro b
  let id := "entity:a.ts:function:f:1->entity:b.ts:function:f:1:RELATED_TO"
  have finishes : ((b.withLeastWeight (3 / 10)).build sampleFiles "" namesakeInput).toOption.any
      (fun g => !(g.edges.map Edge.id).contains id) = true := by
    decide +kernel
  have finishes' : ((b.withLeastWeight (9 / 10)).build sampleFiles "" namesakeInput).toOption.any
      (fun g' => g'.edges.any (·.id == id)) = true := by
    decide +kernel
  obtain ⟨g, h, missing⟩ := exists_ok_of_any_toOption finishes
  obtain ⟨g', h', there⟩ := exists_ok_of_any_toOption finishes'
  obtain ⟨e, mem, same⟩ := List.any_eq_true.mp there
  refine ⟨g, g', h, h', e, mem, ?_⟩
  rw [show e.id = id by simpa using same]
  simpa using missing

end Builder

end CodeAtlas
