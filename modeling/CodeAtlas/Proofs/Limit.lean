import CodeAtlas.Proofs.Similar

/-!
# What the limit on pairs across files cuts off

Similar entities of two files are related up to a limit on the number of edges that this adds.  Pairs are gone
through in order, a pair that adds no edge does not count, and once the limit is reached nothing more is offered.
So what a limit leaves is the front of what would be added without it (`BuildState.exists_cut`).

Pairs across files are offered last in a run (`BuildState.relateAll_eq`), in a state that does not depend on the
limit (`BuildState.beforeAcross`).  `Builder.limit_truncates` says what follows for whole builds that differ in
their limits: the edges of one are the front of those of the other, and the limit tells the number of edges across
files exactly.

## Outline

Two runs that differ in the limit are the same up to the pairs across files (`beforeAcross_withLimit`), and from
there on they go through the same pairs.  `exists_cut` compares the two for any list of pairs, with and without a
limit: the list of what is added without it is cut at the number that the limit still leaves.  Both limits cut one
list, and so the shorter of the two is a front of the longer one.
-/

namespace CodeAtlas

variable {α : Type}

/-- Whether an edge joins similar entities of two files. -/
def Edge.isAcrossFiles (e : Edge α) : Bool :=
  match e.properties with
  | .similarity _ _ _ crossFile => crossFile
  | _ => false

/-- The edges between similar entities of two files. -/
def Graph.acrossFiles (g : Graph α) : List (Edge α) := g.edges.filter Edge.isAcrossFiles

/-- Where edges across files come last, they are told from the others. -/
theorem Graph.acrossFiles_eq {g : Graph α} {front new : List (Edge α)} (edges : g.edges = front ++ new)
    (within : ∀ e ∈ front, e.isAcrossFiles = false) (across : ∀ e ∈ new, e.isAcrossFiles = true) :
    g.acrossFiles = new := by
  have none : front.filter Edge.isAcrossFiles = [] :=
    List.filter_eq_nil_iff.mpr fun e mem => by simp [within e mem]
  rw [acrossFiles, edges, List.filter_append, none, List.filter_eq_self.mpr across, List.nil_append]

/-- The filters with another limit on pairs across files. -/
def Filters.withLimit (filters : Filters α) (limit : Int) : Filters α :=
  { filters with maxCrossFileRelations := limit }

/-- The surroundings with another limit on pairs across files. -/
def Surroundings.withLimit (around : Surroundings α) (limit : Int) : Surroundings α :=
  { around with filters := around.filters.withLimit limit }

namespace BuildState

variable [Scalar α] {around : Surroundings α} {s t u : BuildState α} {e : Edge α}

/-! ## Offers up to a limit -/

section Offers

variable {filters : Filters α} {limit : Int} {propose : Placed × Placed → Option (Edge α)}
  {progress : BuildState α × Nat} {pair : Placed × Placed}

/-- Behind the limit nothing is offered. -/
theorem foldl_offerUpTo_of_reached (reached : limit ≤ (progress.2 : Int)) (pairs : List (Placed × Placed)) :
    pairs.foldl (offerUpTo filters limit propose) progress = progress := by
  induction pairs with
  | nil => rfl
  | cons pair rest ih =>
      have here : offerUpTo filters limit propose progress pair = progress := if_pos reached
      rw [List.foldl_cons, here, ih]

/-- A pair that adds no edge is passed over with a limit, -/
theorem offerUpTo_of_refused (refused : (propose pair).any (progress.1.accepts filters) = false) :
    offerUpTo filters limit propose progress pair = progress := by
  unfold offerUpTo
  split
  · rfl
  · cases proposed : propose pair with
    | none => rfl
    | some e =>
        rw [proposed, Option.any_some] at refused
        exact if_neg (by simp [refused])

/-- and without one. -/
theorem foldl_filterMap_of_refused (refused : (propose pair).any (progress.1.accepts filters) = false)
    (rest : List (Placed × Placed)) :
    ((pair :: rest).filterMap propose).foldl (offer filters) progress
      = (rest.filterMap propose).foldl (offer filters) progress := by
  rw [List.filterMap_cons]
  cases proposed : propose pair with
  | none => rfl
  | some e =>
      rw [proposed, Option.any_some] at refused
      have left : offer filters progress e = progress := if_neg (by simp [refused])
      rw [List.foldl_cons, left]

/-- **A limit leaves the front** of what is added without it.  By induction over the pairs: one that is refused is
passed over on both sides, and one that is taken in is the first of what is added, up to a limit that it brings nearer
by one. -/
theorem exists_cut (filters : Filters α) (propose : Placed × Placed → Option (Edge α))
    (pairs : List (Placed × Placed)) (progress : BuildState α × Nat) :
    ∃ new, Adds progress.1 new ((pairs.filterMap propose).foldl (offer filters) progress).1 ∧
      ∀ limit : Int, Adds progress.1 (new.take (limit - progress.2).toNat)
        (pairs.foldl (offerUpTo filters limit propose) progress).1 := by
  induction pairs generalizing progress with
  | nil => exact ⟨[], Adds.refl _, fun limit => by simpa using Adds.refl _⟩
  | cons pair rest ih =>
      cases taken : (propose pair).any (progress.1.accepts filters) with
      | false =>
          obtain ⟨new, all, upTo⟩ := ih progress
          refine ⟨new, by rwa [foldl_filterMap_of_refused taken], fun limit => ?_⟩
          rw [List.foldl_cons, offerUpTo_of_refused taken]
          exact upTo limit
      | true =>
          obtain ⟨e, proposed, accepted⟩ := (Option.any_eq_true _ _).mp taken
          have offered : offer filters progress e = (progress.1.addEdge e, progress.2 + 1) := if_pos accepted
          have first : Adds progress.1 [e] (progress.1.addEdge e) := adds_addEdge accepted
          obtain ⟨new, all, upTo⟩ := ih (progress.1.addEdge e, progress.2 + 1)
          refine ⟨e :: new, ?_, fun limit => ?_⟩
          · rw [List.filterMap_cons_some proposed, List.foldl_cons, offered]
            exact first.trans all
          · by_cases reached : limit ≤ (progress.2 : Int)
            · rw [foldl_offerUpTo_of_reached reached, Int.toNat_of_nonpos (by omega), List.take_zero]
              exact Adds.refl _
            · -- The edge takes one place of those that the limit leaves.
              have room : (limit - progress.2).toNat = (limit - (progress.2 + 1 : Nat)).toNat + 1 := by
                omega
              have here : offerUpTo filters limit propose progress pair = offer filters progress e := by
                rw [offerUpTo, if_neg reached, proposed]
              rw [List.foldl_cons, here, offered, room, List.take_succ_cons]
              exact first.trans (upTo limit)

/-- **Every edge that a run of offers up to a limit adds** was proposed and passes. -/
theorem mem_edges_foldl_offerUpTo {pairs : List (Placed × Placed)}
    (mem : e ∈ (pairs.foldl (offerUpTo filters limit propose) progress).1.edges.toList) :
    e ∈ progress.1.edges.toList ∨ e ∈ pairs.filterMap propose ∧ filters.passes e = true := by
  obtain ⟨new, all, upTo⟩ := exists_cut filters propose pairs progress
  rw [(upTo limit).edges, List.mem_append] at mem
  rcases mem with old | added
  · exact Or.inl old
  · have there : e ∈ ((pairs.filterMap propose).foldl (offer filters) progress).1.edges.toList := by
      rw [all.edges]
      exact List.mem_append_right _ (List.mem_of_mem_take added)
    exact mem_edges_foldl_offer there

end Offers

/-! ## The steps in front of the pairs across files -/

/-- Nothing else than the step for similarity proposes edges across files. -/
theorem isAcrossFiles_of_mem_proposed {r : Relation} (mem : .ok e ∈ s.proposed around r) :
    e.isAcrossFiles = false := by
  unfold Edge.isAcrossFiles
  split
  · next scored => exact absurd scored ((unscored_of_mem_proposed mem).properties _ _ _ _)
  · rfl

/-- The steps for the other relations add no edges across files, -/
theorem relates_withinFiles (around : Surroundings α) {r : Relation} (ne : r ≠ .relatedTo) :
    Relates (·.isAcrossFiles = false) (relate around r) := by
  refine relates_of_offered fun s complete => ?_
  obtain ⟨t, count, run, offered⟩ := offered_relate around ne complete
  exact ⟨t, count, _, run, offered, fun e mem => isAcrossFiles_of_mem_proposed (mem_of_mem_reached mem)⟩

/-- and neither do pairs within files. -/
theorem isAcrossFiles_of_mem_sameFileProposals (mem : e ∈ s.sameFileProposals around) :
    e.isAcrossFiles = false := by
  obtain ⟨⟨a, b⟩, -, proposed⟩ := List.mem_filterMap.mp mem
  obtain ⟨-, rfl⟩ := sameFileProposal_eq_some_iff.mp proposed
  rfl

/-- The state of a run in which pairs across files come to be offered: the one behind everything else.  Similar pairs
within files belong to it if similar entities are related at all. -/
def beforeAcross (around : Surroundings α) (s : BuildState α) : BuildState α :=
  let t := (s.runSteps
    ((Relation.relatedTo.before.filter around.filters.enables).map (relate around))).1
  if around.filters.enables .relatedTo then (t.relateSameFile around).1 else t

/-- The pairs across files that are offered in a run. -/
def acrossPairs (around : Surroundings α) (s : BuildState α) : List (Placed × Placed) :=
  if around.filters.enables .relatedTo then (s.beforeAcross around).crossFilePairs else []

/-- What is proposed for these pairs. -/
def acrossProposals (around : Surroundings α) (s : BuildState α) : List (Edge α) :=
  (s.acrossPairs around).filterMap ((s.beforeAcross around).crossFileProposal around)

/-- The state after these pairs have been offered, up to a limit. -/
def relateAcross (around : Surroundings α) (limit : Int) (s : BuildState α) : BuildState α :=
  ((s.acrossPairs around).foldl
    (offerUpTo around.filters limit ((s.beforeAcross around).crossFileProposal around))
    (s.beforeAcross around, 0)).1

/-- **Pairs across files come last in a run**, so that what a limit cuts off is at the end of the edges.  No relation
comes behind similar entities in the order of all relations, and the answer of the run is the number of its edges. -/
theorem relateAll_eq (around : Surroundings α) (complete : ∀ n ∈ s.nodes.toList, n.Complete) :
    s.relateAll around = (s.relateAcross around around.filters.maxCrossFileRelations,
      .ok (s.relateAcross around around.filters.maxCrossFileRelations).edges.size) := by
  obtain ⟨t, new, run, -, -⟩ :=
    runSteps_relate around (Relation.relatedTo.before.filter around.filters.enables) complete
  have before : s.beforeAcross around
      = if around.filters.enables .relatedTo then (t.relateSameFile around).1 else t := by
    rw [beforeAcross, run]
  have behind : Relation.relatedTo.behind = [] := rfl
  have steps : enabledSteps around
      = (Relation.relatedTo.before.filter around.filters.enables).map (relate around)
        ++ ([Relation.relatedTo].filter around.filters.enables).map (relate around) := by
    rw [enabledSteps_eq, Relation.relatedTo.all_eq, List.filter_append, List.map_append, behind]
  rw [relateAll, steps, runSteps_append run]
  cases enabled : around.filters.enables .relatedTo with
  | false =>
      rw [enabled, if_neg Bool.false_ne_true] at before
      have across : s.relateAcross around around.filters.maxCrossFileRelations = t := by
        rw [relateAcross, acrossPairs, enabled, if_neg Bool.false_ne_true, List.foldl_nil, before]
      rw [List.filter_cons_of_neg (by simp [enabled]), across]
      rfl
  | true =>
      rw [enabled, if_pos rfl] at before
      have across : s.relateAcross around around.filters.maxCrossFileRelations
          = ((t.relateSameFile around).1.relateCrossFile around).1 := by
        rw [relateAcross, acrossPairs, enabled, if_pos rfl, before, relateCrossFile]
      have step : relate around .relatedTo t = _ := relateSimilar_eq around t
      rw [List.filter_cons_of_pos enabled, List.filter_nil, List.map_singleton, runSteps, step, across]
      rfl

/-- In front of the pairs across files no edge across files is added. -/
theorem adds_beforeAcross (around : Surroundings α) (complete : ∀ n ∈ s.nodes.toList, n.Complete) :
    ∃ front, Adds s front (s.beforeAcross around) ∧ ∀ e ∈ front, e.isAcrossFiles = false := by
  obtain ⟨t, new, run, adds, within⟩ := runSteps_adds (P := (·.isAcrossFiles = false))
    ((Relation.relatedTo.before.filter around.filters.enables).map (relate around)) (by
      intro step mem
      obtain ⟨r, hr, rfl⟩ := List.mem_map.mp mem
      exact relates_withinFiles around (Relation.ne_of_mem_before (List.mem_of_mem_filter hr))) complete
  rw [beforeAcross, run]
  dsimp only
  split
  · obtain ⟨more, adds', sub, -⟩ := offered_relateSameFile around t
    refine ⟨new ++ more, adds.trans adds', fun e mem => ?_⟩
    rcases List.mem_append.mp mem with early | late
    · exact within e early
    · exact isAcrossFiles_of_mem_sameFileProposals (sub.subset late)
  · exact ⟨new, adds, within⟩

/-! ## Runs that differ in their limits -/

/-- The steps for the other relations do not look at the limit. -/
theorem relate_withLimit (around : Surroundings α) (limit : Int) {r : Relation} (ne : r ≠ .relatedTo) :
    relate (around.withLimit limit) r = relate around r := by
  cases r with
  | contains => rfl
  | definedIn => rfl
  | imports => rfl
  | calls => rfl
  | relatedTo => exact absurd rfl ne

/-- The limit has no say in what comes before. -/
theorem beforeAcross_withLimit (around : Surroundings α) (limit : Int) (s : BuildState α) :
    s.beforeAcross (around.withLimit limit) = s.beforeAcross around := by
  have steps : (Relation.relatedTo.before.filter (around.withLimit limit).filters.enables).map
        (relate (around.withLimit limit))
      = (Relation.relatedTo.before.filter around.filters.enables).map (relate around) := by
    exact List.map_congr_left fun r mem =>
      relate_withLimit around limit (Relation.ne_of_mem_before (List.mem_of_mem_filter mem))
  rw [beforeAcross, beforeAcross, steps]
  rfl

/-- The step for pairs across files looks only at the limit that it is given. -/
theorem relateAcross_withLimit (around : Surroundings α) (limit k : Int) (s : BuildState α) :
    s.relateAcross (around.withLimit limit) k = s.relateAcross around k := by
  have pairs : s.acrossPairs (around.withLimit limit) = s.acrossPairs around := by
    rw [acrossPairs, acrossPairs, beforeAcross_withLimit]
    rfl
  have propose : (s.beforeAcross around).crossFileProposal (around.withLimit limit)
      = (s.beforeAcross around).crossFileProposal around := rfl
  have offers : offerUpTo (around.withLimit limit).filters k = offerUpTo around.filters k := rfl
  rw [relateAcross, relateAcross, pairs, beforeAcross_withLimit, propose, offers]

/-- What is proposed for pairs across files are edges across files. -/
theorem isAcrossFiles_of_mem_acrossProposals (mem : e ∈ s.acrossProposals around) :
    e.relation = .relatedTo ∧ e.isAcrossFiles = true := by
  obtain ⟨⟨a, b⟩, -, proposed⟩ := List.mem_filterMap.mp mem
  obtain ⟨-, rfl⟩ := crossFileProposal_eq_some_iff.mp proposed
  exact ⟨rfl, rfl⟩

/-- **Of two runs that differ in their limits** one goes further than the other, with edges across files.  One list of
edges tells what every limit leaves. -/
theorem exists_adds_relateAcross (around : Surroundings α) (s : BuildState α) :
    ∃ new, new.Sublist (s.acrossProposals around) ∧
      Adds (s.beforeAcross around) new
        ((s.acrossProposals around).foldl (offer around.filters) (s.beforeAcross around, 0)).1 ∧
      ∀ limit : Int, Adds (s.beforeAcross around) (new.take limit.toNat) (s.relateAcross around limit) := by
  obtain ⟨new, all, upTo⟩ := exists_cut around.filters ((s.beforeAcross around).crossFileProposal around)
    (s.acrossPairs around) (s.beforeAcross around, 0)
  obtain ⟨-, ⟨new', adds, sub, -⟩, -⟩ := offered_foldl_offer around.filters (s.acrossProposals around)
    (s.beforeAcross around, 0)
  obtain rfl := all.new_eq adds
  exact ⟨new, sub, all, fun limit => by simpa [relateAcross] using upTo limit⟩

/-- The pairs across files leave the imports as they are. -/
theorem imports_relateAcross (around : Surroundings α) (limit : Int) (s : BuildState α) :
    (s.relateAcross around limit).edgesOf .imports = (s.beforeAcross around).edgesOf .imports := by
  obtain ⟨new, sub, -, upTo⟩ := exists_adds_relateAcross around s
  refine (upTo limit).edgesOf_eq fun e mem eq => ?_
  rw [(isAcrossFiles_of_mem_acrossProposals (sub.subset (List.mem_of_mem_take mem))).1] at eq
  cases eq

end BuildState

/-! ## Builds that differ in their limits -/

namespace Builder

variable [Scalar α] {b : Builder α} {fs : FileSystem} {now : String} {input : BuildInput} {g : Graph α}

/-- A builder with another limit on pairs across files. -/
def withLimit (b : Builder α) (limit : Int) : Builder α := b.withFilters (b.filters.withLimit limit)

/-- The last state of a build is that behind the pairs across files. -/
theorem Built.eq_relateAcross {imports exports : FileMap} {s u : BuildState α}
    (built : Built b fs now input imports exports s u g) :
    u = s.relateAcross ⟨fs, b.filters, b.extensions⟩ b.filters.maxCrossFileRelations := by
  obtain ⟨count, run⟩ := built.relateAll
  exact congrArg Prod.fst (run.symm.trans (BuildState.relateAll_eq _ built.complete))

/-- **A limit leaves the front of the pairs across files**, behind edges that do not depend on it.  The communities of
the graphs may differ, as they are found in all of the edges. -/
theorem exists_edges_withLimit (h : b.build fs now input = .ok g) :
    ∃ front new : List (Edge α), (∀ e ∈ front, e.isAcrossFiles = false) ∧
      (∀ e ∈ new, e.isAcrossFiles = true) ∧
        ∀ limit, ∃ g, (b.withLimit limit).build fs now input = .ok g ∧
          g.edges = front ++ new.take limit.toNat := by
  obtain ⟨imports, exports, s, u, built⟩ := build_eq_ok_iff.mp h
  obtain ⟨front, adds, within⟩ :=
    BuildState.adds_beforeAcross ⟨fs, b.filters, b.extensions⟩ built.complete
  obtain ⟨new, sub, -, upTo⟩ :=
    BuildState.exists_adds_relateAcross ⟨fs, b.filters, b.extensions⟩ s
  refine ⟨front, new, within, fun e mem =>
    (BuildState.isAcrossFiles_of_mem_acrossProposals (sub.subset mem)).2, fun limit => ?_⟩
  obtain ⟨u', g', built'⟩ := built.exists_withFilters (b.filters.withLimit limit)
  refine ⟨g', build_eq_ok_iff.mpr ⟨imports, exports, s, u', built'⟩, ?_⟩
  have last : u' = s.relateAcross ⟨fs, b.filters, b.extensions⟩ limit :=
    built'.eq_relateAcross.trans
      (BuildState.relateAcross_withLimit ⟨fs, b.filters, b.extensions⟩ limit limit s)
  rw [built'.edges, last, (adds.trans (upTo limit)).edges, built.edges_eq_nil, List.nil_append]

/-- What builds of one input that differ in their limits have in common. -/
structure LimitTruncates (b : Builder α) (fs : FileSystem) (now : String) (input : BuildInput) :
    Prop where
  /-- There is a graph with every limit. -/
  builds : ∀ limit, ∃ g, (b.withLimit limit).build fs now input = .ok g
  /-- The edges with a lower limit are the front of those with a higher one. -/
  front : ∀ {k k' : Int} {g g' : Graph α}, k ≤ k' → (b.withLimit k).build fs now input = .ok g →
    (b.withLimit k').build fs now input = .ok g' → g.edges <+: g'.edges
  /-- There are as many edges across files as the limit allows, unless a build that does not reach its limit has
  fewer. -/
  counted : ∀ {k k' : Int} {g g' : Graph α}, (b.withLimit k).build fs now input = .ok g →
    (b.withLimit k').build fs now input = .ok g' → (g'.acrossFiles.length : Int) < k' →
      (g.acrossFiles.length : Int) = min (max k 0) g'.acrossFiles.length
  /-- There are limits that are not reached. -/
  unreached : ∃ k g, (b.withLimit k).build fs now input = .ok g ∧ (g.acrossFiles.length : Int) < k

/-- **A limit on pairs across files only truncates.**  All four clauses are read off one list of edges across files,
of which each limit leaves a front part (`exists_edges_withLimit`). -/
theorem limit_truncates (h : b.build fs now input = .ok g) : LimitTruncates b fs now input := by
  obtain ⟨front, new, within, across, cut⟩ := exists_edges_withLimit h
  have edges : ∀ {k : Int} {g : Graph α}, (b.withLimit k).build fs now input = .ok g →
      g.edges = front ++ new.take k.toNat := by
    intro k g hg
    obtain ⟨g', hg', eq⟩ := cut k
    obtain rfl : g = g' := Except.ok.inj (hg.symm.trans hg')
    exact eq
  have count : ∀ {k : Int} {g : Graph α}, (b.withLimit k).build fs now input = .ok g →
      g.acrossFiles.length = min k.toNat new.length := by
    intro k g hg
    rw [Graph.acrossFiles_eq (edges hg) within fun e mem => across e (List.mem_of_mem_take mem),
      List.length_take]
  refine ⟨fun limit => ?_, ?_, ?_, ?_⟩
  · obtain ⟨g, hg, -⟩ := cut limit
    exact ⟨g, hg⟩
  · intro k k' g g' le hg hg'
    rw [edges hg, edges hg']
    exact (List.prefix_append_right_inj front).mpr (List.take_prefix_take_left (Int.toNat_le_toNat le))
  · intro k k' g g' hg hg' below
    have most := count hg'
    rw [count hg]
    omega
  · obtain ⟨g, hg, -⟩ := cut (new.length + 1)
    refine ⟨_, g, hg, ?_⟩
    rw [count hg]
    omega

/-- Two edges across files, of which a limit of one leaves one. -/
theorem limit_truncates_of_three_functions :
    let b := (sample Rat .connectivity).withFilters (Filters.allEnabled 0)
    ∃ g g', b.build sampleFiles "" similarInput = .ok g ∧ LimitTruncates b sampleFiles "" similarInput ∧
      (b.withLimit 1).build sampleFiles "" similarInput = .ok g' ∧
        g.acrossFiles.length = 2 ∧ g'.acrossFiles.length = 1 := by
  intro b
  have finishes : (b.build sampleFiles "" similarInput).toOption.any
      (fun g => g.acrossFiles.length == 2) = true := by
    decide +kernel
  have finishes' : ((b.withLimit 1).build sampleFiles "" similarInput).toOption.any
      (fun g => g.acrossFiles.length == 1) = true := by
    decide +kernel
  obtain ⟨g, h, two⟩ := exists_ok_of_any_toOption finishes
  obtain ⟨g', h', one⟩ := exists_ok_of_any_toOption finishes'
  exact ⟨g, g', h, limit_truncates h, h', by simpa using two, by simpa using one⟩

end Builder

end CodeAtlas
