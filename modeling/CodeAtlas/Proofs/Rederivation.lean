import CodeAtlas.Proofs.Consistency
import CodeAtlas.Proofs.Limit

/-!
# Deriving the edges again

An edge that has been offered is refused from then on, so that a step that offers the same edges a second time does
nothing.  All steps but the one for similarity are of this kind: what they propose depends on no edge
(`BuildState.beforeAcross_eq_self`).

Pairs across files are another matter, since the limit on them counts the edges that one run adds.  A second run
passes over the edges of the first one without counting them, and goes on where the first one has stopped
(`BuildState.relateAcross_relateAcross`).  So `n` runs do what one run with `n` times the limit does, and a second
run changes nothing exactly when the limit has cut nothing off (`BuildState.relateAll_again`).

## Outline

* What has been offered is refused from then on (`accepts_of_runSteps`), and this is all that the steps up to the
  pairs across files need, since the second run offers what the first one has offered (`beforeAcross_eq_self`).
* For pairs across files two lemmas on lists say how runs up to a limit compose: what is left of a limit can be
  offered behind it (`foldl_offer_foldl_offerUpTo`), and limits add up (`foldl_offerUpTo_foldl_offerUpTo`).
* Any state that operations lead to is one where both runs come to their end, as operations only make nodes that
  have the fields of their kinds (`BuildState.Complete.after`).
-/

namespace CodeAtlas

variable {α : Type}

/-! ## States whose nodes have the fields of their kinds -/

/-- Whether an operation takes up a node from elsewhere. -/
def Operation.isForeign : Operation α → Bool
  | node _ => true
  | _ => false

namespace BuildState

/-- Every node has the fields of its kind. -/
def Complete (s : BuildState α) : Prop := ∀ n ∈ s.nodes.toList, n.Complete

namespace Complete

variable {s t : BuildState α} {fs : FileSystem} {m m' : Made α}

/-- A node with the fields of its kind is no exception, -/
theorem addNode (h : s.Complete) {n : Node} (complete : n.Complete) : (s.addNode n).Complete := by
  intro n' mem
  rcases Catalog.mem_insertNew.mp mem with old | ⟨rfl, -⟩
  · exact h n' old
  · exact complete

/-- and a directory has its fields, -/
theorem addDirectory (h : m.state.Complete) (segments : List String) :
    (BuildState.addDirectory fs m segments).state.Complete := by
  rw [BuildState.addDirectory]
  split
  · exact h
  · exact h.addNode (complete_directoryNode _ _ _)

/-- a file has, -/
theorem addFile (h : m.state.Complete) {group : Path × List Entity}
    (made : BuildState.addFile fs m group = .ok m') : m'.state.Complete := by
  rw [BuildState.addFile] at made
  split at made
  · obtain rfl := Except.ok.inj made
    exact h
  · obtain ⟨node, hnode, rfl⟩ := map_eq_ok_iff.mp made
    have added := h.addNode (complete_fileNode hnode)
    refine List.foldlRecOn (motive := fun m : Made α => m.state.Complete) _ _ added ?_
    exact fun m holds segments _ => holds.addDirectory segments

/-- and so has an entity. -/
theorem addEntity (h : m.state.Complete) (e : Entity) : (BuildState.addEntity m e).state.Complete := by
  rw [BuildState.addEntity]
  split
  · exact h
  · exact h.addNode (complete_entityNode _ e)

/-- Edges leave the nodes as they are. -/
theorem of_adds {new : List (Edge α)} (h : s.Complete) (adds : Adds s new t) : t.Complete := by
  rwa [Complete, adds.nodes]

variable [Scalar α]

/-- An operation takes no fields from nodes, and makes no node without the fields of its kind. -/
theorem apply (h : s.Complete) {operation : Operation α} (own : operation.isForeign = false) :
    (operation.apply s).Complete := by
  cases operation with
  | project fs =>
      unfold Operation.apply
      dsimp only
      split
      · next made =>
          obtain ⟨n, hn, rfl⟩ := map_eq_ok_iff.mp made
          exact h.addNode (complete_projectNode hn)
      · exact h
  | files fs given =>
      exact runUntilFault_keeps (fun m : Made α => m.state.Complete) _
        (fun group _ m m' holds made => holds.addFile made) h
  | entities given =>
      exact List.foldlRecOn (motive := fun m : Made α => m.state.Complete) given _ h
        fun m holds e _ => holds.addEntity e
  | node n => cases own
  | edge filters e =>
      obtain ⟨-, ⟨new, adds, -⟩, -⟩ := BuildState.offered_offer filters (s, 0) e
      exact h.of_adds adds
  | relate around r =>
      obtain ⟨new, adds⟩ := BuildState.adds_relate around r s
      exact h.of_adds adds
  | relateAll around =>
      obtain ⟨new, adds⟩ := BuildState.adds_relateAll around s
      exact h.of_adds adds
  | fileMaps imports exports => exact h

/-- **Only nodes from elsewhere may lack the fields of their kinds**, by induction over the operations. -/
theorem after {workspace : Path} {operations : List (Operation α)}
    (own : ∀ operation ∈ operations, operation.isForeign = false) :
    (({ workspace } : BuildState α).after operations).Complete := by
  refine List.foldlRecOn (motive := Complete) operations _ (fun n mem => nomatch mem) ?_
  exact fun s holds operation mem => holds.apply (own operation mem)

end Complete

variable [Scalar α] {around : Surroundings α} {s t u : BuildState α} {e : Edge α}

/-! ## Steps that do nothing -/

/-- What a run of steps has offered is refused from then on: it was not accepted, and will not be, or its id is taken.
The induction is over the steps, and what comes behind only takes more ids. -/
theorem accepts_of_runSteps {rs : List Relation} (others : ∀ r ∈ rs, r ≠ .relatedTo)
    (complete : s.Complete) (run : s.runSteps (rs.map (relate around)) = (t, none))
    {more : List (Edge α)} (later : Adds t more u) {r : Relation} (mem : r ∈ rs)
    (proposed : .ok e ∈ s.proposed around r) : u.accepts around.filters e = false := by
  induction rs generalizing s with
  | nil => cases mem
  | cons first rest ih =>
      obtain ⟨here, behind⟩ := List.forall_mem_cons.mp others
      obtain ⟨v, count, new, step, adds, -⟩ := relates_relate around first s complete
      have run' : v.runSteps (rest.map (relate around)) = (t, none) := by
        rw [List.map_cons, runSteps, step] at run
        exact run
      rcases List.mem_cons.mp mem with rfl | next
      · have offers : v = ((reached (s.proposed around r)).foldl (offer around.filters) (s, 0)).1 := by
          rw [← offerAll_fst, ← relate_eq_offerAll around s here, step]
        obtain ⟨t', new', rerun, adds', -⟩ := runSteps_relate around rest (complete.of_adds adds)
        obtain rfl : t' = t := congrArg Prod.fst (rerun.symm.trans run')
        have afterwards := adds'.trans later
        rw [offers] at afterwards
        exact accepts_of_offered afterwards (mem_reached_of_ok (proposed_ok complete around r) proposed)
      · refine ih behind (complete.of_adds adds) run' next ?_
        rwa [proposed_congr adds.frame]

/-- Steps whose proposals are all refused do nothing. -/
theorem runSteps_eq_self {rs : List Relation} (others : ∀ r ∈ rs, r ≠ .relatedTo) (complete : s.Complete)
    (refused : ∀ r ∈ rs, ∀ e, .ok e ∈ s.proposed around r → s.accepts around.filters e = false) :
    s.runSteps (rs.map (relate around)) = (s, none) := by
  induction rs with
  | nil => rfl
  | cons r rest ih =>
      obtain ⟨here, behind⟩ := List.forall_mem_cons.mp others
      obtain ⟨now, later⟩ := List.forall_mem_cons.mp refused
      have step : relate around r s = (s, .ok 0) := by
        rw [relate_eq_offerAll around s here, ← map_reached_of_ok (proposed_ok complete around r),
          offerAll_map_ok, foldl_offer_eq_of_refused fun e mem => now e (mem_of_mem_reached mem)]
      rw [List.map_cons, runSteps, step]
      exact ih behind later

/-- **Up to the pairs across files a second run does nothing.**  Its proposals are those of the first run, as they do
not depend on edges, and each of them has been offered. -/
theorem beforeAcross_eq_self (complete : s.Complete) {more : List (Edge α)}
    (later : Adds (s.beforeAcross around) more t) : t.beforeAcross around = t := by
  have others : ∀ r ∈ Relation.relatedTo.before.filter around.filters.enables, r ≠ .relatedTo :=
    fun r mem => Relation.ne_of_mem_before (List.mem_of_mem_filter mem)
  obtain ⟨v, new, run, adds, -⟩ := runSteps_relate around
    (Relation.relatedTo.before.filter around.filters.enables) complete
  -- Whether or not similar entities are related, edges have been added since the other steps.
  obtain ⟨more', since⟩ : ∃ more', Adds v more' t := by
    rw [beforeAcross, run] at later
    dsimp only at later
    split at later
    · obtain ⟨same, adds', -⟩ := offered_relateSameFile around v
      exact ⟨_, adds'.trans later⟩
    · exact ⟨_, later⟩
  have whole := adds.trans since
  have rerun : t.runSteps ((Relation.relatedTo.before.filter around.filters.enables).map
      (relate around)) = (t, none) := by
    refine runSteps_eq_self others (complete.of_adds whole) fun r mem e proposed => ?_
    rw [proposed_congr whole.frame] at proposed
    exact accepts_of_runSteps others complete run since mem proposed
  rw [beforeAcross, rerun]
  dsimp only
  split
  · next enabled =>
      rw [beforeAcross, run, if_pos enabled] at later
      have proposals : t.sameFileProposals around = v.sameFileProposals around := by
        rw [since.frame]
        rfl
      rw [relateSameFile_eq, foldl_offer_eq_of_refused]
      intro e mem
      rw [proposals] at mem
      exact accepts_of_offered later mem
  · rfl

/-! ## Pairs across files, offered again -/

section Offers

variable {filters : Filters α}

/-- What has been counted so far has no say in what becomes of offers. -/
theorem foldl_offer_fst (proposals : List (Edge α)) (s : BuildState α) (m n : Nat) :
    (proposals.foldl (offer filters) (s, m)).1 = (proposals.foldl (offer filters) (s, n)).1 := by
  refine List.foldl_rel (f := offer filters) (g := offer filters)
    (r := fun p q : BuildState α × Nat => p.1 = q.1) rfl ?_
  rintro e - ⟨s, m⟩ ⟨t, n⟩ rfl
  unfold offer
  dsimp only
  split <;> rfl

/-- **What a limit has cut off is still to come**: to offer all pairs behind a run up to a limit leaves what offering
all of them at once does.  By induction over the pairs. -/
theorem foldl_offer_foldl_offerUpTo (limit : Int) (propose : Placed × Placed → Option (Edge α))
    (pairs : List (Placed × Placed)) (progress : BuildState α × Nat) (n : Nat) :
    ((pairs.filterMap propose).foldl (offer filters)
        ((pairs.foldl (offerUpTo filters limit propose) progress).1, n)).1
      = ((pairs.filterMap propose).foldl (offer filters) progress).1 := by
  induction pairs generalizing progress with
  | nil => rfl
  | cons pair rest ih =>
      by_cases reached : limit ≤ (progress.2 : Int)
      · rw [foldl_offerUpTo_of_reached reached]
        exact foldl_offer_fst _ _ _ _
      · rw [List.foldl_cons, List.filterMap_cons, offerUpTo, if_neg reached]
        cases proposed : propose pair with
        | none => exact ih progress
        | some e =>
            dsimp only
            rw [List.foldl_cons, List.foldl_cons, ← ih (offer filters progress e)]
            -- The edge has been offered in front of the others, so that it is refused now.
            obtain ⟨m, ⟨more, later, -⟩, -⟩ :=
              offered_foldl_offerUpTo filters limit propose rest (offer filters progress e)
            have here : Adds ([e].foldl (offer filters) progress).1 more
                (rest.foldl (offerUpTo filters limit propose) (offer filters progress e)).1 := later
            have refused := accepts_of_offered here (List.mem_singleton_self e)
            rw [offer, if_neg (by simp [refused])]

/-- **A second run up to a limit goes on where the first one has stopped.**  The pairs of the first run are refused in
the second one, and are not counted; so the limits add up. -/
theorem foldl_offerUpTo_foldl_offerUpTo (first second : Int)
    (propose : Placed × Placed → Option (Edge α)) (pairs : List (Placed × Placed)) (s : BuildState α) :
    (pairs.foldl (offerUpTo filters second propose)
        ((pairs.foldl (offerUpTo filters first propose) (s, 0)).1, 0)).1
      = (pairs.foldl (offerUpTo filters (max first 0 + max second 0) propose) (s, 0)).1 := by
  obtain ⟨new, all, upTo⟩ := exists_cut filters propose pairs (s, 0)
  obtain ⟨new', all', upTo'⟩ := exists_cut filters propose pairs
    ((pairs.foldl (offerUpTo filters first propose) (s, 0)).1, 0)
  rw [foldl_offer_foldl_offerUpTo] at all'
  -- The first run has added the front, and what is left is the rest.
  have front : Adds s (new.take first.toNat)
      (pairs.foldl (offerUpTo filters first propose) (s, 0)).1 := by simpa using upTo first
  have split : new.take first.toNat ++ new.drop first.toNat = new.take first.toNat ++ new' :=
    (List.take_append_drop _ new).trans (all.new_eq (front.trans all'))
  have rest : new.drop first.toNat = new' := List.append_cancel_left split
  have back := upTo' second
  have whole := upTo (max first 0 + max second 0)
  have places : (max first 0 + max second 0 - (0 : Nat)).toNat
      = first.toNat + (second - (0 : Nat)).toNat := by omega
  rw [places, List.take_add, rest] at whole
  exact (front.trans back).eq_of_adds whole

end Offers

/-- **Pairs across files are taken up where they were left.** -/
theorem relateAcross_relateAcross (complete : s.Complete) (k m : Int) :
    (s.relateAcross around k).relateAcross around m = s.relateAcross around (max k 0 + max m 0) := by
  obtain ⟨new, -, -, upTo⟩ := exists_adds_relateAcross around s
  have adds := upTo k
  have before : (s.relateAcross around k).beforeAcross around = s.relateAcross around k :=
    beforeAcross_eq_self complete adds
  have pairs : (s.relateAcross around k).acrossPairs around = s.acrossPairs around := by
    rw [acrossPairs, before, crossFilePairs_congr adds.frame (imports_relateAcross around k s)]
    rfl
  have propose : (s.relateAcross around k).crossFileProposal around
      = (s.beforeAcross around).crossFileProposal around := by
    rw [adds.frame]
    rfl
  rw [relateAcross, before, pairs, propose]
  exact foldl_offerUpTo_foldl_offerUpTo k m _ _ _

/-! ## Runs, again and again -/

/-- A run gives its limit to the pairs across files. -/
theorem relateAll_withLimit (around : Surroundings α) (complete : s.Complete) (limit : Int) :
    s.relateAll (around.withLimit limit)
      = (s.relateAcross around limit, .ok (s.relateAcross around limit).edges.size) := by
  have whole := relateAll_eq (around.withLimit limit) complete
  rwa [relateAcross_withLimit] at whole

/-- **A run behind another one** does what one run with both limits does. -/
theorem relateAll_relateAll (around : Surroundings α) (complete : s.Complete) (k m : Int) :
    (s.relateAll (around.withLimit k)).1.relateAll (around.withLimit m)
      = s.relateAll (around.withLimit (max k 0 + max m 0)) := by
  obtain ⟨new, adds⟩ := adds_relateAll (around.withLimit k) s
  rw [relateAll_withLimit around (complete.of_adds adds), relateAll_withLimit around complete,
    relateAll_withLimit around complete]
  dsimp only
  rw [relateAcross_relateAcross complete]

/-- Runs are told apart by the number of pairs across files that their limits leave. -/
theorem exists_relateAll_eq_iff (around : Surroundings α) (complete : s.Complete) :
    ∃ count : Nat, ∀ k m : Int, s.relateAll (around.withLimit k) = s.relateAll (around.withLimit m) ↔
      min k.toNat count = min m.toNat count := by
  obtain ⟨new, -, -, upTo⟩ := exists_adds_relateAcross around s
  refine ⟨new.length, fun k m => ?_⟩
  rw [← List.take_eq_take_iff, relateAll_withLimit around complete, relateAll_withLimit around complete]
  have left := upTo k
  have right := upTo m
  constructor
  · intro same
    have state : s.relateAcross around k = s.relateAcross around m := (Prod.mk.inj same).1
    rw [state] at left
    exact left.new_eq right
  · intro same
    rw [same] at left
    rw [left.eq_of_adds right]

/-- The state after some runs. -/
def derived (around : Surroundings α) (s : BuildState α) : Nat → BuildState α
  | 0 => s
  | n + 1 => ((derived around s n).relateAll around).1

/-- What runs do that follow each other. -/
structure DerivedAgain (around : Surroundings α) (s : BuildState α) : Prop where
  /-- A run comes to its end, with whatever limit. -/
  ends : ∀ limit, ∃ t, s.relateAll (around.withLimit limit) = (t, .ok t.edges.size)
  /-- Each run does what a first one with so many times the limit would do. -/
  again : ∀ n : Nat, (s.derived around n).relateAll around
    = s.relateAll (around.withLimit ((n + 1) * max around.filters.maxCrossFileRelations 0))
  /-- The second run changes nothing iff a first run with a higher limit would do no more either. -/
  settled : (s.derived around 1).relateAll around = s.relateAll around ↔
    around.filters.maxCrossFileRelations ≤ 0 ∨ ∀ limit, around.filters.maxCrossFileRelations ≤ limit →
      s.relateAll (around.withLimit limit) = s.relateAll around

/-- The runs behind each other, each a first run with so many times the limit: by induction on how many have been. -/
theorem relateAll_derived (around : Surroundings α) (complete : s.Complete) (n : Nat) :
    (s.derived around n).relateAll around
      = s.relateAll (around.withLimit ((n + 1) * max around.filters.maxCrossFileRelations 0)) := by
  induction n with
  | zero =>
      obtain ⟨count, same_iff⟩ := exists_relateAll_eq_iff around complete
      exact (same_iff around.filters.maxCrossFileRelations _).mpr (by omega)
  | succ n ih =>
      have next := relateAll_relateAll around complete
        ((n + 1) * max around.filters.maxCrossFileRelations 0) around.filters.maxCrossFileRelations
      have positive : 0 ≤ (n + 1) * max around.filters.maxCrossFileRelations 0 :=
        Int.mul_nonneg (by omega) (by omega)
      have limits : ((n + 1 : Nat) + 1) * max around.filters.maxCrossFileRelations 0
          = max ((n + 1) * max around.filters.maxCrossFileRelations 0) 0
            + max around.filters.maxCrossFileRelations 0 := by
        rw [Int.max_eq_left positive, Int.natCast_succ, Int.add_mul (n + 1) 1, Int.one_mul]
      rw [derived, ih, limits]
      exact next

/-- **Deriving the edges again is a no-op up to the limit on pairs across files**: a run takes these pairs up where
the run before it has left them.  That all nodes have the fields of their kinds is kept by the operations that have
led to the state, and lets each of the runs come to its end. -/
theorem relateAll_again {workspace : Path} {operations : List (Operation α)}
    (own : ∀ operation ∈ operations, operation.isForeign = false)
    (run : ({ workspace } : BuildState α).after operations = s) (around : Surroundings α) :
    DerivedAgain around s := by
  have complete : s.Complete := by
    rw [← run]
    exact Complete.after own
  refine ⟨fun limit => ⟨_, relateAll_withLimit around complete limit⟩,
    relateAll_derived around complete, ?_⟩
  obtain ⟨count, same_iff⟩ := exists_relateAll_eq_iff around complete
  have first : ∀ limit, s.relateAll (around.withLimit limit) = s.relateAll around ↔
      min limit.toNat count = min around.filters.maxCrossFileRelations.toNat count :=
    fun limit => same_iff limit around.filters.maxCrossFileRelations
  rw [relateAll_derived around complete, first]
  constructor
  · intro same
    refine or_iff_not_imp_left.mpr fun positive limit higher => (first limit).mpr ?_
    omega
  · rintro (none | settled)
    · omega
    · exact (first _).mp (settled _ (by omega))

/-- The nodes of a function and, in another file, of two functions like it.  The first file imports the second one. -/
def similarNodes : List (Operation Rat) :=
  let given : List Entity := [("/ws/a.ts", "f"), ("/ws/b.ts", "g"), ("/ws/b.ts", "h")].map
    fun (filePath, name) => { filePath, name, tags := ["api", "store"] }
  [.fileMaps [("/ws/a.ts", ["./b"])] [], .project Builder.sampleFiles, .files Builder.sampleFiles given,
    .entities given]

/-- A limit of one on pairs across files. -/
def oneAcross : Surroundings Rat where
  fs := Builder.sampleFiles
  filters := (Filters.allEnabled 0).withLimit 1

/-- Three runs with a limit of one: the last one finds nothing left to do. -/
theorem relateAll_again_of_three_functions :
    (∀ operation ∈ similarNodes, operation.isForeign = false) ∧
      ∃ s, ({ workspace := ⟨.single, ["ws"]⟩ } : BuildState Rat).after similarNodes = s ∧
        DerivedAgain oneAcross s ∧
        (List.range 4).map (fun n => (s.derived oneAcross n).edges.size) = [0, 11, 12, 12] := by
  have own : ∀ operation ∈ similarNodes, operation.isForeign = false := by
    simp [similarNodes, Operation.isForeign]
  exact ⟨own, _, rfl, relateAll_again own rfl oneAcross, by decide +kernel⟩

/-- A second run that adds an edge. -/
theorem second_run_adds_edge :
    let s := ({ workspace := ⟨.single, ["ws"]⟩ } : BuildState Rat).after similarNodes
    (s.relateAll oneAcross).2.toOption = some 11 ∧
      ((s.relateAll oneAcross).1.relateAll oneAcross).2.toOption = some 12 := by
  decide +kernel

end BuildState

end CodeAtlas
