import CodeAtlas.Proofs.Consistency
import CodeAtlas.Proofs.Build

/-!
# What a step for a relation leaves alone

A step for a relation may be taken in any state, with edges of every relation there already, and then many of its
offers are refused.  Whatever the state is, a step that gives a number has put that many edges of its own relation
behind those that were there, and has done nothing else (`BuildState.relate_appends`).  Nothing is asked of the
state: that a number is given means that no proposal was a fault, and this is all that the offers need.

Steps one after the other append their edges in blocks, one for each step (`BuildState.runSteps_appends`).
-/

namespace CodeAtlas

variable {α : Type}

namespace BuildState

/-- The state `t` is `s` with `count` edges of the relation `r` behind its own. -/
structure Appends (r : Relation) (s t : BuildState α) (count : Nat) : Prop where
  /-- Nothing but edges has changed, -/
  frame : t = { s with edges := t.edges }
  /-- and the edges that were there come first, as they were. -/
  edges : ∃ new, t.edges.toList = s.edges.toList ++ new ∧ (∀ e ∈ new, e.relation = r) ∧ count = new.length

variable {r : Relation} {s t : BuildState α} {count : Nat}

variable [Scalar α] {around : Surroundings α}

/-- A step that gives a number has made all its offers, in edges of its own relation. -/
theorem exists_offered_of_relate (run : relate around r s = (t, .ok count)) :
    ∃ proposals, Offered s proposals t count ∧ ∀ e ∈ proposals, e.relation = r := by
  by_cases similar : r = .relatedTo
  · subst similar
    obtain ⟨t', count', proposals, run', offered, own⟩ := offered_relateSimilar around s
    obtain ⟨rfl, same⟩ := Prod.mk.inj (run'.symm.trans run)
    obtain rfl := Except.ok.inj same
    exact ⟨proposals, offered, own⟩
  · rw [relate_eq_offerAll around s similar] at run
    obtain ⟨t', count', run', offered⟩ := offered_offerAll around.filters s (ok_of_offerAll run)
    obtain ⟨rfl, same⟩ := Prod.mk.inj (run'.symm.trans run)
    obtain rfl := Except.ok.inj same
    exact ⟨_, offered, fun e mem => (unscored_of_mem_proposed (mem_of_mem_reached mem)).relation⟩

/-- **A run of steps appends a block of edges for each of them**, and leaves everything else as it was. -/
theorem runSteps_appends {rs : List Relation} (run : s.runSteps (rs.map (relate around)) = (t, none)) :
    t = { s with edges := t.edges } ∧ ∃ blocks : List (List (Edge α)),
      t.edges.toList = s.edges.toList ++ blocks.flatten ∧
        List.Forall₂ (fun r block => ∀ e ∈ block, e.relation = r) rs blocks := by
  induction rs generalizing s with
  | nil =>
      obtain rfl : s = t := congrArg Prod.fst run
      exact ⟨rfl, [], (List.append_nil _).symm, List.Forall₂.nil⟩
  | cons r rest ih =>
      rw [List.map_cons, runSteps] at run
      split at run
      · next u count taken =>
          obtain ⟨proposals, ⟨new, adds, sub, -⟩, own⟩ := exists_offered_of_relate taken
          obtain ⟨frame, blocks, later, owns⟩ := ih run
          refine ⟨by rw [frame, adds.frame], new :: blocks, ?_, ?_⟩
          · rw [later, adds.edges, List.flatten_cons, List.append_assoc]
          · exact List.Forall₂.cons (fun e mem => own e (sub.subset mem)) owns
      · cases run

/-- **A step that gives a number has appended as many edges of its own relation**, and has left everything else as
it was. -/
theorem relate_appends (run : relate around r s = (t, .ok count)) : Appends r s t count := by
  obtain ⟨proposals, ⟨new, adds, sub, length⟩, own⟩ := exists_offered_of_relate run
  exact ⟨adds.frame, new, adds.edges, fun e mem => own e (sub.subset mem), length⟩

/-- The nodes of two functions, of which the first one has its definition as an edge and calls the second one by an
edge from elsewhere. -/
def halfDefined : List (Operation Rat) :=
  let around : Surroundings Rat := { fs := Builder.sampleFiles, filters := .standard }
  let entity (name : String) : Entity := { filePath := "a.ts", name }
  [.files around.fs [entity "f"], .entities [entity "f"], .relate around .definedIn, .entities [entity "g"],
    .edge around.filters
      { source := "entity:a.ts:function:f:1"
        target := "entity:a.ts:function:g:1"
        relation := .calls
        weight := 1
        properties := .call "f calls g" "g" }]

/-- A second step for definitions is refused the first edge, and counts the other one. -/
theorem relate_appends_second_definition :
    ∃ s t count, ({ workspace := ⟨.single, ["ws"]⟩ } : BuildState Rat).after halfDefined = s ∧
      relate { fs := Builder.sampleFiles, filters := .standard } .definedIn s = (t, .ok count) ∧
        Appends .definedIn s t count ∧ count = 1 ∧
          s.edges.toList.map Edge.id
            = ["entity:a.ts:function:f:1->file:a.ts:DEFINED_IN",
              "entity:a.ts:function:f:1->entity:a.ts:function:g:1:CALLS"] ∧
          t.edges.toList.map Edge.id
            = ["entity:a.ts:function:f:1->file:a.ts:DEFINED_IN",
              "entity:a.ts:function:f:1->entity:a.ts:function:g:1:CALLS",
              "entity:a.ts:function:g:1->file:a.ts:DEFINED_IN"] := by
  let s : BuildState Rat := ({ workspace := ⟨.single, ["ws"]⟩ } : BuildState Rat).after halfDefined
  let step := relate { fs := Builder.sampleFiles, filters := .standard } .definedIn s
  have finishes : step.2.toOption.any (· == 1) = true := by decide +kernel
  obtain ⟨count, counted, one⟩ := exists_ok_of_any_toOption finishes
  have run : step = (step.1, .ok count) := Prod.ext rfl counted
  refine ⟨s, step.1, count, rfl, run, relate_appends run, by simpa using one, ?_, ?_⟩
  · decide +kernel
  · decide +kernel

end BuildState

end CodeAtlas
