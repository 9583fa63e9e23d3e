import CodeAtlas.Community.Detection
import CodeAtlas.Build.Builder
import CodeAtlas.Proofs.Stages

/-!
# What does not depend on the counts of files

The node of a file says how many entities the file has.  Nothing in a build reads this figure: neither the steps
that make further nodes, nor the proposals of edges, nor the communities, nor the figures of the whole graph.

`BuildState.uncounted` is a state whose files do not tell their counts, and the statement takes the same form for
every function of a build: what it makes of such a state is what it makes of the state, with the counts left out.
-/

namespace CodeAtlas

/-! ## Nodes and catalogs of nodes -/

/-- An object of which the member under a key is null. -/
def Members.masked (members : Members) (key : String) : Members :=
  members.map fun m => if m.1 = key then (m.1, .null) else m

/-- The members under other keys stay what they are. -/
theorem Members.get?_masked_of_ne (members : Members) {key other : String} (ne : other ≠ key) :
    get? (masked members key) other = get? members other := by
  simp only [get?, masked]
  induction members with
  | nil => rfl
  | cons m rest ih =>
      rw [List.map_cons]
      split
      · next eq =>
          have passed : (other == m.1) = false := beq_false_of_ne (eq ▸ ne)
          rw [List.lookup_cons, List.lookup_cons, ih]
          simp only [passed]
      · rw [List.lookup_cons, List.lookup_cons, ih]

/-- A node that does not tell how many entities its file has. -/
def Node.uncounted (n : Node) : Node :=
  { n with
    properties := if n.kind = .file then Members.masked n.properties "entities_count" else n.properties }

namespace Node

variable (n : Node)

/-- A node of another kind has no count. -/
theorem uncounted_of_ne {n : Node} (ne : n.kind ≠ .file) : n.uncounted = n := by
  rw [uncounted, if_neg ne]

@[simp] theorem uncounted_id : n.uncounted.id = n.id := rfl

@[simp] theorem uncounted_kind : n.uncounted.kind = n.kind := rfl

@[simp] theorem uncounted_name : n.uncounted.name = n.name := rfl

@[simp] theorem uncounted_absolutePath : n.uncounted.absolutePath = n.absolutePath := rfl

@[simp] theorem uncounted_relativePath : n.uncounted.relativePath = n.relativePath := rfl

@[simp] theorem uncounted_tags : n.uncounted.tags = n.tags := rfl

@[simp] theorem uncounted_level : n.uncounted.level = n.level := rfl

@[simp] theorem uncounted_elementKind : n.uncounted.elementKind = n.elementKind := rfl

@[simp] theorem uncounted_startLine : n.uncounted.startLine = n.startLine := rfl

/-- The language of a node is under another key. -/
@[simp] theorem uncounted_language : n.uncounted.language = n.language := by
  have kept : Members.get? n.uncounted.properties "language" = Members.get? n.properties "language" := by
    unfold uncounted
    dsimp only
    split
    · exact Members.get?_masked_of_ne _ (by decide)
    · rfl
  simp only [language, Draft.language, draft, kept]

end Node

namespace Catalog

variable {α : Type} {key : α → String}

/-- The items of a catalog, each changed under its own key. -/
def map (c : Catalog α key) (f : α → α) (keeps : ∀ a, key (f a) = key a) : Catalog α key where
  toList := c.toList.map f
  nodup := by
    have keys : key ∘ f = key := funext keeps
    rw [List.map_map, keys]
    exact c.nodup

variable {c : Catalog α key} {f : α → α} (keeps : ∀ a, key (f a) = key a)

@[simp] theorem toList_map : (c.map f keeps).toList = c.toList.map f := rfl

@[simp] theorem contains_map (k : String) : (c.map f keeps).contains k = c.contains k := by
  simp [contains, Function.comp_def, keeps]

@[simp] theorem find?_map (k : String) : (c.map f keeps).find? k = (c.find? k).map f := by
  have same : (fun a => key a == k) ∘ f = fun a => key a == k := funext fun a => by simp [keeps]
  rw [find?, toList_map, List.find?_map, same, find?]

/-- Items can be changed before or after one is inserted, as the change keeps their keys. -/
theorem map_insertNew (a : α) : (c.insertNew a).map f keeps = (c.map f keeps).insertNew (f a) := by
  refine ext_toList ?_
  rw [toList_insertNew, toList_map, toList_insertNew, contains_map, keeps]
  split
  · rfl
  · rw [List.map_append]
    rfl

end Catalog

/-- Nodes of which the files do not tell how many entities they have. -/
def Community.Nodes.uncounted (nodes : Community.Nodes) : Community.Nodes :=
  nodes.map Node.uncounted Node.uncounted_id

namespace BuildState

variable {α : Type} (s : BuildState α)

/-- A state whose files do not tell how many entities they have. -/
def uncounted : BuildState α := { s with nodes := Community.Nodes.uncounted s.nodes }

@[simp] theorem workspace_uncounted : s.uncounted.workspace = s.workspace := rfl

@[simp] theorem edges_uncounted : s.uncounted.edges = s.edges := rfl

@[simp] theorem contains_uncounted (id : String) : s.uncounted.nodes.contains id = s.nodes.contains id :=
  Catalog.contains_map Node.uncounted_id id

@[simp] theorem find?_uncounted (id : String) :
    s.uncounted.nodes.find? id = (s.nodes.find? id).map Node.uncounted := Catalog.find?_map Node.uncounted_id id

/-- A node is added in the same way. -/
theorem uncounted_addNode (n : Node) : (s.addNode n).uncounted = s.uncounted.addNode n.uncounted := by
  simp only [addNode, uncounted, Community.Nodes.uncounted, Catalog.map_insertNew]

/-- What a table leads to is found in the same way, since ids and kinds are kept. -/
theorem registered?_uncounted (ids : List (String × String)) (path : String) :
    s.uncounted.registered? ids path = (s.registered? ids path).map Node.uncounted := by
  simp only [registered?, find?_uncounted, Option.map_bind]
  refine congrArg _ (funext fun id => ?_)
  simp only [Function.comp_apply]
  split <;> rfl

@[simp] theorem fileNode?_uncounted (path : String) :
    s.uncounted.fileNode? path = (s.fileNode? path).map Node.uncounted := s.registered?_uncounted _ path

@[simp] theorem directoryNode?_uncounted (path : String) :
    s.uncounted.directoryNode? path = (s.directoryNode? path).map Node.uncounted :=
  s.registered?_uncounted _ path

theorem filter_kind_uncounted (nodes : List Node) (kind : NodeKind) :
    (nodes.map Node.uncounted).filter (·.kind == kind)
      = (nodes.filter (·.kind == kind)).map Node.uncounted := by
  rw [List.filter_map]
  simp [Function.comp_def]

theorem nodesOf_uncounted (kind : NodeKind) :
    s.uncounted.nodesOf kind = (s.nodesOf kind).map Node.uncounted := filter_kind_uncounted _ kind

/-! ## Proposals -/

/-- An element is related to its file alike, if the edge does not tell the count of the file. -/
theorem elementProposal_uncounted {edge edge' : Node → String → Edge α} (n : Node)
    (same : ∀ file kind, edge file.uncounted kind = edge' file kind) :
    s.uncounted.elementProposal edge n.uncounted = s.elementProposal edge' n := by
  have file : n.uncounted.absolutePath.bind s.uncounted.fileNode?
      = (n.absolutePath.bind s.fileNode?).map Node.uncounted := by
    rw [Node.uncounted_absolutePath, Option.map_bind]
    exact congrArg _ (funext s.fileNode?_uncounted)
  unfold elementProposal
  rw [file, Node.uncounted_elementKind, Node.uncounted_id]
  cases n.absolutePath.bind s.fileNode? with
  | none => rfl
  | some file => simp only [Option.map_some, same]

variable [Scalar α]

theorem directoryAbove_uncounted (n : Node) : directoryAbove n.uncounted = directoryAbove n := by
  simp only [directoryAbove, Node.uncounted_relativePath, Node.uncounted_id]

theorem directoryProposal_uncounted (n : Node) :
    s.uncounted.directoryProposal n.uncounted = s.directoryProposal n := by
  simp [directoryProposal, directoryAbove_uncounted, Function.comp_def]

theorem fileProposal_uncounted (n : Node) :
    s.uncounted.fileProposal n.uncounted = s.fileProposal n := by
  simp [fileProposal, directoryAbove_uncounted, Function.comp_def]

theorem elementContained_uncounted (n : Node) :
    s.uncounted.elementContained n.uncounted = s.elementContained n :=
  s.elementProposal_uncounted n fun _ _ => by simp

theorem elementDefined_uncounted (n : Node) :
    s.uncounted.elementDefined n.uncounted = s.elementDefined n :=
  s.elementProposal_uncounted n fun _ _ => by simp

theorem importProposal_uncounted (around : Surroundings α) (importer : String) (source : Node)
    (specifier : String) : s.uncounted.importProposal around importer source.uncounted specifier
      = s.importProposal around importer source specifier := by
  simp [importProposal, Function.comp_def]

/-- **What is proposed does not depend on the counts.**  The relations differ in what they look at.  Containment and
definition go through nodes, and look at their paths and ids; imports start from the node of a file; calls and
similarity look at entities, and not at nodes. -/
theorem proposed_uncounted (around : Surroundings α) (r : Relation) :
    s.uncounted.proposed around r = s.proposed around r := by
  cases r with
  | contains =>
      refine congrArg proposals ?_
      simp only [containmentDrafts, nodesOf_uncounted, List.map_map, Function.comp_def,
        directoryProposal_uncounted, fileProposal_uncounted, elementContained_uncounted]
  | definedIn =>
      refine congrArg proposals ?_
      simp only [definitionDrafts, nodesOf_uncounted, List.map_map, Function.comp_def,
        elementDefined_uncounted]
  | imports =>
      refine congrArg (List.map Except.ok) ?_
      unfold importProposals
      refine congrArg (List.flatMap · s.imports) (funext fun entry => ?_)
      obtain ⟨importer, specifiers⟩ := entry
      dsimp only
      rw [fileNode?_uncounted]
      cases s.fileNode? importer with
      | none => rfl
      | some source =>
          exact congrArg (List.filterMap · specifiers)
            (funext (s.importProposal_uncounted around importer source))
  | calls => rfl
  | relatedTo => rfl

/-! ## Steps -/

/-- A step that does with a state without counts what it does with the state. -/
def Ignores (step : BuildState α → StepResult α) : Prop :=
  ∀ s, step s.uncounted = Prod.map uncounted id (step s)

variable {s}

/-- An edge is accepted by the ids of its ends, so that an offer comes to the same. -/
theorem offer_uncounted (filters : Filters α) (progress : BuildState α × Nat) (e : Edge α) :
    offer filters (Prod.map uncounted id progress) e
      = Prod.map uncounted id (offer filters progress e) := by
  have accepts : progress.1.uncounted.accepts filters e = progress.1.accepts filters e := by
    simp only [BuildState.accepts, contains_uncounted, edges_uncounted]
  simp only [offer, Prod.map_fst, accepts]
  split <;> rfl

/-- So does a run of offers, a fault among them included: the state without counts is a picture of the state that
every offer respects (`runUntilFault_hom`). -/
theorem offerAll_uncounted (filters : Filters α) (proposals : List (Except Fault (Edge α))) :
    Ignores fun s => s.offerAll filters proposals := by
  intro s
  let step (progress : BuildState α × Nat) (p : Except Fault (Edge α)) := p.map (offer filters progress)
  have hom : ∀ progress p, step (Prod.map uncounted id progress) p
      = (step progress p).map (Prod.map uncounted id) := by
    rintro progress (f | e)
    · rfl
    · exact congrArg Except.ok (offer_uncounted filters progress e)
  have run : runUntilFault step (s.uncounted, 0) proposals = _ :=
    runUntilFault_hom (Prod.map uncounted id) hom (s, 0) proposals
  simp only [offerAll, step] at run ⊢
  rw [run]
  rcases runUntilFault step (s, 0) proposals with ⟨⟨t, count⟩, _ | f⟩ <;> rfl

theorem foldl_offer_uncounted (filters : Filters α) (edges : List (Edge α))
    (progress : BuildState α × Nat) : edges.foldl (offer filters) (Prod.map uncounted id progress)
      = Prod.map uncounted id (edges.foldl (offer filters) progress) :=
  List.foldl_hom (Prod.map uncounted id) (offer_uncounted filters)

/-- An offer that counts against the limit comes to the same as well, -/
theorem offerUpTo_uncounted (filters : Filters α) (limit : Int)
    (propose : Placed × Placed → Option (Edge α)) (progress : BuildState α × Nat)
    (pair : Placed × Placed) : offerUpTo filters limit propose (Prod.map uncounted id progress) pair
      = Prod.map uncounted id (offerUpTo filters limit propose progress pair) := by
  simp only [offerUpTo, Prod.map_snd, id_eq]
  split
  · rfl
  · split
    · exact offer_uncounted filters progress _
    · rfl

/-- and so do the offers of all pairs. -/
theorem foldl_offerUpTo_uncounted (filters : Filters α) (limit : Int)
    (propose : Placed × Placed → Option (Edge α)) (pairs : List (Placed × Placed))
    (progress : BuildState α × Nat) :
    pairs.foldl (offerUpTo filters limit propose) (Prod.map uncounted id progress)
      = Prod.map uncounted id (pairs.foldl (offerUpTo filters limit propose) progress) :=
  List.foldl_hom (Prod.map uncounted id) (offerUpTo_uncounted filters limit propose)

/-- **No step for a relation looks at the counts.**  For similarity both halves of the step are folds over pairs of
entities; all others offer what they propose, which is the same. -/
theorem ignores_relate (around : Surroundings α) (r : Relation) : Ignores (relate around r) := by
  intro s
  by_cases similar : r = .relatedTo
  · subst similar
    have same : s.uncounted.relateSameFile around = Prod.map uncounted id (s.relateSameFile around) :=
      foldl_offer_uncounted around.filters _ (s, 0)
    have cross : ∀ t : BuildState α,
        t.uncounted.relateCrossFile around = Prod.map uncounted id (t.relateCrossFile around) :=
      fun t => foldl_offerUpTo_uncounted around.filters _ _ _ (t, 0)
    simp only [relate, relateSimilar_eq, same, Prod.map_fst, Prod.map_snd, cross]
    rfl
  · rw [relate_eq_offerAll around _ similar, relate_eq_offerAll around _ similar, proposed_uncounted]
    exact offerAll_uncounted around.filters _ s

omit [Scalar α] in
/-- Steps that do not look at the counts make up a run that does not, by induction over the steps. -/
theorem runSteps_uncounted (steps : List (BuildState α → StepResult α))
    (ignores : ∀ step ∈ steps, Ignores step) (s : BuildState α) :
    s.uncounted.runSteps steps = Prod.map uncounted id (s.runSteps steps) := by
  induction steps generalizing s with
  | nil => rfl
  | cons step rest ih =>
      obtain ⟨here, later⟩ := List.forall_mem_cons.mp ignores
      rw [runSteps, runSteps, here s]
      rcases step s with ⟨t, f | count⟩
      · rfl
      · exact ih later t

/-- **The edges of a build do not depend on the counts**, nor do the number of edges and the fault that ends the run,
if there is one. -/
theorem ignores_relateAll (around : Surroundings α) : Ignores (relateAll around) := by
  intro s
  have run := runSteps_uncounted (enabledSteps around) ?_ s
  · simp only [relateAll, run]
    rcases s.runSteps (enabledSteps around) with ⟨t, _ | f⟩ <;> rfl
  · rw [enabledSteps_eq]
    intro step mem
    obtain ⟨r, -, rfl⟩ := List.mem_map.mp mem
    exact ignores_relate around r

end BuildState

/-! ## Communities and figures -/

namespace Community

variable {α : Type} [Scalar α] (nodes : Nodes) (edges : List (Edge α))

theorem describe_uncounted (members : List Node) :
    describe (members.map Node.uncounted) = describe members := by
  have elements : (members.map Node.uncounted).filter (·.kind == .codeElement)
      = members.filter (·.kind == .codeElement) := by
    rw [BuildState.filter_kind_uncounted]
    refine (List.map_congr_left fun n mem => ?_).trans (List.map_id _)
    obtain ⟨-, kind⟩ := List.mem_filter.mp mem
    exact Node.uncounted_of_ne (by simp [eq_of_beq kind])
  simp only [describe, elements]

theorem topTags_uncounted (members : List Node) (limit : Nat) :
    topTags (members.map Node.uncounted) limit = topTags members limit := by
  simp only [topTags, List.flatMap_map, Node.uncounted_tags]

theorem mainLanguage_uncounted (members : List Node) :
    mainLanguage (members.map Node.uncounted) = mainLanguage members := by
  simp only [mainLanguage, List.map_map, Function.comp_def, Node.uncounted_language]

theorem ofComponent_uncounted (found : Nat) (component : List String) :
    ofComponent nodes.uncounted edges found component = ofComponent nodes edges found component := by
  have members : component.filterMap nodes.uncounted.find?
      = (component.filterMap nodes.find?).map Node.uncounted := by
    rw [List.map_filterMap]
    exact congrArg (List.filterMap · component) (funext fun id => Catalog.find?_map Node.uncounted_id id)
  simp only [ofComponent, members, describe_uncounted, topTags_uncounted, mainLanguage_uncounted]

theorem placedElements_uncounted : placedElements nodes.uncounted = placedElements nodes := by
  simp only [placedElements, Nodes.uncounted, Catalog.toList_map, List.filterMap_map]
  refine congrArg (List.filterMap · nodes.toList) (funext fun n => ?_)
  by_cases kind : n.kind = .file
  · simp [kind]
  · simp [Node.uncounted_of_ne kind]

/-- **Neither strategy looks at the counts.** -/
theorem detect_uncounted (strategy : Strategy) :
    detect strategy nodes.uncounted edges = detect strategy nodes edges := by
  cases strategy with
  | connectivity =>
      have ids : nodes.uncounted.toList.map (·.id) = nodes.toList.map (·.id) := by
        simp [Nodes.uncounted, Function.comp_def]
      have community : ofComponent nodes.uncounted edges = ofComponent nodes edges :=
        funext fun found => funext fun component => ofComponent_uncounted nodes edges found component
      simp only [detect, connected, connectedComponents, ids, community]
  | directory => simp only [detect, directories, byDirectory, placedElements_uncounted]

end Community

theorem Builder.metadata_uncounted {α : Type} (s : BuildState α) (now : String) (skipped : Nat) :
    metadata s.uncounted now skipped = metadata s now skipped := by
  simp only [metadata, BuildState.nodesOf_uncounted, List.length_map]
  rfl

end CodeAtlas
