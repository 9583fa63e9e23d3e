import CodeAtlas.Proofs.Calls
import CodeAtlas.Proofs.FirstSeen
import CodeAtlas.Proofs.Keys

/-!
# The figures of a graph

The figures of a build are taken from several places: the catalogs of nodes and edges, the list of the placed
entities, and the number of the skipped sources.  `Builder.Accounts` says that they agree with one another all the
same, and with the sources: every figure is the number of some nodes or edges of the graph, a source is either
skipped or placed, and the placed entities are counted once for each id.

Languages need not be texts.  They are listed once for each key, so that every language of a retained entity is one
key with just one that is listed (`Json.sameKey`).
-/

namespace CodeAtlas

/-- The word that the parser has for what a node stands for. -/
def Node.parserWord? (n : Node) : Option String := (Members.get? n.properties "raw_element_type").bind Json.text?

/-- A source is either skipped or placed: the program counts the one and lists the other by the same test. -/
theorem skippedSources_add_length_placedEntities (workspace : Path) (sources : List Source) :
    skippedSources workspace sources + (placedEntities workspace sources).length = sources.length := by
  have split := List.length_eq_countP_add_countP (fun source => (source.placed? workspace).isNone) (l := sources)
  simp only [Bool.not_eq_true, Option.isNone_eq_false_iff, Bool.decide_eq_true] at split
  rw [skippedSources, placedEntities, List.length_filterMap_eq_countP, split]

/-- Of tags that are all given the first one of each key is kept. -/
theorem unique_of_truthy {items tags : List Json} (given : ∀ j ∈ items, j.truthy = true)
    (h : Tags.unique items = .ok tags) :
    (∀ j ∈ items, j.isKey = true) ∧ tags = distinctBy Json.sameKey items := by
  obtain ⟨keys, rfl⟩ := unique_eq_ok_iff.mp h
  exact ⟨keys, List.filter_eq_self.mpr fun j mem => given j (mem_of_mem_distinctBy mem)⟩

namespace Graph

variable {α : Type}

/-- The nodes of a kind. -/
def nodesOf (g : Graph α) (kind : NodeKind) : List Node := g.nodes.filter (·.kind == kind)

/-- The number of code elements for which the parser has a word. -/
def countOf (g : Graph α) (word : String) : Nat :=
  (g.nodesOf .codeElement).countP fun n => n.parserWord? == some word

end Graph

namespace Builder

variable {α : Type}

/-- The figures of a graph agree with the graph and with what it was built from.  The first three read a figure off
the graph, the next two off the sources, and the others say what is counted and listed of the entities in between. -/
structure Accounts (b : Builder α) (input : BuildInput) (g : Graph α) : Prop where
  /-- Files are counted by their nodes, -/
  files : g.metadata.totalFiles = (g.nodesOf .file).length
  /-- entities by the code elements, so that those with an id that is taken are left out, -/
  elements : g.metadata.totalEntities = (g.nodesOf .codeElement).length
  /-- and edges of all relations together. -/
  edges : g.metadata.totalRelationships = g.edges.length
  /-- The placed entities are counted once for each id. -/
  ids : g.metadata.totalEntities = ((placedEntities b.workspace input.sources).map (idOf b.workspace)).toFinset.card
  /-- A source is either skipped or placed. -/
  sources : g.metadata.skippedEntities + (placedEntities b.workspace input.sources).length = input.sources.length
  /-- Code elements are counted by the words of the parser. -/
  parsed : ∀ figure ∈ [("function", g.metadata.parsedFunctions), ("class", g.metadata.parsedClasses),
    ("variable", g.metadata.parsedVariables), ("component", g.metadata.parsedComponents)],
      figure.2 = g.countOf figure.1
  /-- Listed are languages that retained entities give, in order. -/
  listed : g.metadata.supportedLanguages.Sublist (((b.retained input).map (·.language)).filter Json.truthy)
  /-- No language is listed twice. -/
  apart : g.metadata.supportedLanguages.Pairwise fun j k => j.sameKey k = false
  /-- Every language that a retained entity gives is listed. -/
  languages : ∀ e ∈ b.retained input, e.language.truthy = true →
    ∃ j ∈ g.metadata.supportedLanguages, j.sameKey e.language = true

variable [Scalar α] {b : Builder α} {fs : FileSystem} {now : String} {input : BuildInput}
  {imports exports : FileMap} {s u : BuildState α} {g : Graph α}

/-- The graph has the nodes of the last state, kind by kind. -/
theorem Built.nodesOf (built : Built b fs now input imports exports s u g) (kind : NodeKind) :
    g.nodesOf kind = u.nodesOf kind := by
  rw [Graph.nodesOf, built.nodes]
  rfl

/-- The code elements of a graph are the nodes of the retained entities. -/
theorem Built.nodesOf_codeElement (built : Built b fs now input imports exports s u g) :
    g.nodesOf .codeElement = (b.retained input).map (entityNode (b.initialState imports exports)) := by
  rw [Graph.nodesOf, built.nodes_made]
  exact built.elements

/-- Edges leave the placed entities as they are. -/
theorem Built.placed_made (built : Built b fs now input imports exports s u g) :
    u.placed = (b.retained input).map fun e => ⟨e, idOf b.workspace e⟩ := by
  obtain ⟨new, adds⟩ := built.adds built.complete
  rw [adds.frame, ← built.placed]

omit [Scalar α] in
/-- There are as many retained entities as there are ids of placed ones. -/
theorem length_retained (b : Builder α) (input : BuildInput) : (b.retained input).length =
    ((placedEntities b.workspace input.sources).map (idOf b.workspace)).toFinset.card := by
  have ids : ((b.retained input).map (idOf b.workspace)).toFinset
      = ((placedEntities b.workspace input.sources).map (idOf b.workspace)).toFinset := by
    ext id
    simp only [List.mem_toFinset, List.mem_map]
    constructor
    · rintro ⟨e, mem, rfl⟩
      exact ⟨e, mem_of_mem_distinctBy mem, rfl⟩
    · rintro ⟨e, given, rfl⟩
      obtain ⟨d, kept, same⟩ := exists_same_of_mem (fun d e => idOf b.workspace d == idOf b.workspace e)
        (by simp) (by simp_all) given
      exact ⟨d, kept, by simpa using same⟩
  rw [← ids, List.toFinset_card_of_nodup (b.nodup_retained input), List.length_map]

/-- Entities are counted by the words that their nodes have from the parser. -/
theorem Built.countOf (built : Built b fs now input imports exports s u g) (word : String) :
    Builder.countOf u word = g.countOf word := by
  rw [Graph.countOf, built.nodesOf_codeElement, Builder.countOf, built.placed_made, List.countP_map, List.countP_map]
  rfl

/-- The languages of the placed entities, those that are given. -/
theorem Built.languages_made (built : Built b fs now input imports exports s u g) :
    (u.placed.map (·.entity.language)).filter Json.truthy
      = ((b.retained input).map (·.language)).filter Json.truthy := by
  rw [built.placed_made, List.map_map]
  rfl

/-- **The figures of a build agree with its graph and its sources.**  That the table of placed entities and the code
elements go together (`Built.nodesOf_codeElement`) is what ties the two ends: the figures are computed from the table,
and the graph shows the nodes. -/
theorem accounts_of_build (h : b.build fs now input = .ok g) : b.Accounts input g := by
  obtain ⟨imports, exports, s, u, built⟩ := build_eq_ok_iff.mp h
  obtain ⟨languages, unique, figures⟩ := map_eq_ok_iff.mp built.metadata
  rw [built.languages_made] at unique
  obtain ⟨keys, kept⟩ := unique_of_truthy (fun j mem => (List.mem_filter.mp mem).2) unique
  have placed : u.placed.length = (b.retained input).length := by rw [built.placed_made, List.length_map]
  constructor
  case files => rw [← figures, built.nodesOf]
  case elements => rw [← figures, built.nodesOf_codeElement, List.length_map, ← placed]
  case edges => rw [← figures, built.edges]; rfl
  case ids => rw [← figures, ← b.length_retained, ← placed]
  case sources => rw [← figures, skippedSources_add_length_placedEntities]
  case parsed => simp [← figures, built.countOf]
  case listed => rw [← figures, kept]; exact distinctBy_sublist _ _
  case apart => rw [← figures, kept]; exact pairwise_distinctBy _ _
  case languages =>
    intro e mem given
    rw [← figures, kept]
    exact exists_same_of_mem _ (fun j mem => Json.sameKey_self (keys j mem)) Json.sameKey_trans
      (List.mem_filter.mpr ⟨List.mem_map_of_mem mem, given⟩)

/-- A function that is given twice, a record that is refused, and two functions whose languages are one number. -/
def mixedInput : BuildInput where
  sources := [sampleRecord "a.ts" "f" (.str "typescript"), sampleRecord "a.ts" "f" (.str "typescript"), .null,
    sampleRecord "b.ts" "g" (.int 1), sampleRecord "b.ts" "h" (.bool true)].map .record

/-- Two files and three elements; the refused record is the one that is skipped, and one number is one language. -/
theorem accounts_of_mixed_input :
    ∃ g, (sample Rat .connectivity).build sampleFiles "" mixedInput = .ok g ∧
      (sample Rat .connectivity).Accounts mixedInput g ∧ g.metadata.totalFiles = 2 ∧
      g.metadata.totalEntities = 3 ∧ g.metadata.skippedEntities = 1 ∧
      g.metadata.supportedLanguages.length = 2 := by
  have finishes : ((sample Rat .connectivity).build sampleFiles "" mixedInput).toOption.any (fun g =>
      g.metadata.totalFiles == 2 && g.metadata.totalEntities == 3 && g.metadata.skippedEntities == 1 &&
        g.metadata.supportedLanguages.length == 2) = true := by
    decide +kernel
  obtain ⟨g, h, figures⟩ := exists_ok_of_any_toOption finishes
  simp only [Bool.and_eq_true, beq_iff_eq] at figures
  obtain ⟨⟨⟨files, elements⟩, skipped⟩, languages⟩ := figures
  exact ⟨g, h, accounts_of_build h, files, elements, skipped, languages⟩

end Builder

end CodeAtlas
