import CodeAtlas.Proofs.Calls
import CodeAtlas.Proofs.FirstSeen
import CodeAtlas.Proofs.Imports
import CodeAtlas.Proofs.Isolation
import Mathlib.Data.List.Nodup
import Mathlib.Data.List.Perm.Subperm
import Mathlib.Data.List.ProdSigma

/-!
# Which similar entities a graph relates

Entities are compared pair by pair, under one rule in a file and under another one across files.  Two entities of
one file are related when they share tags and are of one kind or of one framework (`Builder.SimilarWithin`).  Two
entities of two files are related when both files take part in imports, in whatever direction and with whatever
other file (`Builder.SimilarAcross`).  In both cases the score has to be above a threshold, and to pass the filter
for weights.

`Builder.similarity_exact` says that the edges of a graph are these pairs and no others, as long as there are no
more pairs across files than the limit allows.  An edge leads from the entity that comes first in its file to the
later one, and from the file that was seen first to the other one, whatever the order of the entities is.

Pairs of a list are sublists of length two (`BuildState.mem_pairs`), so that pairs of parts of a list are pairs of
the list, and pairs of its distinct members are told from the fronts in which they are seen (`SeenBefore`).
-/

namespace CodeAtlas

variable {β γ : Type}

/-- There are no more than `limit` things with a property. -/
def AtMost (limit : Int) (p : β → Prop) : Prop :=
  ∀ xs : List β, xs.Nodup → (∀ x ∈ xs, p x) → (xs.length : Int) ≤ limit

/-- Things that are turned into different things with a property are no more than these.  A list of them is turned
into a list of those without repetition, of the same length. -/
theorem AtMost.of_injective {γ : Type} {limit : Int} {p : β → Prop} {q : γ → Prop} (h : AtMost limit q)
    (f : β → γ) (maps : ∀ x, p x → q (f x)) (injective : ∀ x y, p x → p y → f x = f y → x = y) :
    AtMost limit p := by
  intro xs nodup all
  have apart : (xs.map f).Nodup := nodup.map_on fun x hx y hy => injective x y (all x hx) (all y hy)
  have found : ∀ y ∈ xs.map f, q y := List.forall_mem_map.mpr fun x mem => maps x (all x mem)
  simpa using h _ apart found

theorem AtMost.mono {limit : Int} {p q : β → Prop} (h : AtMost limit q) (sub : ∀ x, p x → q x) :
    AtMost limit p :=
  h.of_injective id sub fun _ _ _ _ eq => eq

namespace BuildState

/-! ## Pairs of a list -/

/-- A pair of a list is a sublist of two members, the one in front first. -/
theorem mem_pairs {xs : List β} {a b : β} : (a, b) ∈ pairs xs ↔ [a, b].Sublist xs := by
  induction xs with
  | nil => simp [pairs]
  | cons x xs ih =>
      rw [pairs, List.mem_append, ih, List.sublist_cons_iff, Or.comm]
      refine or_congr Iff.rfl ?_
      simp only [List.mem_map, Prod.mk.injEq, List.cons.injEq]
      constructor
      · rintro ⟨y, mem, rfl, rfl⟩
        exact ⟨[y], ⟨rfl, rfl⟩, List.singleton_sublist.mpr mem⟩
      · rintro ⟨rest, ⟨rfl, rfl⟩, sub⟩
        exact ⟨b, List.singleton_sublist.mp sub, rfl, rfl⟩

theorem pairs_map (f : β → γ) (xs : List β) : pairs (xs.map f) = (pairs xs).map (Prod.map f f) := by
  induction xs with
  | nil => rfl
  | cons x xs ih =>
      rw [List.map_cons, pairs, pairs, ih, List.map_append, List.map_map, List.map_map]
      rfl

/-- A list without repetition has no pair twice: two pairs with one first member differ in the second one, and the
first member of a pair is not among those of the pairs behind. -/
theorem nodup_pairs {xs : List β} (nodup : xs.Nodup) : (pairs xs).Nodup := by
  induction xs with
  | nil => exact List.nodup_nil
  | cons x xs ih =>
      obtain ⟨new, rest⟩ := List.nodup_cons.mp nodup
      rw [pairs, List.nodup_append']
      refine ⟨rest.map fun _ _ eq => (Prod.mk.inj eq).2, ih rest, ?_⟩
      rintro ⟨a, b⟩ first later
      obtain ⟨y, -, eq⟩ := List.mem_map.mp first
      obtain ⟨rfl, -⟩ := Prod.mk.inj eq
      exact new ((mem_pairs.mp later).subset List.mem_cons_self)

/-! ## Entities that are compared -/

/-- Of a list without repetition two members differ as soon as there are two. -/
theorem two_le_length_iff {xs : List β} (nodup : xs.Nodup) :
    2 ≤ xs.length ↔ ∃ x ∈ xs, ∃ y ∈ xs, x ≠ y := by
  match xs, nodup with
  | [], _ => simp
  | [x], _ => simp
  | x :: y :: rest, nodup =>
      have ne : x ≠ y := fun eq => (List.nodup_cons.mp nodup).1 (eq ▸ List.mem_cons_self)
      exact ⟨fun _ => ⟨x, by simp, y, by simp, ne⟩, fun _ => by simp⟩

/-- **What is compared in a file** shares two tags, and a type or a framework.  The program counts the tags in common,
each of which is listed once, so that two in the list are two different ones. -/
theorem comparable_iff {c d : Entity} :
    comparable c d = true ↔
      (∃ x y, x ≠ y ∧ (x ∈ c.tags ∧ x ∈ d.tags) ∧ y ∈ c.tags ∧ y ∈ d.tags) ∧
        (c.elementType = d.elementType ∨ ∃ tag ∈ frameworkTags, tag ∈ c.tags ∧ tag ∈ d.tags) := by
  have mem_common : ∀ x, x ∈ Similarity.commonTags c.tags d.tags ↔ x ∈ c.tags ∧ x ∈ d.tags := by
    intro x
    rw [Similarity.commonTags, List.mem_filter, mem_distinct, List.contains_iff_mem, and_comm]
  have nodup : (Similarity.commonTags c.tags d.tags).Nodup := (nodup_distinct _).filter _
  simp only [comparable, Bool.and_eq_true, Bool.or_eq_true, decide_eq_true_eq, beq_iff_eq,
    List.any_eq_true, List.contains_iff_mem, two_le_length_iff nodup, mem_common]
  refine and_congr_left fun _ => ?_
  constructor
  · rintro ⟨x, hx, y, hy, ne⟩
    exact ⟨x, y, ne, hx, hy⟩
  · rintro ⟨x, y, ne, hx, hy⟩
    exact ⟨x, hx, y, hy, ne⟩

variable {α : Type} {s : BuildState α} {p q : Placed}

/-- **The pairs within files** are the pairs of placed entities with one path. -/
theorem mem_sameFilePairs :
    (p, q) ∈ s.placedByFile.flatMap (fun g => pairs g.2) ↔
      [p, q].Sublist s.placed ∧ p.entity.filePath = q.entity.filePath := by
  simp only [placedByFile, List.mem_flatMap, List.mem_map, mem_distinct, exists_exists_and_eq_and,
    mem_pairs, pair_sublist_filter_iff, beq_iff_eq]
  constructor
  · rintro ⟨r, -, sub, hp, hq⟩
    exact ⟨sub, hp.trans hq.symm⟩
  · rintro ⟨sub, same⟩
    exact ⟨p, sub.subset List.mem_cons_self, sub, rfl, same.symm⟩

/-- The ids that take part in imports are the ends of the edges for imports. -/
theorem mem_importLinked {id : String} :
    id ∈ s.importLinked ↔ ∃ i ∈ s.edgesOf .imports, i.source = id ∨ i.target = id := by
  rw [importLinked, List.mem_flatMap]
  refine exists_congr fun i => and_congr_right fun _ => ?_
  rw [List.mem_pair, eq_comm, @eq_comm _ id]

/-- The files that take part in imports, in first-seen order, with their entities. -/
theorem linkedFiles_eq (s : BuildState α) :
    s.placedByFile.filter (fun g => s.isLinked g.1)
      = ((distinct (s.placed.map (·.entity.filePath))).filter s.isLinked).map fun path =>
          (path, s.placed.filter (·.entity.filePath == path)) := by
  rw [placedByFile, List.filter_map]
  rfl

/-- **The pairs across files** are the pairs of placed entities of linked files, the one of the file that was seen
first in front.  The files are grouped before they are filtered, so that the order between two of them is that in
which their first entities came, whether or not what stands between them is linked. -/
theorem mem_crossFilePairs :
    (p, q) ∈ s.crossFilePairs ↔ p ∈ s.placed ∧ q ∈ s.placed ∧
      s.isLinked p.entity.filePath = true ∧ s.isLinked q.entity.filePath = true ∧
        SeenBefore (s.placed.map (·.entity.filePath)) p.entity.filePath q.entity.filePath := by
  rw [crossFilePairs, linkedFiles_eq, pairs_map]
  simp only [List.mem_flatMap, List.mem_map, Prod.exists, Prod.map_apply, Prod.mk.injEq, mem_pairs,
    pair_sublist_filter_iff, pair_sublist_distinct_iff]
  constructor
  · rintro ⟨-, -, -, -, ⟨f, g, ⟨⟨seen, -⟩, hf, hg⟩, ⟨rfl, rfl⟩, rfl, rfl⟩, p', hp, q', hq, rfl, rfl⟩
    rw [List.mem_filter, beq_iff_eq] at hp hq
    obtain ⟨hp, rfl⟩ := hp
    obtain ⟨hq, rfl⟩ := hq
    exact ⟨hp, hq, hf, hg, seen⟩
  · rintro ⟨hp, hq, hf, hg, seen⟩
    exact ⟨_, _, _, _, ⟨_, _, ⟨⟨seen, q, hq, rfl⟩, hf, hg⟩, ⟨rfl, rfl⟩, rfl, rfl⟩,
      p, by simpa using hp, q, by simpa using hq, rfl, rfl⟩

/-- **No pair is met twice.**  Two pairs of files have no pair of entities in common, because the entities tell their
files; and the pairs of two files are a product of lists without repetition. -/
theorem nodup_crossFilePairs (nodup : s.placed.Nodup) : s.crossFilePairs.Nodup := by
  rw [crossFilePairs, linkedFiles_eq, pairs_map, List.flatMap_map, List.nodup_flatMap]
  have files := nodup_pairs ((nodup_distinct (s.placed.map (·.entity.filePath))).filter s.isLinked)
  -- A pair tells the two files that it was met in.
  have files_of : ∀ (f g : String) (pair : Placed × Placed),
      pair ∈ ((s.placed.filter (·.entity.filePath == f)).flatMap fun p =>
        (s.placed.filter (·.entity.filePath == g)).map fun q => (p, q)) →
      (pair.1.entity.filePath, pair.2.entity.filePath) = (f, g) := by
    rintro f g ⟨p, q⟩ mem
    obtain ⟨hp, hq⟩ := List.pair_mem_product.mp mem
    simp only [List.mem_filter, beq_iff_eq] at hp hq
    rw [hp.2, hq.2]
  refine ⟨fun _ _ => (nodup.filter _).product (nodup.filter _), files.imp fun ne pair here there => ?_⟩
  exact ne ((files_of _ _ pair here).symm.trans (files_of _ _ pair there))

variable [Scalar α] {around : Surroundings α}

/-- **The limit has no effect** on no more pairs than it allows.  The run counts edges that are accepted, which are
among the proposals that pass the filters. -/
theorem relateCrossFile_eq
    (few : ((s.crossFilePairs.filter fun pair =>
      (s.crossFileProposal around pair).any around.filters.passes).length : Int)
        ≤ around.filters.maxCrossFileRelations) :
    s.relateCrossFile around
      = (s.crossFilePairs.filterMap (s.crossFileProposal around)).foldl (offer around.filters) (s, 0) :=
  foldl_offerUpTo_eq _ _ _ _ _ (by simpa using few)

end BuildState

namespace Builder

/-! ## What a build compares -/

variable {α : Type}

/-- An entity with the id of its node. -/
def place (b : Builder α) (e : Entity) : Placed := ⟨e, idOf b.workspace e⟩

/-- The file of an entity is at one end of some of the imports. -/
def TakesPart (b : Builder α) (imports : List (Edge α)) (e : Entity) : Prop :=
  ∃ i ∈ imports, i.source = fileIdOf b.workspace (b.workspace.absolute e.filePath) ∨
    i.target = fileIdOf b.workspace (b.workspace.absolute e.filePath)

/-- Retained entities are told apart by their ids. -/
theorem idOf_ne_of_mem_retained {b : Builder α} {input : BuildInput} {c d : Entity}
    (hc : c ∈ b.retained input) (hd : d ∈ b.retained input) (ne : c ≠ d) :
    idOf b.workspace c ≠ idOf b.workspace d :=
  fun eq => ne (List.inj_on_of_nodup_map (b.nodup_retained input) hc hd eq)

variable [Scalar α]

/-- The score of two entities. -/
def score (b : Builder α) (fs : FileSystem) (c d : Entity) : α :=
  (BuildState.traits fs.cwd b.workspace c).similarity (BuildState.traits fs.cwd b.workspace d)

/-- Two entities of one file are to be related, the second of which comes later. -/
structure SimilarWithin (b : Builder α) (fs : FileSystem) (input : BuildInput) (c d : Entity) :
    Prop where
  /-- The first one comes in front of the second one among the retained entities. -/
  order : [c, d].Sublist (b.retained input)
  /-- They stand under one path, as it was given. -/
  file : c.filePath = d.filePath
  /-- They have two tags in common, or more, -/
  tags : ∃ x y, x ≠ y ∧ (x ∈ c.tags ∧ x ∈ d.tags) ∧ y ∈ c.tags ∧ y ∈ d.tags
  /-- and are of one kind, or share the tag of a framework. -/
  kind : c.elementType = d.elementType ∨
    ∃ tag ∈ BuildState.frameworkTags, tag ∈ c.tags ∧ tag ∈ d.tags
  /-- Not at most the threshold, which is to say above it unless one of them is no number. -/
  above : Scalar.le (b.score fs c d) b.filters.sameFileThreshold = false
  /-- The edge is not too light for the filters. -/
  weight : Scalar.lt (Scalar.clamp (b.score fs c d)) b.filters.minRelationWeight = false

/-- Two entities of two files are to be related, the file of the second of which was seen later. -/
structure SimilarAcross (b : Builder α) (fs : FileSystem) (input : BuildInput)
    (imports : List (Edge α)) (c d : Entity) : Prop where
  /-- Both are retained. -/
  source : c ∈ b.retained input
  target : d ∈ b.retained input
  /-- The file of the first one was seen first, wherever the two entities stand themselves. -/
  order : SeenBefore ((b.retained input).map (·.filePath)) c.filePath d.filePath
  /-- Both files take part in imports, not necessarily in the same one. -/
  linked : b.TakesPart imports c ∧ b.TakesPart imports d
  /-- The score is above the threshold for pairs across files, -/
  above : Scalar.lt b.filters.crossFileThreshold (b.score fs c d) = true
  /-- and the edge is not too light for the filters. -/
  weight : Scalar.lt (Scalar.clamp (b.score fs c d)) b.filters.minRelationWeight = false

/-- Both of two entities that are to be related are retained. -/
theorem mem_retained_of_similar {b : Builder α} {fs : FileSystem} {input : BuildInput} {imports : List (Edge α)}
    {c d : Entity} (similar : b.SimilarWithin fs input c d ∨ b.SimilarAcross fs input imports c d) :
    c ∈ b.retained input ∧ d ∈ b.retained input := by
  rcases similar with within | across
  · exact ⟨within.order.subset (by simp), within.order.subset (by simp)⟩
  · exact ⟨across.source, across.target⟩

/-- No more pairs are to be related across files than the limit allows. -/
def FewAcross (b : Builder α) (fs : FileSystem) (input : BuildInput) (imports : List (Edge α)) : Prop :=
  AtMost b.filters.maxCrossFileRelations fun pair : Entity × Entity =>
    b.SimilarAcross fs input imports pair.1 pair.2

/-- The edge of two entities that are to be related. -/
def similarEdge (b : Builder α) (fs : FileSystem) (c d : Entity) (crossFile : Bool) : Edge α :=
  BuildState.similarEdge (b.place c) (b.place d) (b.score fs c d) crossFile

variable {b : Builder α} {fs : FileSystem} {now : String} {input : BuildInput}
  {imports exports : FileMap} {s t u v : BuildState α} {g : Graph α}

theorem passes_similarEdge_iff {c d : Entity} {crossFile : Bool} :
    b.filters.passes (b.similarEdge fs c d crossFile) = true ↔
      Scalar.lt (Scalar.clamp (b.score fs c d)) b.filters.minRelationWeight = false :=
  Iff.of_eq (Bool.not_eq_true' _)

theorem id_similarEdge {c d : Entity} {crossFile : Bool} : (b.similarEdge fs c d crossFile).id
    = Edge.idOf (idOf b.workspace c) (idOf b.workspace d) .relatedTo := rfl

/-- What entities are compared in is a state with the nodes and tables of the first one, and with the imports of
the last one. -/
structure Comparing (s u v : BuildState α) : Prop where
  /-- Nothing but edges has changed since the first one, -/
  frame : v = { s with edges := v.edges }
  /-- and the imports are those of the end. -/
  imports : v.edgesOf .imports = u.edgesOf .imports

namespace Built

/-- The entities that are compared are the retained ones, each with the id of its node. -/
theorem placed_eq (built : Built b fs now input imports exports s u g)
    (comparing : Comparing s u v) : v.placed = (b.retained input).map b.place := by
  rw [comparing.frame]
  exact built.placed

/-- None of them is compared twice. -/
theorem nodup_placed (built : Built b fs now input imports exports s u g)
    (comparing : Comparing s u v) : v.placed.Nodup := by
  rw [built.placed_eq comparing]
  exact (List.Nodup.of_map _ (b.nodup_retained input)).map fun _ _ eq => congrArg Placed.entity eq

/-- The score of two of them is the one that the statement speaks of, since the workspace is that of the builder. -/
theorem score_place (built : Built b fs now input imports exports s u g)
    (comparing : Comparing s u v) (around : Surroundings α) (c d : Entity) :
    v.score around (b.place c) (b.place d) = b.score around.fs c d := by
  have workspace : v.workspace = b.workspace := by
    rw [comparing.frame]
    exact built.grown.workspace
  rw [BuildState.score, workspace]
  rfl

/-- The files that take part in imports are found by the ids of their nodes.  The file of a retained entity is among
the placed ones, and is looked up by its path to the id that its path spells. -/
theorem isLinked_iff (built : Built b fs now input imports exports s u g)
    (comparing : Comparing s u v) (absolute : b.workspace.isAbsolute = true) {e : Entity}
    (mem : e ∈ b.retained input) :
    v.isLinked e.filePath = true ↔ b.TakesPart (u.edgesOf .imports) e := by
  have found : v.fileId? e.filePath
      = some (fileIdOf b.workspace (b.workspace.absolute e.filePath)) := by
    have workspace : s.workspace = b.workspace := built.grown.workspace
    rw [comparing.frame, BuildState.fileId?, BuildState.absolutePath]
    dsimp only
    rw [workspace]
    exact (built.populated absolute).lookup_fileIds (plain_of_mem_placedEntities absolute)
      (mem_of_mem_distinctBy mem)
  rw [BuildState.isLinked, found, TakesPart, ← comparing.imports, ← BuildState.mem_importLinked]
  exact List.contains_iff_mem

/-- **What is offered within files and passes** are the edges of the pairs of `SimilarWithin`.  Each condition of the
program is one of the statement, except for the one that the two nodes differ: an entity does not come behind itself
in a list without repetition, and different retained entities have different ids. -/
theorem offered_within_iff (built : Built b fs now input imports exports s u g)
    (comparing : Comparing s u v) {e : Edge α} :
    (e ∈ v.sameFileProposals ⟨fs, b.filters, b.extensions⟩ ∧ b.filters.passes e = true) ↔
      ∃ c d, b.SimilarWithin fs input c d ∧ b.similarEdge fs c d false = e := by
  simp only [BuildState.sameFileProposals, List.mem_filterMap, Prod.exists,
    BuildState.mem_sameFilePairs, built.placed_eq comparing, pair_sublist_map_iff]
  constructor
  · rintro ⟨⟨-, -, ⟨⟨c, d, order, rfl, rfl⟩, file⟩, proposed⟩, passes⟩
    obtain ⟨⟨compared, above, -⟩, rfl⟩ := BuildState.sameFileProposal_eq_some_iff.mp proposed
    rw [built.score_place comparing] at above passes ⊢
    obtain ⟨tags, kind⟩ := BuildState.comparable_iff.mp compared
    exact ⟨c, d, ⟨order, file, tags, kind, above, passes_similarEdge_iff.mp passes⟩, rfl⟩
  · rintro ⟨c, d, within, rfl⟩
    have ne : c ≠ d := by
      rintro rfl
      have nodup := (List.Nodup.of_map _ (b.nodup_retained input)).sublist within.order
      exact List.not_nodup_pair c nodup
    have apart : idOf b.workspace c ≠ idOf b.workspace d :=
      idOf_ne_of_mem_retained (within.order.subset (by simp)) (within.order.subset (by simp)) ne
    refine ⟨⟨_, _, ⟨⟨c, d, within.order, rfl, rfl⟩, within.file⟩, ?_⟩,
      passes_similarEdge_iff.mpr within.weight⟩
    rw [BuildState.sameFileProposal_eq_some_iff, built.score_place comparing]
    exact ⟨⟨BuildState.comparable_iff.mpr ⟨within.tags, within.kind⟩, within.above, apart⟩, rfl⟩

/-- **What is offered across files and passes** are the edges of the pairs of `SimilarAcross`.  Here the two nodes
differ because the file of the second entity is first seen behind that of the first one. -/
theorem offered_across_iff (built : Built b fs now input imports exports s u g)
    (comparing : Comparing s u v) (absolute : b.workspace.isAbsolute = true) {p q : Placed}
    {e : Edge α} :
    ((p, q) ∈ v.crossFilePairs ∧
      v.crossFileProposal ⟨fs, b.filters, b.extensions⟩ (p, q) = some e ∧
        b.filters.passes e = true) ↔
      ∃ c d, b.SimilarAcross fs input (u.edgesOf .imports) c d ∧ b.place c = p ∧ b.place d = q ∧
        b.similarEdge fs c d true = e := by
  have paths : v.placed.map (·.entity.filePath) = (b.retained input).map (·.filePath) := by
    rw [built.placed_eq comparing, List.map_map]
    rfl
  rw [BuildState.mem_crossFilePairs, paths, built.placed_eq comparing,
    BuildState.crossFileProposal_eq_some_iff]
  constructor
  · rintro ⟨⟨hp, hq, linked, linked', order⟩, ⟨⟨above, -⟩, rfl⟩, passes⟩
    obtain ⟨c, hc, rfl⟩ := List.mem_map.mp hp
    obtain ⟨d, hd, rfl⟩ := List.mem_map.mp hq
    rw [built.score_place comparing] at above passes ⊢
    exact ⟨c, d, ⟨hc, hd, order, ⟨(built.isLinked_iff comparing absolute hc).mp linked,
      (built.isLinked_iff comparing absolute hd).mp linked'⟩, above, passes_similarEdge_iff.mp passes⟩,
      rfl, rfl, rfl⟩
  · rintro ⟨c, d, across, rfl, rfl, rfl⟩
    obtain ⟨hc, hd, order, ⟨linked, linked'⟩, above, weight⟩ := across
    have ne : c ≠ d := by
      rintro rfl
      obtain ⟨front, -, seen, new⟩ := order
      exact new seen
    rw [built.score_place comparing]
    exact ⟨⟨List.mem_map_of_mem hc, List.mem_map_of_mem hd,
      (built.isLinked_iff comparing absolute hc).mpr linked,
      (built.isLinked_iff comparing absolute hd).mpr linked', order⟩,
      ⟨⟨above, idOf_ne_of_mem_retained hc hd ne⟩, rfl⟩, passes_similarEdge_iff.mpr weight⟩

/-- No more pairs pass across files than the limit allows.  The pairs that pass are pairs of `SimilarAcross`, and two
of them are not one pair of entities, so that what the limit is said to allow bounds the list that the run goes
through. -/
theorem across_le (built : Built b fs now input imports exports s u g)
    (comparing : Comparing s u v) (absolute : b.workspace.isAbsolute = true)
    (few : b.FewAcross fs input (u.edgesOf .imports)) :
    ((v.crossFilePairs.filter fun pair => (v.crossFileProposal ⟨fs, b.filters, b.extensions⟩ pair).any
      b.filters.passes).length : Int) ≤ b.filters.maxCrossFileRelations := by
  set passing := v.crossFilePairs.filter fun pair =>
    (v.crossFileProposal ⟨fs, b.filters, b.extensions⟩ pair).any b.filters.passes
  have across : ∀ pair ∈ passing, ∃ c d,
      b.SimilarAcross fs input (u.edgesOf .imports) c d ∧ (b.place c, b.place d) = pair := by
    rintro ⟨p, q⟩ mem
    obtain ⟨met, passes⟩ := List.mem_filter.mp mem
    obtain ⟨e, proposed, passes⟩ := (Option.any_eq_true _ _).mp passes
    obtain ⟨c, d, similar, rfl, rfl, -⟩ :=
      (built.offered_across_iff comparing absolute).mp ⟨met, proposed, passes⟩
    exact ⟨c, d, similar, rfl⟩
  have nodup : passing.Nodup := (BuildState.nodup_crossFilePairs (built.nodup_placed comparing)).filter _
  have bound := few (passing.map fun pair => (pair.1.entity, pair.2.entity))
  rw [List.length_map] at bound
  apply bound
  · refine nodup.map_on ?_
    intro pair mem pair' mem' eq
    obtain ⟨c, d, -, rfl⟩ := across pair mem
    obtain ⟨c', d', -, rfl⟩ := across pair' mem'
    obtain ⟨rfl, rfl⟩ := Prod.mk.inj eq
    rfl
  · intro pair mem
    obtain ⟨placed, met, rfl⟩ := List.mem_map.mp mem
    obtain ⟨c, d, similar, rfl⟩ := across placed met
    exact similar

end Built

/-! ## The edges of a build -/

/-- What is left of a run at the step for similarity: the pairs within files are offered in the state `t`, and those
across files in the state that this has led to, all of them.

Both states are states to compare in, since neither the steps before nor the offers within files touch nodes, tables
or imports; and with no more pairs than the limit allows, the run with a limit is the one without. -/
theorem Built.exists_comparing (built : Built b fs now input imports exports s u g)
    (absolute : b.workspace.isAbsolute = true)
    (stage : BuildState.Stage ⟨fs, b.filters, b.extensions⟩ .relatedTo s t u)
    (few : b.FewAcross fs input (u.edgesOf .imports)) :
    ∃ v, Comparing s u t ∧ Comparing s u v ∧
      v = ((t.sameFileProposals ⟨fs, b.filters, b.extensions⟩).foldl
        (BuildState.offer b.filters) (t, 0)).1 ∧
      u.edgesOf .relatedTo = ((v.crossFilePairs.filterMap
        (v.crossFileProposal ⟨fs, b.filters, b.extensions⟩)).foldl
          (BuildState.offer b.filters) (v, 0)).1.edgesOf .relatedTo := by
  set around : Surroundings α := ⟨fs, b.filters, b.extensions⟩
  obtain ⟨new, adds, -⟩ := BuildState.offered_relateSameFile around t
  have first : Comparing s u t := ⟨stage.frame, stage.earlier _ (by decide)⟩
  have second : Comparing s u (t.relateSameFile around).1 := by
    refine ⟨?_, ?_⟩
    · rw [adds.frame, stage.frame]
    · rw [BuildState.imports_relateSameFile, first.imports]
  refine ⟨_, first, second, rfl, ?_⟩
  have within := built.across_le second absolute few
  rw [stage.after, BuildState.relate, BuildState.relateSimilar_eq]
  dsimp only
  rw [BuildState.relateCrossFile_eq within]

/-- **Every edge is a pair that is to be related.**  An edge for similarity at the end has been there before the step,
which none has, or has been offered in one of its two halves. -/
theorem Built.similar_of_mem (built : Built b fs now input imports exports s u g)
    (absolute : b.workspace.isAbsolute = true)
    (stage : BuildState.Stage ⟨fs, b.filters, b.extensions⟩ .relatedTo s t u)
    (few : b.FewAcross fs input (u.edgesOf .imports)) {e : Edge α}
    (mem : e ∈ u.edgesOf .relatedTo) :
    (∃ c d, b.SimilarWithin fs input c d ∧ b.similarEdge fs c d false = e) ∨
      ∃ c d, b.SimilarAcross fs input (u.edgesOf .imports) c d ∧ b.similarEdge fs c d true = e := by
  obtain ⟨v, first, second, left, after⟩ := built.exists_comparing absolute stage few
  rw [after] at mem
  obtain ⟨mem, relation⟩ := BuildState.mem_edgesOf.mp mem
  rcases BuildState.mem_edges_foldl_offer mem with earlier | ⟨offered, passes⟩
  · rw [left] at earlier
    rcases BuildState.mem_edges_foldl_offer earlier with old | ⟨offered, passes⟩
    · -- Nothing was related before this step.
      have none : t.edgesOf .relatedTo = [] := by rw [stage.before, built.edgesOf_eq_nil]
      have there := BuildState.mem_edgesOf.mpr ⟨old, relation⟩
      rw [none] at there
      cases there
    · exact Or.inl ((built.offered_within_iff first).mp ⟨offered, passes⟩)
  · obtain ⟨⟨p, q⟩, met, proposed⟩ := List.mem_filterMap.mp offered
    obtain ⟨c, d, across, -, -, eq⟩ :=
      (built.offered_across_iff second absolute).mp ⟨met, proposed, passes⟩
    exact Or.inr ⟨c, d, across, eq⟩

/-- **Every pair that is to be related is an edge.**  Its edge is offered in one of the two halves, and passes; both
its ends are nodes, so that it is accepted or an edge with its id is there already, and what is there stays. -/
theorem Built.exists_similar (built : Built b fs now input imports exports s u g)
    (absolute : b.workspace.isAbsolute = true)
    (stage : BuildState.Stage ⟨fs, b.filters, b.extensions⟩ .relatedTo s t u)
    (few : b.FewAcross fs input (u.edgesOf .imports)) {c d : Entity}
    (similar : b.SimilarWithin fs input c d ∨ b.SimilarAcross fs input (u.edgesOf .imports) c d) :
    ∃ e ∈ u.edgesOf .relatedTo,
      e.id = Edge.idOf (idOf b.workspace c) (idOf b.workspace d) .relatedTo := by
  obtain ⟨v, first, second, left, after⟩ := built.exists_comparing absolute stage few
  have nodes : t.nodes = s.nodes ∧ v.nodes = s.nodes := by
    rw [first.frame, second.frame]
    exact ⟨rfl, rfl⟩
  have retained := mem_retained_of_similar similar
  have source := built.contains_idOf retained.1
  have target := built.contains_idOf retained.2
  have taken : ((v.crossFilePairs.filterMap
      (v.crossFileProposal ⟨fs, b.filters, b.extensions⟩)).foldl
        (BuildState.offer b.filters) (v, 0)).1.edges.contains (b.similarEdge fs c d true).id = true := by
    rcases similar with within | across
    · obtain ⟨offered, passes⟩ := (built.offered_within_iff first).mpr ⟨c, d, within, rfl⟩
      have there := BuildState.contains_foldl_offer b.filters (t, 0) offered passes
        (by rw [nodes.1]; exact source) (by rw [nodes.1]; exact target)
      rw [← left] at there
      -- What is there stays when the pairs across files are offered.
      obtain ⟨-, ⟨new, adds, -⟩, -⟩ := BuildState.offered_foldl_offer b.filters
        (v.crossFilePairs.filterMap (v.crossFileProposal ⟨fs, b.filters, b.extensions⟩)) (v, 0)
      exact adds.contains there
    · obtain ⟨met, proposed, passes⟩ := (built.offered_across_iff second absolute).mpr
        ⟨c, d, across, rfl, rfl, rfl⟩
      exact BuildState.contains_foldl_offer b.filters (v, 0)
        (List.mem_filterMap.mpr ⟨_, met, proposed⟩) passes
        (by rw [nodes.2]; exact source) (by rw [nodes.2]; exact target)
  obtain ⟨e, mem, id⟩ := BuildState.contains_iff_edgesOf.mp taken
  exact ⟨e, by rwa [after], id⟩

/-- The edges between similar entities are those that are to be related. -/
structure ExactSimilarity (b : Builder α) (fs : FileSystem) (input : BuildInput) (g : Graph α) :
    Prop where
  /-- There is an edge for each pair that is to be related, and for no other one. -/
  ids : ∀ id, id ∈ (g.edgesOf .relatedTo).map Edge.id ↔ ∃ c d,
    (b.SimilarWithin fs input c d ∨ b.SimilarAcross fs input (g.edgesOf .imports) c d) ∧
      id = Edge.idOf (idOf b.workspace c) (idOf b.workspace d) .relatedTo
  /-- Without imports there is no edge across files. -/
  alone : g.edgesOf .imports = [] → ∀ e ∈ g.edgesOf .relatedTo, e.isWithinFile = true

/-- **The similar entities of a graph are exactly those that the thresholds tell of.**

Both directions speak of the state at the end of the step for similarity, whose edges are those of the graph: one goes
back from an edge to the offer it comes from (`Built.similar_of_mem`), the other forward from a pair to the offer it
makes (`Built.exists_similar`). -/
theorem similarity_exact (absolute : b.workspace.isAbsolute = true)
    (enabled : b.filters.enableSemanticRelated = true) (h : b.build fs now input = .ok g)
    (few : b.FewAcross fs input (g.edgesOf .imports)) :
    ExactSimilarity b fs input g := by
  obtain ⟨imports, exports, s, u, built⟩ := build_eq_ok_iff.mp h
  have enables : b.filters.enables .relatedTo = true := enabled
  obtain ⟨t, stage⟩ := built.exists_stage enables
  rw [built.edgesOf] at few
  refine ⟨?_, ?_⟩
  · intro id
    rw [built.edgesOf, built.edgesOf, List.mem_map]
    constructor
    · rintro ⟨e, mem, rfl⟩
      rcases built.similar_of_mem absolute stage few mem with ⟨c, d, within, rfl⟩ | ⟨c, d, across, rfl⟩
      · exact ⟨c, d, Or.inl within, id_similarEdge⟩
      · exact ⟨c, d, Or.inr across, id_similarEdge⟩
    · rintro ⟨c, d, similar, rfl⟩
      exact built.exists_similar absolute stage few similar
  · rw [built.edgesOf, built.edgesOf]
    intro none e mem
    rcases built.similar_of_mem absolute stage few mem with ⟨c, d, within, rfl⟩ | ⟨c, d, across, rfl⟩
    · rfl
    · obtain ⟨i, there, -⟩ := across.linked.1
      rw [none] at there
      cases there

/-- A build of few entities stays below the limit: there are no more pairs without repetition than the square of their
number. -/
theorem fewAcross_of_length_le (b : Builder α) (fs : FileSystem) (input : BuildInput)
    (imports : List (Edge α))
    (few : (((b.retained input).length * (b.retained input).length : Nat) : Int)
      ≤ b.filters.maxCrossFileRelations) : b.FewAcross fs input imports := by
  intro xs nodup across
  have sub : xs ⊆ b.retained input ×ˢ b.retained input := fun pair mem =>
    List.pair_mem_product.mpr ⟨(across pair mem).source, (across pair mem).target⟩
  have le := (List.subperm_of_subset nodup sub).length_le
  rw [List.length_product] at le
  omega

/-- Three functions with the same tags in two files, one of which imports the other. -/
def similarInput : BuildInput where
  sources := [("a.ts", "f"), ("b.ts", "g"), ("a.ts", "h")].map fun (filePath, name) =>
    .record (.obj [("file_path", .str filePath), ("name", .str name), ("element_type", .str "function"),
      ("start_line", .int 1), ("semantic_tags", .arr [.str "api", .str "store"])])
  imports := .obj [("b.ts", .arr [.str "./a"])]

/-- The file that was seen first is the source of each edge across files, also of that of the entity which came
last. -/
theorem similarity_exact_of_three_functions :
    let b := (sample Rat .connectivity).withFilters (Filters.allEnabled 0)
    b.workspace.isAbsolute = true ∧ b.filters.enableSemanticRelated = true ∧
      ∃ g, b.build sampleFiles "" similarInput = .ok g ∧
        b.FewAcross sampleFiles similarInput (g.edgesOf .imports) ∧
        ExactSimilarity b sampleFiles similarInput g ∧
        (g.edgesOf .relatedTo).map (fun e => (e.source, e.target)) =
          [("entity:a.ts:function:f:1", "entity:a.ts:function:h:1"),
            ("entity:a.ts:function:f:1", "entity:b.ts:function:g:1"),
            ("entity:a.ts:function:h:1", "entity:b.ts:function:g:1")] := by
  intro b
  have finishes : (b.build sampleFiles "" similarInput).toOption.any (fun g =>
      (g.edgesOf .relatedTo).map (fun e => (e.source, e.target)) ==
        [("entity:a.ts:function:f:1", "entity:a.ts:function:h:1"),
          ("entity:a.ts:function:f:1", "entity:b.ts:function:g:1"),
          ("entity:a.ts:function:h:1", "entity:b.ts:function:g:1")]) = true := by
    decide +kernel
  obtain ⟨g, h, ends⟩ := exists_ok_of_any_toOption finishes
  have count : (b.retained similarInput).length = 3 := by decide +kernel
  have few : b.FewAcross sampleFiles similarInput (g.edgesOf .imports) :=
    b.fewAcross_of_length_le sampleFiles similarInput _ (by rw [count]; decide)
  exact ⟨by decide, rfl, g, h, few, similarity_exact (by decide) rfl h few, by simpa using ends⟩

end Builder

end CodeAtlas
