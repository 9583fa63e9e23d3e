import CodeAtlas.Proofs.Saving
import CodeAtlas.Store.Queries
import Mathlib.Data.List.Infix

/-!
# What a search finds

A search goes through the nodes in order and collects those that match.  The limit is looked at when a node has been
taken and not before, so that a search with the limit zero, or with a limit below zero, takes a node all the same if
one matches (`Store.search_eq`).

A node matches if it is a code element and the text occurs in its snippet, both in lower case.  A snippet that is
absent or null is an empty one.  Of nodes that are no code elements nothing else is asked.
-/

namespace CodeAtlas

/-- A text occurs in another one if it is a part of it without a gap. -/
theorem Tags.occursIn_iff {needle text : List Char} : occursIn needle text = true ↔ needle <:+: text := by
  induction text with
  | nil => simp [occursIn]
  | cons c rest ih => rw [occursIn, Bool.or_eq_true, ih, List.isPrefixOf_iff_prefix, List.infix_cons_iff]

namespace Json

/-- Whether a node is a code element. -/
def isCodeElement (node : Json) : Bool := (node.getD "type").text? == some NodeKind.codeElement.text

/-- The text of the snippet of a node, empty if there is none. -/
def snippetText (node : Json) : String := ((node.getD "code_snippet").text?).getD ""

/-- A node whose snippet is a text or absent, if it is a code element. -/
structure Searchable (node : Json) : Prop where
  /-- It is an object, -/
  object : ∃ members, node = .obj members
  /-- and if it is a code element, its snippet is a text or is not given. -/
  snippet : node.isCodeElement = true → node.getD "code_snippet" = .null ∨ ∃ s, node.getD "code_snippet" = .str s

/-- Whether a node is a code element with a text in its snippet, in any case. -/
def hits (text : String) (node : Json) : Bool :=
  node.isCodeElement && decide ((Text.lower text).toList <:+: (Text.lower node.snippetText).toList)

end Json

namespace Store

open Json (Searchable hits)

/-- Whether a node is a code element is asked by comparing keys. -/
theorem sameKey_codeElement (node : Json) :
    (node.getD "type").sameKey (.str NodeKind.codeElement.text) = node.isCodeElement := by
  rw [Bool.eq_iff_iff, Json.sameKey_str, Json.isCodeElement, beq_iff_eq]
  cases node.getD "type" <;> simp [Json.text?]

/-- What a search asks of one node.  It has an answer for nodes that are objects with snippets that are texts or
absent. -/
theorem hasSnippet_eq {node : Json} (searchable : Searchable node) (text : String) :
    hasSnippet (Text.lower text).toList node = .ok (hits text node) := by
  obtain ⟨⟨members, rfl⟩, snippet⟩ := searchable
  rw [hasSnippet, sameKey_codeElement, hits]
  cases element : (Json.obj members).isCodeElement with
  | false => rfl
  | true =>
      have occurs (s : String) : Tags.occursIn (Text.lower text).toList (Text.lower s).toList
          = decide ((Text.lower text).toList <:+: (Text.lower s).toList) := by
        rw [Bool.eq_iff_iff, Tags.occursIn_iff, decide_eq_true_iff]
      rcases snippet element with null | ⟨s, given⟩
      · simp only [Json.snippetText, null]
        exact congrArg Except.ok (occurs "")
      · have kept : (Json.str s).orElse (.str "") = .str s := by
          by_cases empty : s = "" <;> simp [Json.orElse, Json.truthy, empty]
        simp only [Json.snippetText, given, kept]
        exact congrArg Except.ok (occurs s)

/-- **Collecting is taking from the front of what matches**, and one node at least.  By induction over the nodes, with
room for another one as what is known of those found so far; the program takes a node before it looks at the limit,
and so there is room for one at the beginning whatever the limit is. -/
theorem collect_eq {nodes : List Json} (searchable : ∀ n ∈ nodes, Searchable n) (text : String) (limit : Int)
    {found : List Json} (room : found.length < (max limit 1).toNat) :
    collect (Text.lower text).toList limit found nodes
      = .ok (found ++ (nodes.filter (hits text)).take ((max limit 1).toNat - found.length)) := by
  induction nodes generalizing found with
  | nil => simp [collect]
  | cons node rest ih =>
      obtain ⟨first, later⟩ := List.forall_mem_cons.mp searchable
      rw [collect, hasSnippet_eq first]
      cases hit : hits text node with
      | false =>
          rw [List.filter_cons_of_neg (by simp [hit])]
          exact ih later room
      | true =>
          rw [List.filter_cons_of_pos hit]
          obtain ⟨k, left⟩ : ∃ k, (max limit 1).toNat - found.length = k + 1 :=
            ⟨_, (Nat.sub_add_cancel (by omega)).symm⟩
          rw [left, List.take_succ_cons]
          show (if limit ≤ (found.length + 1 : Nat) then .ok (found ++ [node])
            else collect (Text.lower text).toList limit (found ++ [node]) rest) = _
          by_cases last : limit ≤ (found.length + 1 : Nat)
          · obtain rfl : k = 0 := by omega
            rw [if_pos last, List.take_zero]
          · have length : (found ++ [node]).length = found.length + 1 := List.length_append
            have more : (max limit 1).toNat - (found ++ [node]).length = k := by omega
            rw [if_neg last, ih later (by omega), more, List.append_assoc, List.singleton_append]

variable {s : Store} {nodes : List Json}

/-- **A search finds the front of what matches**, up to the limit, and one node at least if any matches.  So it finds
as many as the limit allows just when the limit is positive or nothing matches. -/
theorem search_eq (stored : listOf s.data "nodes" = .arr nodes) (searchable : ∀ n ∈ nodes, Searchable n)
    (text : String) (limit : Int) :
    s.search text limit = .ok ((nodes.filter (hits text)).take (max limit 1).toNat) ∧
      (s.search text limit = .ok ((nodes.filter (hits text)).take (max limit 0).toNat)
        ↔ 1 ≤ limit ∨ ∀ n ∈ nodes, hits text n = false) := by
  have found : s.search text limit = .ok ((nodes.filter (hits text)).take (max limit 1).toNat) := by
    have room : ([] : List Json).length < (max limit 1).toNat := by
      rw [List.length_nil]
      omega
    have run := collect_eq searchable text limit room
    rw [search, allNodes, stored]
    exact run
  refine ⟨found, ?_⟩
  rw [found, Except.ok.injEq]
  rcases Int.lt_or_le limit 1 with low | positive
  · -- One node is taken where none was asked for.
    have one : (max limit 1).toNat = 1 := by omega
    have zero : (max limit 0).toNat = 0 := by omega
    rw [one, zero, List.take_zero, List.take_eq_nil_iff]
    simp [show ¬ 1 ≤ limit by omega]
  · have same : max limit 1 = max limit 0 := by omega
    rw [same]
    exact ⟨fun _ => Or.inl positive, fun _ => rfl⟩

/-- A file and two functions, the second of which has no snippet. -/
def searchedNodes : List Json := [
  .obj [("id", .str "file:a.ts"), ("type", .str "file"), ("code_snippet", .str "f()")],
  .obj [("id", .str "f"), ("type", .str "code_element"), ("code_snippet", .str "F()")],
  .obj [("id", .str "g"), ("type", .str "code_element"), ("code_snippet", .null)]]

/-- A store with these nodes. -/
def searchedStore : Store where
  path := ⟨.single, ["w", "kg.json"]⟩
  data := [("nodes", .arr searchedNodes)]
  index := []

/-- A search may go through them. -/
theorem searchable_searchedNodes : ∀ n ∈ searchedNodes, Searchable n := by
  simp only [searchedNodes, List.forall_mem_cons]
  exact ⟨⟨⟨_, rfl⟩, nofun⟩, ⟨⟨_, rfl⟩, fun _ => Or.inr ⟨_, rfl⟩⟩, ⟨⟨_, rfl⟩, fun _ => Or.inl rfl⟩, nofun⟩

/-- The text occurs in the file too, and in the first function in another case. -/
theorem search_eq_of_two_functions :
    listOf searchedStore.data "nodes" = .arr searchedNodes ∧ (∀ n ∈ searchedNodes, Searchable n) ∧
      searchedStore.search "f(" 2 = .ok ((searchedNodes.filter (hits "f(")).take 2) ∧
      (searchedNodes.filter (hits "f(")).length = 1 ∧
      searchedStore.search "" 1 = .ok ((searchedNodes.filter (hits "")).take 1) ∧
      (searchedNodes.filter (hits "")).length = 2 :=
  ⟨rfl, searchable_searchedNodes, (search_eq rfl searchable_searchedNodes "f(" 2).1, by decide +kernel,
    (search_eq rfl searchable_searchedNodes "" 1).1, by decide +kernel⟩

/-- With the limit zero a node is found. -/
theorem search_of_limit_zero :
    listOf searchedStore.data "nodes" = .arr searchedNodes ∧ (∀ n ∈ searchedNodes, Searchable n) ∧
      (searchedStore.search "f" 0).toOption.map List.length = some 1 :=
  ⟨rfl, searchable_searchedNodes, by decide +kernel⟩

end Store

end CodeAtlas
