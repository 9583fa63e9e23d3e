import CodeAtlas.Community.Detection
import CodeAtlas.Proofs.Relations

/-!
# Communities can be found

Finding communities counts tags and languages, which have to be keys for that, and names the kinds of code
elements, which have to be there.  A node that meets both (`Node.Countable`) is never in the way, so that either
strategy finds the communities of such nodes, whatever the edges are.

Either strategy makes one community for each group of nodes that it finds, in order (`map_ofGroups`), and what a
community tells of its group can be read off the groups (`map_of_ofGroups`).
-/

namespace CodeAtlas

/-- What communities count in a node can be counted. -/
structure Node.Countable (n : Node) : Prop where
  /-- It has the fields of its kind, and so a code element names its kind. -/
  complete : n.Complete
  /-- Its tags can be keys, -/
  tags : ∀ t ∈ n.tags, t.isKey = true
  /-- and so can its language. -/
  language : n.language.isKey = true

namespace Community

variable {α : Type}

/-- The most common tags can be counted where all tags are keys. -/
theorem exists_topTags {nodes : List Node} (h : ∀ n ∈ nodes, n.Countable) (limit : Nat) :
    ∃ tags, topTags nodes limit = .ok tags := by
  have keys : (nodes.flatMap (·.tags)).find? (fun j => !j.isKey) = none := by
    rw [List.find?_eq_none]
    intro t mem
    obtain ⟨n, node, mem⟩ := List.mem_flatMap.mp mem
    simp [(h n node).tags t mem]
  simp only [topTags, keys]
  exact ⟨_, rfl⟩

/-- The main language can be found where all languages are keys.  Those that say nothing are left out before it is
counted, and so need not be keys. -/
theorem exists_mainLanguage {nodes : List Node} (h : ∀ n ∈ nodes, n.Countable) :
    ∃ language, mainLanguage nodes = .ok language := by
  have keys : ((nodes.map (·.language)).filter fun j =>
      j.truthy && !j.sameKey (.str "unknown")).find? (fun j => !j.isKey) = none := by
    rw [List.find?_eq_none]
    intro j mem
    obtain ⟨n, node, rfl⟩ := List.mem_map.mp (List.mem_filter.mp mem).1
    simp [(h n node).language]
  simp only [mainLanguage, keys]
  exact ⟨_, rfl⟩

/-- A description can be given where every code element has its kind. -/
theorem exists_describe {nodes : List Node} (h : ∀ n ∈ nodes, n.Countable) :
    ∃ text, describe nodes = .ok text := by
  have kinds : (nodes.filter (·.kind == .codeElement)).find? (·.elementKind.isNone) = none := by
    rw [List.find?_eq_none]
    intro n mem
    obtain ⟨node, kind⟩ := List.mem_filter.mp mem
    have named := (h n node).complete.element (by simpa using kind)
    simpa [Option.isSome_iff_ne_none] using named
  unfold describe
  simp only [kinds]
  split
  · exact ⟨_, rfl⟩
  · split <;> exact ⟨_, rfl⟩

/-- What is placed in a directory is a node. -/
theorem mem_of_mem_placedElements {nodes : Nodes} {entry : String × Node}
    (h : entry ∈ placedElements nodes) : entry.2 ∈ nodes.toList := by
  obtain ⟨n, mem, eq⟩ := List.mem_filterMap.mp h
  split at eq
  · split at eq
    · cases eq
    · obtain rfl := Option.some.inj eq
      exact mem
  · cases eq

/-- Communities can be made of groups if one can be made of each, whatever its number. -/
theorem exists_ofGroups {β : Type} {community : Nat → β → Except Fault (Community α)}
    {groups : List β} (h : ∀ group ∈ groups, ∀ found, ∃ c, community found group = .ok c) :
    ∃ cs, ofGroups community groups = .ok cs := by
  refine exists_mapM_eq_ok_iff.mpr ?_
  rintro ⟨group, found⟩ mem
  exact h group (List.fst_mem_of_mem_zipIdx mem) found

/-! ## One community for each group -/

/-- The communities of groups are one for each group. -/
theorem map_ofGroups {β : Type} {community : Nat → β → Except Fault (Community α)} {groups : List β}
    {cs : List (Community α)} (h : ofGroups community groups = .ok cs) :
    groups.zipIdx.map (fun (group, found) => community found group) = cs.map .ok :=
  mapM_eq_ok_iff.mp h

/-- There are as many communities as groups. -/
theorem length_ofGroups {β : Type} {community : Nat → β → Except Fault (Community α)}
    {groups : List β} {cs : List (Community α)} (h : ofGroups community groups = .ok cs) :
    cs.length = groups.length := by
  simpa using (congrArg List.length (map_ofGroups h)).symm

/-- Every community has been made of one of the groups. -/
theorem exists_group_of_mem {β : Type} {community : Nat → β → Except Fault (Community α)}
    {groups : List β} {cs : List (Community α)} (h : ofGroups community groups = .ok cs)
    {c : Community α} (mem : c ∈ cs) : ∃ group found, community found group = .ok c := by
  have ok : (.ok c : Except Fault (Community α)) ∈ cs.map .ok := List.mem_map_of_mem mem
  rw [← map_ofGroups h] at ok
  obtain ⟨⟨group, found⟩, -, eq⟩ := List.mem_map.mp ok
  exact ⟨group, found, eq⟩

/-- A field of communities that each group tells of its own is told by the groups, in order. -/
theorem map_of_ofGroups {β γ : Type} {community : Nat → β → Except Fault (Community α)}
    {groups : List β} {cs : List (Community α)} (h : ofGroups community groups = .ok cs)
    (field : Community α → γ) (value : β × Nat → γ)
    (spec : ∀ group found c, community found group = .ok c → field c = value (group, found)) :
    cs.map field = groups.zipIdx.map value :=
  map_eq_of_map_ok (map_ofGroups h) fun (group, found) c made => spec group found c made

/-- Communities that number themselves are numbered from one on. -/
theorem map_id_of_ofGroups {β : Type} {community : Nat → β → Except Fault (Community α)} {groups : List β}
    {cs : List (Community α)} (h : ofGroups community groups = .ok cs)
    (spec : ∀ group found c, community found group = .ok c → c.id = numbered found) :
    cs.map (·.id) = (List.range cs.length).map numbered := by
  have numbers := List.zipIdx_map_snd 0 groups
  rw [map_of_ofGroups h (·.id) (fun pair => numbered pair.2) spec, length_ofGroups h, List.range_eq_range',
    ← numbers, List.map_map]
  rfl

variable [Scalar α]

/-- A community can be made of a component.  Ends of edges that are no nodes may be listed in it, and are passed over
in what is counted. -/
theorem exists_ofComponent {nodes : Nodes} (h : ∀ n ∈ nodes.toList, n.Countable)
    (edges : List (Edge α)) (found : Nat) (component : List String) :
    ∃ c, ofComponent nodes edges found component = .ok c := by
  have members : ∀ n ∈ component.filterMap nodes.find?, n.Countable := by
    intro n mem
    obtain ⟨id, -, eq⟩ := List.mem_filterMap.mp mem
    exact h n (Catalog.find?_eq_some_iff.mp eq).1
  obtain ⟨text, htext⟩ := exists_describe members
  obtain ⟨tags, htags⟩ := exists_topTags members shownTags
  obtain ⟨language, hlanguage⟩ := exists_mainLanguage members
  unfold ofComponent
  simp only [htext, htags, hlanguage]
  exact ⟨_, rfl⟩

/-- A community can be made of the elements of a directory. -/
theorem exists_ofDirectory {group : String × List Node} (h : ∀ n ∈ group.2, n.Countable)
    (edges : List (Edge α)) (found : Nat) : ∃ c, ofDirectory edges found group = .ok c := by
  obtain ⟨tags, htags⟩ := exists_topTags h shownTags
  obtain ⟨language, hlanguage⟩ := exists_mainLanguage h
  unfold ofDirectory
  simp only [htags, hlanguage]
  exact ⟨_, rfl⟩

/-- The communities of the connected components can be found: each of them looks at nodes only, and these can be
counted. -/
theorem exists_connected {nodes : Nodes} (h : ∀ n ∈ nodes.toList, n.Countable)
    (edges : List (Edge α)) : ∃ cs, connected nodes edges = .ok cs :=
  exists_map_eq_ok_iff.mpr
    (exists_ofGroups fun component _ found => exists_ofComponent h edges found component)

/-- The communities of the directories can be found. -/
theorem exists_directories {nodes : Nodes} (h : ∀ n ∈ nodes.toList, n.Countable)
    (edges : List (Edge α)) : ∃ cs, directories nodes edges = .ok cs := by
  refine exists_ofGroups fun group mem found => exists_ofDirectory ?_ edges found
  intro n member
  obtain ⟨directory, -, rfl⟩ := List.mem_map.mp (List.mem_filter.mp mem).1
  obtain ⟨entry, placed, rfl⟩ := List.mem_map.mp member
  exact h _ (mem_of_mem_placedElements (List.mem_filter.mp placed).1)

/-- **Either strategy finds the communities** of nodes that can be counted.  Nothing is asked of the edges, since
communities count them by their ends and read nothing else of them. -/
theorem exists_detect (strategy : Strategy) {nodes : Nodes}
    (h : ∀ n ∈ nodes.toList, n.Countable) (edges : List (Edge α)) :
    ∃ cs, detect strategy nodes edges = .ok cs := by
  cases strategy with
  | connectivity => exact exists_connected h edges
  | directory => exact exists_directories h edges

end Community

end CodeAtlas
