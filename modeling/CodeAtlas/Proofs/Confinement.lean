import CodeAtlas.Proofs.FileNodes
import CodeAtlas.Proofs.NodeSet

/-!
# What lies in a workspace

A path is read in the workspace and resolved, and it lies in the workspace when the way to it from there does not
start upward.  The way is what is left of both paths without their common front.  So nothing goes upward iff all of
the workspace is common (`Path.within_iff`), and the way leads back to where it came from (`Path.absolute_way`).  The
question is asked of the written way, where a name may start with two dots and a step upward may stand alone
(`Path.within_iff_text`).

A build places no entity outside the workspace, and every other node but that of the project stands on the way to one.
`Builder.workspace_confines` says that all of them lie in the workspace.

## Outline

On segments, `Path.normalize_join_way` does the work: the steps upward of a way take away what the two paths do not
share, one by one, and what is left of the way goes on from there.  The text of a way says as much as its segments,
but for names that look like a step upward (`Path.within_iff_text`).  For builds nothing new has to be shown: what
is placed lies in the workspace by the check that the program makes, and all other nodes stand on the way to it.
-/

namespace CodeAtlas

namespace Path

/-! ## Ways -/

theorem dropCommon_fst_eq_nil_iff {base segments : List String} :
    (dropCommon base segments).1 = [] ↔ base <+: segments := by
  fun_induction dropCommon base segments with
  | case1 b bs ps ih => rw [List.prefix_cons_inj, ih]
  | case2 b bs p ps ne => simp [List.cons_prefix_cons, ne]
  | case3 bs ps other =>
      cases bs with
      | nil => simp
      | cons b bs =>
          cases ps with
          | nil => simp
          | cons p ps => exact absurd rfl (other b bs p ps rfl)

/-- **A path lies in a directory iff it goes on from it.** -/
theorem within_iff {p : Path} (names : ".." ∉ p.segments) (base : Path) :
    p.within base = true ↔ base.segments <+: p.segments := by
  rw [← dropCommon_fst_eq_nil_iff, within, relativeTo, bne_iff_ne]
  have down : ".." ∉ (dropCommon base.segments p.segments).2 :=
    fun mem => names ((dropCommon_snd_suffix _ _).subset mem)
  cases up : (dropCommon base.segments p.segments).1 with
  | nil => simpa [up] using fun first => down (List.mem_of_head? first)
  | cons b bs => simp [up, List.replicate_succ]

/-- The way to what lies in a directory goes down only. -/
theorem up_not_mem_relativeTo {p base : Path} (names : ".." ∉ p.segments) (inside : p.within base = true) :
    ".." ∉ (p.relativeTo base).segments := by
  have common := dropCommon_fst_eq_nil_iff.mpr ((within_iff names base).mp inside)
  simp only [relativeTo, common, List.length_nil, List.replicate_zero, List.nil_append]
  exact fun mem => names ((dropCommon_snd_suffix _ _).subset mem)

/-- As many steps upward as there are names lead back. -/
theorem foldl_descend_replicate {absolute : Bool} (names done : List String) (noUp : ".." ∉ names) :
    (List.replicate names.length "..").foldl (descend absolute) (names ++ done) = done := by
  induction names with
  | nil => rfl
  | cons s rest ih =>
      rw [List.mem_cons, not_or] at noUp
      have name : s ≠ ".." := fun eq => noUp.1 eq.symm
      have step : descend absolute (s :: rest ++ done) ".." = rest ++ done := by simp [descend, name]
      rw [List.length_cons, List.replicate_succ, List.foldl_cons, step]
      exact ih noUp.2

/-- A way without a root is gone from the end of the directory that it is read in. -/
theorem normalize_join_way {base : Path} (names : ".." ∉ base.segments) (way : List String) :
    (base.join ⟨.none, way⟩).normalize.segments
      = (way.foldl (descend base.isAbsolute) base.segments.reverse).reverse := by
  have start : base.segments.foldl (descend base.isAbsolute) [] = base.segments.reverse := by
    rw [foldl_descend_of_names base.segments [] names, List.append_nil]
  rw [← start, ← List.foldl_append]
  rfl

/-- **The way to a path leads there.** -/
theorem normalize_join_relativeTo {p base : Path} (hp : ".." ∉ p.segments) (hbase : ".." ∉ base.segments) :
    (base.join (p.relativeTo base)).normalize.segments = p.segments := by
  obtain ⟨front, left, right⟩ := exists_dropCommon base.segments p.segments
  refine (normalize_join_way hbase _).trans ?_
  generalize dropCommon base.segments p.segments = cut at left right ⊢
  rw [left] at hbase ⊢
  rw [right] at hp ⊢
  have up : ".." ∉ cut.1.reverse := fun mem => hbase (List.mem_append_right _ (List.mem_reverse.mp mem))
  have down : ".." ∉ cut.2 := fun mem => hp (List.mem_append_right _ mem)
  -- Up to the end of the common front, and from there down.
  have back : (List.replicate cut.1.length "..").foldl (descend base.isAbsolute) (cut.1.reverse ++ front.reverse)
      = front.reverse := by
    simpa using foldl_descend_replicate cut.1.reverse front.reverse up
  rw [List.foldl_append, List.reverse_append, back, foldl_descend_of_names _ _ down, List.reverse_append,
    List.reverse_reverse, List.reverse_reverse]

/-- **A written way leads where it was written for.** -/
theorem absolute_way {base : Path} (absolute : base.isAbsolute = true) (resolved : base.Resolved) (s : String) :
    (base.absolute ((base.absolute s).relativeTo base).text).segments = (base.absolute s).segments := by
  have plain := (plain_absolute resolved.plain s).relativeTo base
  have names := up_not_mem_normalize (isAbsolute_join absolute (parse s))
  rw [Path.absolute, parse_text plain]
  exact normalize_join_relativeTo names resolved.noUp

/-- The text of plain segments starts with a step upward iff the segments do. -/
theorem head_eq_up_iff {s : String} {rest : List String} (plain : Plain (s :: rest)) :
    s = ".." ↔ "/".intercalate (s :: rest) = ".." ∨ Above ".." ("/".intercalate (s :: rest)) := by
  have up : ∀ {segments : List String}, Plain segments → "/".intercalate segments = ".." → segments = [".."] := by
    intro segments plain text
    rw [← segments_parse_intercalate plain, text]
    rfl
  constructor
  · rintro rfl
    cases rest with
    | nil => exact Or.inl rfl
    | cons t more => exact Or.inr ⟨by decide, _, String.intercalate_cons_cons⟩
  · rintro (text | above)
    · exact (List.cons.inj (up plain text)).1
    · obtain ⟨front, back, eq, -, -, text⟩ := exists_append_of_above plain (List.cons_ne_nil _ _) above
      rw [eq] at plain
      rw [up (plain_append.mp plain).1 text] at eq
      exact (List.cons.inj eq).1

/-- **The question can be asked of the written way**: it is no step upward and does not go on behind one.  A name that
starts with two dots is none. -/
theorem within_iff_text {p : Path} (plain : Plain p.segments) (base : Path) :
    p.within base = true ↔ (p.relativeTo base).text ≠ ".." ∧ ¬ Above ".." (p.relativeTo base).text := by
  have plain := plain.relativeTo base
  have way : p.relativeTo base = ⟨.none, (p.relativeTo base).segments⟩ := rfl
  rw [within, bne_iff_ne, way]
  dsimp only
  cases segments : (p.relativeTo base).segments with
  | nil =>
      refine iff_of_true (by simp) ⟨by decide, ?_⟩
      rintro ⟨-, rest, text⟩
      have dot : ['.'] = (".." ++ "/" ++ rest).toList := congrArg String.toList text
      simp at dot
  | cons s rest =>
      rw [segments] at plain
      rw [text_eq_intercalate (List.cons_ne_nil _ _), List.head?_cons, Ne, Option.some.injEq, head_eq_up_iff plain,
        not_or]

end Path

/-! ## Nodes -/

/-- Something stands in a workspace: its absolute path goes on from that of the workspace. -/
def Node.LiesIn (workspace : Path) (n : Node) : Prop :=
  ∃ path, n.absolutePath = some path ∧ workspace.segments <+: (Path.parse path).segments

variable {workspace : Path}

/-- **Only what lies in the workspace is placed.** -/
theorem within_of_mem_placedEntities (absolute : workspace.isAbsolute = true)
    (plain : Path.Plain workspace.segments) {sources : List Source} {e : Entity}
    (mem : e ∈ placedEntities workspace sources) :
    (workspace.absolute e.filePath).within workspace = true := by
  obtain ⟨source, -, placed⟩ := List.mem_filterMap.mp mem
  unfold Source.placed? at placed
  split at placed
  · next e? run =>
      obtain ⟨given, -, rfl⟩ := map_eq_ok_iff.mp run
      obtain ⟨entity, -, placed⟩ := Option.bind_eq_some_iff.mp placed
      obtain ⟨inside, moved⟩ := Option.ite_none_right_eq_some.mp placed
      obtain rfl := Option.some.inj moved
      rw [Path.absolute_absolute absolute plain]
      exact (Bool.and_eq_true_iff.mp inside).2
  · cases placed

namespace Builder

variable {α : Type} [Scalar α] {b : Builder α} {fs : FileSystem} {now : String} {input : BuildInput}
  {imports exports : FileMap} {s u : BuildState α} {g : Graph α}

/-- **Every node but that of the project lies in the workspace**, by where it comes from. -/
theorem Built.liesIn_of_mem (built : Built b fs now input imports exports s u g)
    (absolute : b.workspace.isAbsolute = true) (resolved : b.workspace.Resolved) {n : Node}
    (mem : n ∈ s.nodes.toList) (kind : n.kind ≠ .project) : n.LiesIn b.workspace := by
  -- Files and code elements show the path of a placed entity.
  have shown : ∀ e ∈ placedEntities b.workspace input.sources,
      b.workspace.segments <+: (Path.parse (b.workspace.absolute e.filePath).text).segments := by
    intro e placed
    have names := Path.up_not_mem_normalize (Path.isAbsolute_join absolute (Path.parse e.filePath))
    rw [Path.parse_text (Path.plain_absolute resolved.plain _)]
    exact (Path.within_iff names _).mp (within_of_mem_placedEntities absolute resolved.plain placed)
  cases built.grown.origin n mem with
  | project made => exact absurd (projectNode_shape made).2.1 kind
  | @file group _ given made =>
      obtain ⟨⟨e, placed, eq⟩, -⟩ := mem_byFile.mp given
      refine ⟨_, (fileNode_shape made).2.2.1, ?_⟩
      rw [← eq]
      exact shown e placed
  | @directory group segments given chain =>
      obtain ⟨⟨e, placed, eq⟩, -⟩ := mem_byFile.mp given
      rw [← eq] at chain
      have plain := plain_of_mem_directoryChain ((plain_of_mem_placedEntities absolute e placed).relativeTo _) chain
      refine ⟨_, rfl, ?_⟩
      rw [Path.parse_text (Path.plain_append.mpr ⟨resolved.plain, plain⟩)]
      exact List.prefix_append _ _
  | element given => exact ⟨_, rfl, shown _ given⟩

/-- How a workspace confines what is read and built in it. -/
structure Confines (b : Builder α) : Prop where
  /-- A path lies in the workspace iff it goes on from it, -/
  within_iff : ∀ p : String, (b.workspace.absolute p).within b.workspace = true ↔
    b.workspace.segments <+: (b.workspace.absolute p).segments
  /-- which is asked of its text as seen from the workspace. -/
  within_iff_text : ∀ p : String, (b.workspace.absolute p).within b.workspace = true ↔
    ((b.workspace.absolute p).relativeTo b.workspace).text ≠ ".." ∧
      ¬ Path.Above ".." ((b.workspace.absolute p).relativeTo b.workspace).text
  /-- This text leads to the path, -/
  back : ∀ p : String, (b.workspace.absolute ((b.workspace.absolute p).relativeTo b.workspace).text).segments
    = (b.workspace.absolute p).segments
  /-- and nowhere upward if the path lies in the workspace. -/
  noUp : ∀ p : String, (b.workspace.absolute p).within b.workspace = true →
    ".." ∉ (Path.parse ((b.workspace.absolute p).relativeTo b.workspace).text).segments
  /-- Every node but that of the project lies in the workspace. -/
  nodes : ∀ {fs : FileSystem} {now : String} {input : BuildInput} {g : Graph α},
    b.build fs now input = .ok g → ∀ n ∈ g.nodes, n.kind ≠ .project → n.LiesIn b.workspace

/-- **Nothing leads out of a workspace**, and a path lies in it iff it goes on from it.  Setting up a builder makes its
workspace absolute (`Path.isAbsolute_absolute`) and resolved (`Path.plain_absolute`, `Path.up_not_mem_normalize`). -/
theorem workspace_confines (absolute : b.workspace.isAbsolute = true) (resolved : b.workspace.Resolved) :
    Confines b := by
  have plain : ∀ p, Path.Plain (b.workspace.absolute p).segments := Path.plain_absolute resolved.plain
  have names : ∀ p, ".." ∉ (b.workspace.absolute p).segments :=
    fun p => Path.up_not_mem_normalize (Path.isAbsolute_join absolute _)
  refine ⟨fun p => Path.within_iff (names p) _, fun p => Path.within_iff_text (plain p) _,
    Path.absolute_way absolute resolved, fun p inside => ?_, fun h n mem => ?_⟩
  · rw [Path.parse_text ((plain p).relativeTo _)]
    exact Path.up_not_mem_relativeTo (names p) inside
  · obtain ⟨imports, exports, s, u, built⟩ := build_eq_ok_iff.mp h
    rw [built.nodes_made] at mem
    exact built.liesIn_of_mem absolute resolved mem

/-- A name that starts with two dots, a way out of the workspace and back, and a directory that is called like the
workspace and more. -/
theorem workspace_confines_of_odd_paths :
    (sample Rat .connectivity).workspace.isAbsolute = true ∧ (sample Rat .connectivity).workspace.Resolved ∧
      ∃ g, sampleBuild Rat .connectivity
          (["..x/a.ts", "../ws/b.ts", "/wsx/c.ts"].map (sampleRecord · "f" .null)) = .ok g ∧
        g.filesShown = [some "/ws/..x/a.ts", some "/ws/b.ts"] ∧
        ∀ n ∈ g.nodes, n.kind ≠ .project → n.LiesIn (sample Rat .connectivity).workspace := by
  have resolved : (sample Rat .connectivity).workspace.Resolved := by
    refine ⟨?_, by decide⟩
    intro segment mem
    obtain rfl := List.mem_singleton.mp mem
    exact ⟨by decide, by decide, by decide⟩
  have finishes : (sampleBuild Rat .connectivity
      (["..x/a.ts", "../ws/b.ts", "/wsx/c.ts"].map (sampleRecord · "f" .null))).toOption.any (fun g =>
        g.filesShown == [some "/ws/..x/a.ts", some "/ws/b.ts"]) = true := by
    decide +kernel
  obtain ⟨g, h, files⟩ := exists_ok_of_any_toOption finishes
  exact ⟨rfl, resolved, g, h, by simpa using files, (workspace_confines rfl resolved).nodes h⟩

end Builder

end CodeAtlas
