import CodeAtlas.Path.Basic
import Mathlib.Data.List.Basic
import Mathlib.Data.List.TakeWhile

/-!
# Paths and their texts

A path is a list of segments, and its text is what nodes and edges are named after.  This module says when
the two carry the same information.

`Plain` is the condition: every segment is one that reading leaves, neither empty nor a single dot nor one
with a slash in it.  Reading produces plain paths (`plain_parse`), resolving and relating keep them plain
(`Plain.normalize`, `Plain.relativeTo`), and on plain paths reading undoes writing (`parse_text`).

The directory of a written path is found by a scan for its last slash.  On the text of plain segments this
is the list without its last segment (`directoryOf_intercalate`), whatever else the segments hold.
-/

namespace CodeAtlas.Path

/-! ## Segments -/

/-- A segment as reading leaves it.  The segment that leads up is one of them: reading keeps it, and only resolving
takes it away. -/
structure IsSegment (s : String) : Prop where
  /-- Slashes that stand side by side are one, -/
  ne_empty : s ≠ ""
  /-- a dot is dropped, -/
  ne_dot : s ≠ "."
  /-- and a slash ends a segment. -/
  no_slash : '/' ∉ s.toList

/-- Segments as reading leaves them. -/
def Plain (segments : List String) : Prop := ∀ s ∈ segments, IsSegment s

/-- The segment that leads up is a segment. -/
theorem isSegment_up : IsSegment ".." := ⟨by decide, by decide, by decide⟩

/-- A segment has a character. -/
theorem IsSegment.toList_ne_nil {s : String} (h : IsSegment s) : s.toList ≠ [] :=
  fun nil => h.ne_empty (String.toList_inj.mp nil)

/-- No segments are plain, -/
@[simp] theorem plain_nil : Plain [] := fun _ h => nomatch h

/-- and others are if each of them is, -/
@[simp] theorem plain_cons {s : String} {rest : List String} :
    Plain (s :: rest) ↔ IsSegment s ∧ Plain rest := List.forall_mem_cons

/-- in front and behind, -/
@[simp] theorem plain_append {front back : List String} :
    Plain (front ++ back) ↔ Plain front ∧ Plain back := List.forall_mem_append

/-- also if some of them are left out. -/
theorem Plain.sublist {segments shorter : List String} (plain : Plain segments)
    (sub : shorter.Sublist segments) : Plain shorter := fun s hs => plain s (sub.subset hs)

/-! ## Reading -/

/-- Splitting at slashes is what the library's splitting does. -/
theorem splitSlashes_eq_splitOn (cs : List Char) : splitSlashes cs = cs.splitOn '/' := by
  induction cs with
  | nil => rfl
  | cons c cs ih =>
      rw [splitSlashes, List.splitOn_cons_eq_if_modifyHead, ih]
      by_cases slash : c = '/'
      · simp [slash]
      · cases parts : cs.splitOn '/' with
        | nil => exact absurd parts (List.splitOn_ne_nil _ _)
        | cons part rest => simp [slash]

/-- No part of a text that is split at a character has this character in it. -/
theorem not_mem_of_mem_splitOn {a : Char} (cs : List Char) : ∀ part ∈ cs.splitOn a, a ∉ part := by
  induction cs with
  | nil => simp
  | cons c cs ih =>
      rw [List.splitOn_cons_eq_if_modifyHead]
      split
      · simpa using ih
      · next ne =>
          cases parts : cs.splitOn a with
          | nil => simp
          | cons part rest =>
              rw [parts] at ih
              obtain ⟨hpart, hrest⟩ := List.forall_mem_cons.mp ih
              refine List.forall_mem_cons.mpr ⟨fun mem => ?_, hrest⟩
              rcases List.mem_cons.mp mem with eq | mem
              · exact ne (by simp [eq])
              · exact hpart mem

/-- **Reading leaves plain segments.** -/
theorem plain_parse (s : String) : Plain (parse s).segments := by
  intro segment mem
  simp only [parse, List.mem_map, List.mem_filter, Bool.and_eq_true, bne_iff_ne] at mem
  obtain ⟨part, ⟨hpart, ne_nil, ne_dot⟩, rfl⟩ := mem
  rw [splitSlashes_eq_splitOn] at hpart
  refine ⟨?_, ?_, ?_⟩
  · exact fun eq => ne_nil (by simpa using congrArg String.toList eq)
  · exact fun eq => ne_dot (by simpa using congrArg String.toList eq)
  · simpa using not_mem_of_mem_splitOn _ part hpart

/-- One segment more keeps segments plain. -/
theorem Plain.descend {absolute : Bool} {done : List String} {s : String} (plain : Plain done)
    (hs : IsSegment s) : Plain (descend absolute done s) := by
  unfold Path.descend
  split
  · cases done with
    | nil => cases absolute <;> simp [isSegment_up]
    | cons last rest =>
        obtain ⟨hlast, hrest⟩ := plain_cons.mp plain
        by_cases up : last = ".." <;> simp [up, hrest, isSegment_up]
  · exact plain_cons.mpr ⟨hs, plain⟩

/-- Resolving keeps segments plain. -/
theorem Plain.normalize {p : Path} (plain : Plain p.segments) : Plain p.normalize.segments := by
  have fold : ∀ (segments done : List String), Plain segments → Plain done →
      Plain (segments.foldl (Path.descend p.isAbsolute) done) := by
    intro segments
    induction segments with
    | nil => exact fun done _ hdone => hdone
    | cons s rest ih =>
        intro done hsegments hdone
        obtain ⟨hs, hrest⟩ := plain_cons.mp hsegments
        exact ih _ hrest (hdone.descend hs)
  intro s hs
  exact fold p.segments [] plain plain_nil s (List.mem_reverse.mp hs)

/-! ## Absolute paths -/

@[simp] theorem isAbsolute_normalize (p : Path) : p.normalize.isAbsolute = p.isAbsolute := rfl

/-- A path that is read in an absolute one is absolute. -/
theorem isAbsolute_absolute {base : Path} (h : base.isAbsolute = true) (s : String) :
    (base.absolute s).isAbsolute = true := by
  rw [Path.absolute, isAbsolute_normalize, join]
  split
  · assumption
  · exact h

/-- A text that starts with a slash has a root. -/
theorem rootOf_slash_ne_none (cs : List Char) : rootOf ('/' :: cs) ≠ .none := by
  unfold rootOf
  split <;> simp_all

/-- The text of an absolute path reads as an absolute path. -/
theorem isAbsolute_parse_text {p : Path} (h : p.isAbsolute = true) :
    (parse p.text).isAbsolute = true := by
  -- The root stands in front of the text, whatever the segments are.
  have slash : ∃ cs, p.text.toList = '/' :: cs := by
    cases root : p.root with
    | none => simp [isAbsolute, root] at h
    | single => exact ⟨_, by simp [text, root, rootText]; rfl⟩
    | double => exact ⟨_, by simp [text, root, rootText]; rfl⟩
  obtain ⟨cs, hcs⟩ := slash
  simpa [isAbsolute, parse, hcs] using rootOf_slash_ne_none cs

/-- The text of an absolute path names the same path in every directory. -/
theorem absolute_text {p : Path} (h : p.isAbsolute = true) (base : Path) :
    base.absolute p.text = (parse p.text).normalize := by
  rw [Path.absolute, join, if_pos (isAbsolute_parse_text h)]

/-! ## Relative paths -/

/-- What is left of segments is a rear part of them. -/
theorem dropCommon_snd_suffix (base segments : List String) :
    (dropCommon base segments).2 <:+ segments := by
  fun_induction dropCommon base segments with
  | case1 => rename_i ih; exact ih.trans (List.suffix_cons _ _)
  | case2 => exact List.suffix_refl _
  | case3 => exact List.suffix_refl _

/-- Relating keeps segments plain: what is added leads up. -/
theorem Plain.relativeTo {p : Path} (plain : Plain p.segments) (base : Path) :
    Plain (p.relativeTo base).segments := by
  simp only [Path.relativeTo, plain_append]
  constructor
  · intro s hs
    obtain rfl := List.eq_of_mem_replicate hs
    exact isSegment_up
  · exact plain.sublist (dropCommon_snd_suffix _ _).sublist

/-! ## Texts -/

/-- The text of plain segments that are followed by one more. -/
theorem intercalate_concat {segments : List String} (ne : segments ≠ []) (s : String) :
    "/".intercalate (segments ++ [s]) = "/".intercalate segments ++ "/" ++ s := by
  rw [String.intercalate_append_of_ne_nil ne (List.cons_ne_nil _ _), String.intercalate_singleton]

/-- The text of plain segments neither is empty nor ends in a slash. -/
theorem Plain.getLast?_intercalate {segments : List String} (plain : Plain segments)
    (ne : segments ≠ []) :
    ∃ c, ("/".intercalate segments).toList.getLast? = some c ∧ c ≠ '/' := by
  obtain ⟨front, last, rfl⟩ := (List.eq_nil_or_concat' segments).resolve_left ne
  have hlast : IsSegment last := (plain_cons.mp (plain_append.mp plain).2).1
  obtain ⟨c, hc⟩ : ∃ c, last.toList.getLast? = some c :=
    Option.isSome_iff_exists.mp (List.getLast?_isSome.mpr hlast.toList_ne_nil)
  refine ⟨c, ?_, fun eq => hlast.no_slash (eq ▸ List.mem_of_getLast? hc)⟩
  by_cases nil : front = []
  · simpa [nil] using hc
  · rw [intercalate_concat nil, String.toList_append, List.getLast?_append, hc]
    rfl

/-- Plain segments have a text that is not empty, unless there are none of them. -/
theorem Plain.intercalate_ne_empty {segments : List String} (plain : Plain segments)
    (ne : segments ≠ []) : "/".intercalate segments ≠ "" := by
  intro empty
  obtain ⟨c, hc, -⟩ := plain.getLast?_intercalate ne
  simp [empty] at hc

/-- The text of plain segments does not start with a slash. -/
theorem Plain.head?_intercalate {segments : List String} (plain : Plain segments) :
    ("/".intercalate segments).toList.head? ≠ some '/' := by
  cases segments with
  | nil => simp
  | cons s rest =>
      have hs : IsSegment s := (plain_cons.mp plain).1
      have front : ("/".intercalate (s :: rest)).toList.head? = s.toList.head? := by
        cases rest with
        | nil => simp
        | cons t rest =>
            rw [String.intercalate_cons_cons, String.append_assoc, String.toList_append,
              List.head?_append_of_ne_nil _ hs.toList_ne_nil]
      rw [front]
      exact fun eq => hs.no_slash (List.mem_of_head? eq)

/-! ## Reading what was written -/

/-- A slash more in front makes no segment. -/
theorem segments_parse_slash (s : String) : (parse ("/" ++ s)).segments = (parse s).segments := by
  have split : splitSlashes ("/" ++ s).toList = [] :: splitSlashes s.toList := by
    simp [splitSlashes]
  simp only [parse, split]
  simp

/-- The text of plain segments has them between its slashes. -/
theorem splitOn_intercalate {segments : List String} (plain : Plain segments) (ne : segments ≠ []) :
    ("/".intercalate segments).toList.splitOn '/' = segments.map String.toList := by
  have noSlash : ∀ part ∈ segments.map String.toList, '/' ∉ part := by
    simpa using fun s hs => (plain s hs).no_slash
  rw [String.toList_intercalate]
  exact List.splitOn_intercalate '/' noSlash (by simpa using ne)

/-- Reading the text of plain segments gives these segments. -/
theorem segments_parse_intercalate {segments : List String} (plain : Plain segments) :
    (parse ("/".intercalate segments)).segments = segments := by
  by_cases nil : segments = []
  · subst nil
    rfl
  · have split : splitSlashes ("/".intercalate segments).toList = segments.map String.toList := by
      rw [splitSlashes_eq_splitOn, splitOn_intercalate plain nil]
    -- Reading leaves out empty and single-dot parts, of which plain segments have none.
    have kept : (segments.map String.toList).filter (fun part => part != [] && part != ['.'])
        = segments.map String.toList := by
      rw [List.filter_eq_self]
      intro part mem
      obtain ⟨s, hs, rfl⟩ := List.mem_map.mp mem
      have dot : s.toList ≠ ['.'] := fun eq => (plain s hs).ne_dot (String.toList_inj.mp eq)
      simp [(plain s hs).toList_ne_nil, dot]
    simp only [parse, split, kept, List.map_map]
    simp [Function.comp_def]

/-- The root of a text is told by the number of slashes in front of the rest. -/
theorem rootOf_cases {cs : List Char} (h : cs.head? ≠ some '/') :
    rootOf cs = .none ∧ rootOf ('/' :: cs) = .single ∧ rootOf ('/' :: '/' :: cs) = .double := by
  cases cs with
  | nil => exact ⟨rfl, rfl, rfl⟩
  | cons c rest =>
      have ne : c ≠ '/' := fun eq => h (by simp [eq])
      refine ⟨?_, ?_, ?_⟩ <;> unfold rootOf <;> split <;> grind

/-- The path that is read is without a root. -/
theorem parse_intercalate {segments : List String} (plain : Plain segments) :
    parse ("/".intercalate segments) = ⟨.none, segments⟩ :=
  Path.ext (rootOf_cases plain.head?_intercalate).1 (segments_parse_intercalate plain)

/-- A relative path with segments is written without a root. -/
theorem text_eq_intercalate {segments : List String} (ne : segments ≠ []) :
    (⟨.none, segments⟩ : Path).text = "/".intercalate segments := by
  simp [text, ne, rootText]

/-- **Reading undoes writing** on plain paths.  By the root: one that is written with slashes is found again by their
number, as the text behind them starts with none; and a path without segments is written as a dot, which reading
drops. -/
theorem parse_text {p : Path} (plain : Plain p.segments) : parse p.text = p := by
  obtain ⟨root, segments⟩ := p
  have head := plain.head?_intercalate
  have back := segments_parse_intercalate plain
  cases root with
  | none =>
      by_cases nil : segments = []
      · subst nil
        rfl
      · rw [text_eq_intercalate nil, parse_intercalate plain]
  | single =>
      have eq : (⟨.single, segments⟩ : Path).text = "/" ++ "/".intercalate segments := by
        simp [text, rootText]
      rw [eq, Path.ext_iff]
      refine ⟨?_, ?_⟩
      · rw [← (rootOf_cases head).2.1]
        simp [parse]
      · rw [segments_parse_slash, back]
  | double =>
      have eq : (⟨.double, segments⟩ : Path).text = "/" ++ ("/" ++ "/".intercalate segments) := by
        rw [← String.append_assoc]
        simp [text, rootText]
      rw [eq, Path.ext_iff]
      refine ⟨?_, ?_⟩
      · rw [← (rootOf_cases head).2.2]
        simp [parse]
      · rw [segments_parse_slash, segments_parse_slash, back]

/-- Plain paths are told apart by their texts. -/
theorem text_inj {p q : Path} (hp : Plain p.segments) (hq : Plain q.segments)
    (h : p.text = q.text) : p = q := by
  rw [← parse_text hp, ← parse_text hq, h]

/-! ## Normal paths -/

/-- What a text names in a directory with plain segments has plain segments. -/
theorem plain_absolute {base : Path} (plain : Plain base.segments) (s : String) :
    Plain (base.absolute s).segments := by
  refine Plain.normalize ?_
  unfold join
  split
  · exact plain_parse s
  · exact plain_append.mpr ⟨plain, plain_parse s⟩

/-- Resolving leaves no step upward in an absolute path, for there is nothing above the root.  By the segments that
have been gone through, none of which leads up. -/
theorem up_not_mem_normalize {p : Path} (absolute : p.isAbsolute = true) :
    ".." ∉ p.normalize.segments := by
  have fold : ∀ (segments done : List String), ".." ∉ done →
      ".." ∉ segments.foldl (descend true) done := by
    intro segments
    induction segments with
    | nil => exact fun done none => none
    | cons s rest ih =>
        intro done none
        refine ih _ ?_
        unfold descend
        split
        · cases done with
          | nil => exact none
          | cons last above =>
              rw [List.mem_cons, not_or] at none
              have ne : last ≠ ".." := fun eq => none.1 eq.symm
              simpa [ne] using none.2
        · next other =>
            rw [List.mem_cons, not_or]
            exact ⟨fun eq => other eq.symm, none⟩
  rw [normalize, absolute, List.mem_reverse]
  exact fold p.segments [] List.not_mem_nil

/-- Names are gone down one by one. -/
theorem foldl_descend_of_names {absolute : Bool} (segments done : List String) (names : ".." ∉ segments) :
    segments.foldl (descend absolute) done = segments.reverse ++ done := by
  induction segments generalizing done with
  | nil => rfl
  | cons s rest ih =>
      rw [List.mem_cons, not_or] at names
      have step : descend absolute done s = s :: done := if_neg fun eq => names.1 eq.symm
      rw [List.foldl_cons, step, ih _ names.2, List.reverse_cons, List.append_assoc, List.singleton_append]

/-- A path without steps upward is resolved as it is. -/
theorem normalize_eq_self {p : Path} (h : ".." ∉ p.segments) : p.normalize = p := by
  rw [normalize, foldl_descend_of_names p.segments [] h, List.append_nil, List.reverse_reverse]

/-- **The text of a path that was read in an absolute directory names this path everywhere.** -/
theorem absolute_text_absolute {base : Path} (absolute : base.isAbsolute = true) {s : String}
    (plain : Plain (base.absolute s).segments) (other : Path) :
    other.absolute (base.absolute s).text = base.absolute s := by
  have rooted := isAbsolute_absolute absolute s
  rw [absolute_text rooted, parse_text plain]
  exact normalize_eq_self (up_not_mem_normalize rooted)

/-- In a directory with plain segments the condition is met, so that a path may be read over and over again. -/
theorem absolute_absolute {base : Path} (absolute : base.isAbsolute = true)
    (plain : Plain base.segments) (s : String) :
    base.absolute (base.absolute s).text = base.absolute s :=
  absolute_text_absolute absolute (plain_absolute plain s) base

/-! ## Ways from one directory -/

/-- What two lists have in front of what is left of them is the same. -/
theorem exists_dropCommon (base segments : List String) :
    ∃ front, base = front ++ (dropCommon base segments).1 ∧
      segments = front ++ (dropCommon base segments).2 := by
  fun_induction dropCommon base segments with
  | case1 bs s ps ih =>
      obtain ⟨front, left, right⟩ := ih
      exact ⟨s :: front, congrArg (s :: ·) left, congrArg (s :: ·) right⟩
  | case2 => exact ⟨[], rfl, rfl⟩
  | case3 => exact ⟨[], rfl, rfl⟩

/-- **A way leads to one place**, whatever the roots are. -/
theorem segments_eq_of_relativeTo {p q base : Path} (hp : ".." ∉ p.segments) (hq : ".." ∉ q.segments)
    (h : (p.relativeTo base).segments = (q.relativeTo base).segments) : p.segments = q.segments := by
  obtain ⟨front, left, right⟩ := exists_dropCommon base.segments p.segments
  obtain ⟨front', left', right'⟩ := exists_dropCommon base.segments q.segments
  simp only [relativeTo] at h
  generalize dropCommon base.segments p.segments = cut at left right h
  generalize dropCommon base.segments q.segments = cut' at left' right' h
  rw [right] at hp ⊢
  rw [right'] at hq ⊢
  -- The paths themselves have no steps upward, so that those of the ways can be counted.
  have none : cut.2.count ".." = 0 := List.count_eq_zero.mpr fun mem => hp (List.mem_append_right _ mem)
  have none' : cut'.2.count ".." = 0 :=
    List.count_eq_zero.mpr fun mem => hq (List.mem_append_right _ mem)
  have steps : cut.1.length = cut'.1.length := by
    have counts := congrArg (List.count "..") h
    rwa [List.count_append, List.count_append, List.count_replicate_self, List.count_replicate_self, none,
      none'] at counts
  rw [steps] at h
  rw [List.append_cancel_left h, (List.append_inj' (left.symm.trans left') steps).1]

/-- **Paths without steps upward are told apart by the texts of the ways to them**, but for their roots. -/
theorem text_relativeTo_eq_iff {p q : Path} (plain : Plain p.segments) (plain' : Plain q.segments)
    (hp : ".." ∉ p.segments) (hq : ".." ∉ q.segments) (base : Path) :
    (p.relativeTo base).text = (q.relativeTo base).text ↔ p.segments = q.segments := by
  constructor
  · intro same
    have ways := text_inj (plain.relativeTo base) (plain'.relativeTo base) same
    exact segments_eq_of_relativeTo hp hq (congrArg segments ways)
  · intro same
    rw [relativeTo, relativeTo, same]

/-- Plain paths have one text if they have the same segments and the same root. -/
theorem text_eq_iff {p q : Path} (plain : Plain p.segments) (plain' : Plain q.segments) :
    p.text = q.text ↔ p.segments = q.segments ∧ p.root = q.root := by
  constructor
  · intro same
    rw [text_inj plain plain' same]
    exact ⟨rfl, rfl⟩
  · rintro ⟨segments, root⟩
    rw [Path.ext root segments]

/-! ## Directories -/

/-- A text without a slash stands in no directory. -/
theorem directoryOf_of_no_slash {s : String} (h : '/' ∉ s.toList) : directoryOf s = "" := by
  have front : s.toList.reverse.dropWhile (· != '/') = [] := by
    rw [List.dropWhile_eq_nil_iff]
    intro c hc
    simpa using fun eq : c = '/' => h (eq ▸ List.mem_reverse.mp hc)
  simp [directoryOf, front]

/-- The directory of a text is what stands in front of its last slash, provided that this is no slash
itself. -/
theorem directoryOf_append_slash {d x : String} {c : Char} (last : d.toList.getLast? = some c)
    (ne : c ≠ '/') (hx : '/' ∉ x.toList) : directoryOf (d ++ "/" ++ x) = d := by
  have hx' : ∀ a ∈ x.toList.reverse, (a != '/') = true := by
    intro a ha
    simpa using fun eq : a = '/' => hx (eq ▸ List.mem_reverse.mp ha)
  have front : ((d ++ "/" ++ x).toList.reverse.dropWhile (· != '/')).reverse
      = d.toList ++ ['/'] := by
    have text : (d ++ "/" ++ x).toList.reverse
        = x.toList.reverse ++ '/' :: d.toList.reverse := by simp
    rw [text, List.dropWhile_append_of_pos hx', List.dropWhile_cons]
    simp
  have notAll : (d.toList ++ ['/']).all (· == '/') = false := by
    have mem := List.mem_of_getLast? last
    rw [List.all_append, Bool.and_eq_false_iff]
    exact Or.inl (List.all_eq_false.mpr ⟨c, mem, by simpa using ne⟩)
  -- Nothing but the last slash is dropped from the end of the front, for `c` is none.
  have rest : (d.toList ++ ['/']).reverse.dropWhile (· == '/') = d.toList.reverse := by
    rw [List.reverse_append, List.reverse_singleton, List.singleton_append, List.dropWhile_cons]
    rw [← List.head?_reverse] at last
    cases rev : d.toList.reverse with
    | nil => simp
    | cons a as =>
        obtain rfl : a = c := by simpa [rev] using last
        simp [ne]
  rw [directoryOf, front, if_neg (by simp [notAll]), rest]
  simp

/-- **The directory of the text of plain segments** is the text of all but the last one. -/
theorem directoryOf_intercalate {front : List String} {last : String}
    (plain : Plain (front ++ [last])) :
    directoryOf ("/".intercalate (front ++ [last])) = "/".intercalate front := by
  obtain ⟨hfront, hlast⟩ := plain_append.mp plain
  have noSlash := (plain_cons.mp hlast).1.no_slash
  by_cases nil : front = []
  · simpa [nil] using directoryOf_of_no_slash noSlash
  · obtain ⟨c, hc, ne⟩ := hfront.getLast?_intercalate nil
    rw [intercalate_concat nil, directoryOf_append_slash hc ne noSlash]

/-- A slash in the text of plain segments means that there are several. -/
theorem slash_mem_intercalate_concat_iff {front : List String} {last : String}
    (plain : Plain (front ++ [last])) :
    '/' ∈ ("/".intercalate (front ++ [last])).toList ↔ front ≠ [] := by
  have noSlash := (plain_cons.mp (plain_append.mp plain).2).1.no_slash
  by_cases nil : front = []
  · simpa [nil] using noSlash
  · simp [intercalate_concat nil, nil]

/-! ## Entries of one directory -/

/-- A name and anything else lead on to different places. -/
theorem descend_ne {absolute : Bool} {done : List String} {x y : String} (name : x ≠ "..") (ne : x ≠ y) :
    Path.descend absolute done x ≠ Path.descend absolute done y := by
  have left : Path.descend absolute done x = x :: done := if_neg name
  rw [left]
  by_cases up : y = ".."
  · subst up
    unfold Path.descend
    rw [if_pos rfl]
    -- One step up makes the segments fewer, or adds the mark that `x` is not.
    split
    · split <;> simp [name]
    · split
      · simp [name]
      · intro eq
        have := congrArg List.length eq
        simp at this
        omega
  · have right : Path.descend absolute done y = y :: done := if_neg up
    rw [right]
    simp [ne]

/-- Resolving an entry is going one segment further from its directory. -/
theorem normalize_child (p : Path) (x : String) : (p.child x).normalize.segments
    = (Path.descend p.isAbsolute p.normalize.segments.reverse x).reverse := by
  show (List.foldl _ [] (p.segments ++ [x])).reverse = _
  rw [List.foldl_append, normalize, List.reverse_reverse]
  rfl

/-- Two entries of one directory lead to different places, unless the first one leads up. -/
theorem normalize_child_ne (p : Path) {x y : String} (name : x ≠ "..") (ne : x ≠ y) :
    (p.child x).normalize.segments ≠ (p.child y).normalize.segments := by
  rw [normalize_child, normalize_child, Ne, List.reverse_inj]
  exact descend_ne name ne

/-- In an absolute directory an entry is one segment further, and the directory above one less. -/
theorem normalize_child_of_absolute {p : Path} (absolute : p.isAbsolute = true) (x : String) :
    (p.child x).normalize.segments
      = if x = ".." then p.normalize.segments.dropLast else p.normalize.segments ++ [x] := by
  have none := up_not_mem_normalize absolute
  rw [normalize_child, absolute]
  unfold descend
  split
  · rcases List.eq_nil_or_concat' p.normalize.segments with nil | ⟨front, last, eq⟩
    · simp [nil]
    · rw [eq] at none ⊢
      have name : last ≠ ".." := fun up => none (by simp [up])
      simp [name]
  · simp

/-- What is joined to an absolute path is absolute. -/
theorem isAbsolute_join {base : Path} (absolute : base.isAbsolute = true) (p : Path) :
    (base.join p).isAbsolute = true := by
  unfold join
  split
  · assumption
  · exact absolute

/-- An entry of a path that is joined is an entry of the joined path. -/
theorem join_child (base p : Path) (x : String) : base.join (p.child x) = (base.join p).child x := by
  unfold join
  have rooted : (p.child x).isAbsolute = p.isAbsolute := rfl
  rw [rooted]
  split
  · rfl
  · simp [child]

/-- The directory of an entry is the one that it is an entry of. -/
@[simp] theorem parent_child (p : Path) (x : String) : (p.child x).parent = p := by
  simp [parent, child]

/-- A path with segments is an entry of its directory. -/
theorem exists_eq_parent_child {p : Path} (ne : p.segments ≠ []) : ∃ x, p = p.parent.child x := by
  obtain ⟨front, last, eq⟩ := (List.eq_nil_or_concat' p.segments).resolve_left ne
  refine ⟨last, Path.ext rfl ?_⟩
  simp [child, parent, eq]

/-- A path is the innermost one of those on its way. -/
theorem self_mem_ancestry (p : Path) : p ∈ p.ancestry := by
  refine List.mem_map.mpr ⟨p.segments.length, by simp, ?_⟩
  rw [List.take_length]

/-- The way to the directory of a path is on the way to the path. -/
theorem ancestry_parent_subset (p : Path) : p.parent.ancestry ⊆ p.ancestry := by
  intro q mem
  obtain ⟨k, hk, rfl⟩ := List.mem_map.mp mem
  have bound : k < (p.segments.length - 1) + 1 := by simpa [parent] using List.mem_range.mp hk
  refine List.mem_map.mpr ⟨min k (p.segments.length - 1), List.mem_range.mpr (by omega), ?_⟩
  simp [parent, List.dropLast_eq_take, List.take_take]

/-- A path with a name is the entry of this name in its directory. -/
theorem parent_child_name {p : Path} (named : p.name ≠ "") : p.parent.child p.name = p := by
  rcases List.eq_nil_or_concat' p.segments with nil | ⟨front, last, eq⟩
  · exact absurd (by simp [name, nil]) named
  · ext1
    · rfl
    · simp [child, parent, name, eq]

/-! ## Stems -/

/-- What a stem lacks of its name is nothing, or starts with a dot. -/
theorem exists_append_stemOf (name : String) :
    ∃ rest : List Char, name.toList = (stemOf name).toList ++ rest ∧ (rest = [] ∨ rest.head? = some '.') := by
  have cut := List.takeWhile_append_dropWhile (p := (· != '.')) (l := name.toList.reverse)
  unfold stemOf
  dsimp only
  split
  · next front dot =>
      split
      · exact ⟨[], by simp, Or.inl rfl⟩
      · refine ⟨'.' :: (name.toList.reverse.takeWhile (· != '.')).reverse, ?_, Or.inr rfl⟩
        rw [dot] at cut
        have := congrArg List.reverse cut
        simpa using this.symm
  · exact ⟨[], by simp, Or.inl rfl⟩

/-- A stem with something behind it that does not start with a dot is no longer the stem's own name. -/
theorem stemOf_append_ne (name : String) {more : String} (ne : more ≠ "")
    (dot : more.toList.head? ≠ some '.') : stemOf name ++ more ≠ name := by
  intro eq
  obtain ⟨rest, cut, nil | head⟩ := exists_append_stemOf name
  all_goals
    have texts := congrArg String.toList eq
    rw [String.toList_append, cut] at texts
    obtain rfl := List.append_cancel_left texts
  · exact ne (String.toList_eq_nil_iff.mp nil)
  · exact dot head

end CodeAtlas.Path
