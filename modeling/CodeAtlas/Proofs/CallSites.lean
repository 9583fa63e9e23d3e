import CodeAtlas.CallSites
import CodeAtlas.Proofs.FirstSeen
import CodeAtlas.Text.Digits
import Mathlib.Data.List.DropRight

/-!
# Which names a snippet calls

A call site is a place in a snippet: a name, white space, and an opening parenthesis, where the name is a whole one
(`CallSites.CalledAfter`).  A name is whole when none of the characters in front of it could belong to it.  Digits may
stand there, for a name does not start with one, but nothing else that a name goes on with.

The scan passes over the snippet once and never looks back.  That it misses no site is a matter of where names end: a
name takes as many characters as it can, so that a name that begins inside another one ends with it, and is not
whole.  `CallSites.exists_sites` says that the scan finds the sites from left to right, by the recursion of the scan,
and `CallSites.calledNames_exact` what this means for the names.
-/

namespace CodeAtlas.CallSites

open CodeAtlas.Text

/-- A name behind a given front is whole: of the characters that a name goes on with, only digits stand at the end of
the front.  What counts are the characters up to the last one that no name has in it, and among these digits are
harmless, for a name cannot have started with one. -/
def EndsWhole (front : List Char) : Prop := ∀ c ∈ front.rtakeWhile isNamePart, c.isDigit = true

/-- A name: a character that starts one, and characters that a name goes on with. -/
def IsName (name : List Char) : Prop :=
  ∃ c rest, name = c :: rest ∧ isNameStart c = true ∧ ∀ d ∈ rest, isNamePart d = true

/-- A whole name stands in a snippet behind a given front, and white space and an opening parenthesis behind it.  This
says nothing about how names are looked for, and is what the scan is measured by. -/
structure CalledAfter (snippet front name : List Char) : Prop where
  isName : IsName name
  /-- White space may stand between the name and the parenthesis, line breaks among it. -/
  opened : ∃ spacing rest, snippet = front ++ (name ++ (spacing ++ '(' :: rest)) ∧
    ∀ c ∈ spacing, isSpacing c = true
  /-- Nothing in front of the name could belong to it. -/
  whole : EndsWhole front

/-! ## Characters -/

/-- A name goes on with what may start one, and with digits. -/
theorem isNamePart_iff {c : Char} : isNamePart c = true ↔ isNameStart c = true ∨ c.isDigit = true := by
  simp only [isNameStart, isNamePart, Char.isAlphanum, Bool.or_eq_true]
  tauto

/-- What starts a name could also stand inside one. -/
theorem isNamePart_of_isNameStart {c : Char} (h : isNameStart c = true) : isNamePart c = true :=
  isNamePart_iff.mpr (.inl h)

/-- The only characters that a name has inside and not in front are digits. -/
theorem isDigit_of_isNamePart {c : Char} (part : isNamePart c = true) (start : isNameStart c = false) :
    c.isDigit = true :=
  (isNamePart_iff.mp part).resolve_left (Bool.not_eq_true _ ▸ start)

/-- Letters by their numbers, for the arithmetic of the classes of characters. -/
theorem isAlpha_iff {c : Char} :
    c.isAlpha = true ↔ (0x41 ≤ c.toNat ∧ c.toNat ≤ 0x5A) ∨ (0x61 ≤ c.toNat ∧ c.toNat ≤ 0x7A) := by
  delta Char.isAlpha Char.isUpper Char.isLower
  simp [UInt32.le_iff_toNat_le]

/-- A name starts with a letter, an underscore or a dollar sign, here by their numbers. -/
theorem isNameStart_iff {c : Char} : isNameStart c = true ↔
    ((0x41 ≤ c.toNat ∧ c.toNat ≤ 0x5A) ∨ (0x61 ≤ c.toNat ∧ c.toNat ≤ 0x7A)) ∨ c.toNat = 0x5F ∨ c.toNat = 0x24 := by
  simp [isNameStart, isAlpha_iff, or_assoc, Char.ext_iff, UInt32.ext_iff]

/-- No digit starts a name. -/
theorem isDigit_eq_false_of_isNameStart {c : Char} (h : isNameStart c = true) : c.isDigit = false := by
  have start := isNameStart_iff.mp h
  rw [← Bool.not_eq_true, isDigit_iff]
  omega

/-- White space ends a name.  The classes are compared by the numbers of their characters, range by range. -/
theorem isNamePart_eq_false_of_isSpacing {c : Char} (h : isSpacing c = true) : isNamePart c = false := by
  simp [isSpacing, isBlank, blankRanges, Ranges.contains] at h
  rw [← Bool.not_eq_true, isNamePart_iff, isNameStart_iff, isDigit_iff]
  omega

/-! ## Whole names -/

/-- What is taken from the end of two pieces: from the second one alone, unless all of it is taken. -/
theorem rtakeWhile_append {β : Type} (p : β → Bool) (xs ys : List β) :
    (xs ++ ys).rtakeWhile p = if ys.all p then xs.rtakeWhile p ++ ys else ys.rtakeWhile p := by
  have all : (ys.reverse.takeWhile p).length = ys.reverse.length ↔ ys.all p = true := by
    rw [(List.takeWhile_prefix p).sublist.length_eq, List.takeWhile_eq_self_iff, List.all_eq_true]
    simp
  rw [List.rtakeWhile, List.reverse_append, List.takeWhile_append]
  by_cases parts : ys.all p = true
  · rw [if_pos (all.mpr parts), if_pos parts, List.reverse_append, List.reverse_reverse, List.rtakeWhile]
  · rw [if_neg fun eq => parts (all.mp eq), if_neg parts, List.rtakeWhile]

/-- A name at the beginning of a snippet is whole. -/
@[simp] theorem endsWhole_nil : EndsWhole [] := by simp [EndsWhole]

/-- What starts no name in front does not keep a name from being whole.  It may be a digit, which is allowed, or a
character that no name has in it, which separates. -/
theorem endsWhole_cons {c : Char} (start : isNameStart c = false) (front : List Char) :
    EndsWhole (c :: front) ↔ EndsWhole front := by
  unfold EndsWhole
  rw [← List.singleton_append, rtakeWhile_append]
  split
  · next parts =>
      rw [List.rtakeWhile_eq_self_iff.mpr (List.all_eq_true.mp parts)]
      by_cases part : isNamePart c = true
      · simp [List.rtakeWhile, part, isDigit_of_isNamePart part start]
      · simp [List.rtakeWhile, part]
  · exact Iff.rfl

/-- Behind a name, a further name is whole iff it is so behind what is between them, and something is.  Without
anything between them the two would be one name, which is why the second one cannot be whole there. -/
theorem endsWhole_append {c : Char} {rest : List Char} (start : isNameStart c = true)
    (parts : ∀ d ∈ rest, isNamePart d = true) (between : List Char) :
    EndsWhole (c :: rest ++ between)
      ↔ between.all isNamePart = false ∧ EndsWhole between := by
  unfold EndsWhole
  rw [rtakeWhile_append]
  by_cases all : between.all isNamePart = true
  · have word : (c :: rest).rtakeWhile isNamePart = c :: rest :=
      List.rtakeWhile_eq_self_iff.mpr (List.forall_mem_cons.mpr ⟨isNamePart_of_isNameStart start, parts⟩)
    simp [all, word, isDigit_eq_false_of_isNameStart start]
  · simp [all]

/-! ## The ends of names -/

/-- Where a name ends is no matter of choice: behind it, white space or the parenthesis is next, and neither of them
is a part of a name. -/
theorem takeWhile_dropWhile_of_opened {name spacing : List Char} (parts : ∀ c ∈ name, isNamePart c = true)
    (blank : ∀ c ∈ spacing, isSpacing c = true) (rest : List Char) :
    (name ++ (spacing ++ '(' :: rest)).takeWhile isNamePart = name ∧
      (name ++ (spacing ++ '(' :: rest)).dropWhile isNamePart = spacing ++ '(' :: rest := by
  have stops : (spacing ++ '(' :: rest).takeWhile isNamePart = [] ∧
      (spacing ++ '(' :: rest).dropWhile isNamePart = spacing ++ '(' :: rest := by
    cases spacing with
    | nil => exact ⟨rfl, rfl⟩
    | cons c more =>
        have stop := isNamePart_eq_false_of_isSpacing (blank c List.mem_cons_self)
        simp [stop]
  rw [List.takeWhile_append_of_pos parts, List.dropWhile_append_of_pos parts, stops.1, stops.2]
  exact ⟨List.append_nil _, rfl⟩

/-- A call opens where white space, if any, and a parenthesis come next. -/
theorem opensCall_iff {cs : List Char} : opensCall cs = true ↔
    ∃ spacing rest, cs = spacing ++ '(' :: rest ∧ ∀ c ∈ spacing, isSpacing c = true := by
  rw [opensCall, beq_iff_eq]
  constructor
  · intro opens
    obtain ⟨rest, eq⟩ := List.head?_eq_some_iff.mp opens
    refine ⟨cs.takeWhile isSpacing, rest, ?_, fun c mem => List.mem_takeWhile_imp mem⟩
    rw [← eq, List.takeWhile_append_dropWhile]
  · rintro ⟨spacing, rest, rfl, blank⟩
    rw [List.dropWhile_append_of_pos blank]
    rfl

/-! ## The scan -/

/-- What starts no name is passed over: no name begins there, and whether a later one is whole does not depend on it.
-/
theorem calledAfter_cons {c : Char} (start : isNameStart c = false) {cs front name : List Char} :
    CalledAfter (c :: cs) front name ↔ ∃ more, front = c :: more ∧ CalledAfter cs more name := by
  constructor
  · rintro ⟨⟨d, parts, rfl, starts, hparts⟩, ⟨spacing, rest, eq, blank⟩, whole⟩
    cases front with
    | nil =>
        obtain ⟨rfl, -⟩ := List.cons.inj eq
        rw [start] at starts
        cases starts
    | cons a more =>
        obtain ⟨rfl, behind⟩ := List.cons.inj eq
        exact ⟨more, rfl, ⟨d, parts, rfl, starts, hparts⟩, ⟨spacing, rest, behind, blank⟩,
          (endsWhole_cons start more).mp whole⟩
  · rintro ⟨more, rfl, isName, ⟨spacing, rest, rfl, blank⟩, whole⟩
    exact ⟨isName, ⟨spacing, rest, rfl, blank⟩, (endsWhole_cons start more).mpr whole⟩

/-- **Where a name starts, this name is called, or what is called stands behind it.**  No name that begins inside is
whole: what stands in front of it goes back to the start of this one, which is no digit.  So the scan may go on behind
the whole name, without looking at what is inside. -/
theorem calledAfter_word {c : Char} (start : isNameStart c = true) {cs front name : List Char} :
    CalledAfter (c :: cs) front name ↔
      (front = [] ∧ name = c :: cs.takeWhile isNamePart ∧ opensCall (cs.dropWhile isNamePart) = true) ∨
        ∃ more, front = c :: cs.takeWhile isNamePart ++ more ∧
          CalledAfter (cs.dropWhile isNamePart) more name := by
  have part := isNamePart_of_isNameStart start
  have parts : ∀ d ∈ cs.takeWhile isNamePart, isNamePart d = true := fun d mem => List.mem_takeWhile_imp mem
  have cut : c :: cs = (c :: cs.takeWhile isNamePart) ++ cs.dropWhile isNamePart := by
    rw [List.cons_append, List.takeWhile_append_dropWhile]
  constructor
  · rintro ⟨⟨d, more, rfl, starts, hmore⟩, ⟨spacing, rest, eq, blank⟩, whole⟩
    have name : ∀ e ∈ d :: more, isNamePart e = true :=
      List.forall_mem_cons.mpr ⟨isNamePart_of_isNameStart starts, hmore⟩
    cases front with
    | nil =>
        obtain ⟨taken, left⟩ := takeWhile_dropWhile_of_opened name blank rest
        rw [List.nil_append] at eq
        rw [← eq, List.takeWhile_cons_of_pos part] at taken
        rw [← eq, List.dropWhile_cons_of_pos part] at left
        exact Or.inl ⟨rfl, taken.symm, opensCall_iff.mpr ⟨spacing, rest, left, blank⟩⟩
    | cons a inside =>
        rw [cut] at eq
        rcases List.append_eq_append_iff.mp eq with ⟨between, front, behind⟩ | ⟨left, word, -⟩
        · rw [front] at whole ⊢
          exact Or.inr ⟨between, rfl, ⟨d, more, rfl, starts, hmore⟩, ⟨spacing, rest, behind, blank⟩,
            ((endsWhole_append start parts between).mp whole).2⟩
        · -- The front ends inside the name that starts here, and nothing but parts of it are behind its start.
          obtain ⟨rfl, taken⟩ := List.cons.inj word
          have inner : ∀ e ∈ inside, isNamePart e = true :=
            fun e mem => parts e (taken ▸ List.mem_append_left _ mem)
          have := ((endsWhole_append start inner []).mp (by rwa [List.append_nil])).1
          simp at this
  · rintro (⟨rfl, rfl, opens⟩ | ⟨more, rfl, ⟨d, word, rfl, starts, hword⟩, ⟨spacing, rest, behind, blank⟩, whole⟩)
    · obtain ⟨spacing, rest, behind, blank⟩ := opensCall_iff.mp opens
      refine ⟨⟨c, _, rfl, start, parts⟩, ⟨spacing, rest, ?_, blank⟩, endsWhole_nil⟩
      rw [List.nil_append, ← behind]
      exact cut
    · refine ⟨⟨d, word, rfl, starts, hword⟩, ⟨spacing, rest, ?_, blank⟩,
        (endsWhole_append start parts more).mpr ⟨?_, whole⟩⟩
      · rw [List.append_assoc, ← behind]
        exact cut
      · -- The character behind the name that starts here is none of its parts.
        have stop := List.head?_dropWhile_not isNamePart cs
        rw [behind] at stop
        cases more with
        | nil =>
            have : isNamePart d = false := stop
            simp [isNamePart_of_isNameStart starts] at this
        | cons e between =>
            have : isNamePart e = false := stop
            simp [this]

/-- Call sites from left to right, each with what stands in front of it and its name.  They are all the sites that
there are, and by their fronts none is listed twice. -/
structure Sites (snippet : List Char) (sites : List (List Char × List Char)) : Prop where
  /-- They are all the call sites that there are. -/
  mem_iff : ∀ front name, (front, name) ∈ sites ↔ CalledAfter snippet front name
  /-- A later one has more in front of it, so that no two are one. -/
  ordered : sites.Pairwise fun s t => s.1.length < t.1.length

namespace Sites

variable {snippet cs : List Char} {sites : List (List Char × List Char)}

/-- There is no call in an empty snippet. -/
theorem nil : Sites [] [] where
  mem_iff := by
    intro front name
    simp only [List.not_mem_nil, false_iff]
    rintro ⟨-, ⟨spacing, rest, eq, -⟩, -⟩
    simp at eq
  ordered := List.Pairwise.nil

/-- The sites of what stands behind a gap, as sites of the whole: the fronts grow by the gap, and stay in order. -/
theorem ordered_behind (h : Sites cs sites) (gap : List Char) :
    (sites.map fun s => (gap ++ s.1, s.2)).Pairwise fun s t => s.1.length < t.1.length := by
  rw [List.pairwise_map]
  exact h.ordered.imp fun before => by simpa using before

/-- And they are the sites whose front begins with the gap. -/
theorem mem_behind_iff (h : Sites cs sites) {gap front name : List Char} :
    (front, name) ∈ sites.map (fun s => (gap ++ s.1, s.2))
      ↔ ∃ more, front = gap ++ more ∧ CalledAfter cs more name := by
  simp only [List.mem_map, Prod.exists, Prod.mk.injEq, h.mem_iff]
  constructor
  · rintro ⟨more, _, called, rfl, rfl⟩
    exact ⟨more, rfl, called⟩
  · rintro ⟨more, rfl, called⟩
    exact ⟨more, name, called, rfl, rfl⟩

/-- The step of the scan over a character that starts no name. -/
theorem cons {c : Char} (start : isNameStart c = false) (h : Sites cs sites) :
    Sites (c :: cs) (sites.map fun s => ([c] ++ s.1, s.2)) where
  mem_iff := fun _ _ => h.mem_behind_iff.trans (calledAfter_cons start).symm
  ordered := h.ordered_behind [c]

/-- The step over a name that nothing opens behind. -/
theorem word {c : Char} (start : isNameStart c = true) (closed : opensCall (cs.dropWhile isNamePart) = false)
    (h : Sites (cs.dropWhile isNamePart) sites) :
    Sites (c :: cs) (sites.map fun s => (c :: cs.takeWhile isNamePart ++ s.1, s.2)) where
  mem_iff := by
    intro front name
    rw [h.mem_behind_iff, calledAfter_word start]
    simp [closed]
  ordered := h.ordered_behind _

/-- The step over a name that is called: it is the first site, with nothing in front of it. -/
theorem call {c : Char} (start : isNameStart c = true) (opens : opensCall (cs.dropWhile isNamePart) = true)
    (h : Sites (cs.dropWhile isNamePart) sites) :
    Sites (c :: cs) (([], c :: cs.takeWhile isNamePart)
      :: sites.map fun s => (c :: cs.takeWhile isNamePart ++ s.1, s.2)) where
  mem_iff := by
    intro front name
    rw [List.mem_cons, h.mem_behind_iff, calledAfter_word start]
    simp [opens]
  ordered := by
    refine List.pairwise_cons.mpr ⟨?_, h.ordered_behind _⟩
    rintro _ mem
    obtain ⟨s, -, rfl⟩ := List.mem_map.mp mem
    simp

end Sites

/-- **The scan finds the call sites** from left to right.  By the recursion of the scan: that what has been found
behind the present place are the `Sites` of what stands there is the invariant, and each branch of the scan has its
step. -/
theorem exists_sites (snippet : List Char) :
    ∃ sites, Sites snippet sites ∧ scan snippet = sites.map fun s => String.ofList s.2 := by
  fun_induction scan snippet with
  | case1 => exact ⟨[], Sites.nil, rfl⟩
  | case2 c rest start tail sites opens ih =>
      obtain ⟨found, hfound, eq⟩ := ih
      refine ⟨_, hfound.call start opens, ?_⟩
      rw [List.map_cons, List.map_map]
      exact congrArg (String.ofList (c :: rest.takeWhile isNamePart) :: ·) eq
  | case3 c rest start tail sites closed ih =>
      obtain ⟨found, hfound, eq⟩ := ih
      refine ⟨_, hfound.word start (by simpa using closed), ?_⟩
      rw [List.map_map]
      exact eq
  | case4 c rest other ih =>
      obtain ⟨found, hfound, eq⟩ := ih
      refine ⟨_, hfound.cons (by simpa using other), ?_⟩
      rw [eq, List.map_map]
      rfl

/-! ## The names -/

/-- What the names that a snippet seems to call have to do with its call sites: which names they are, that each of
them is there once, and in which order. -/
structure ExactNames (snippet : String) (names : List String) : Prop where
  nodup : names.Nodup
  /-- A name is listed iff it is called somewhere and is no keyword. -/
  mem_iff : ∀ n, n ∈ names ↔ n ∉ keywords ∧ ∃ front, CalledAfter snippet.toList front n.toList
  /-- A name stands in front of another one if it is called before the other one is called first. -/
  ordered : names.Pairwise fun m n => ∃ front, CalledAfter snippet.toList front m.toList ∧
    ∀ later, CalledAfter snippet.toList later n.toList → front.length < later.length

/-- **The called names are those of the call sites**, keywords left out, each one once and in the order of their first
sites.  The scan lists the names site by site, and taking the distinct ones keeps the first of each. -/
theorem calledNames_exact (snippet : String) : ExactNames snippet (calledNames snippet) := by
  obtain ⟨sites, hsites, found⟩ := exists_sites snippet.toList
  have mem_scan : ∀ n, n ∈ scan snippet.toList ↔ ∃ front, CalledAfter snippet.toList front n.toList := by
    intro n
    simp only [found, List.mem_map, Prod.exists, hsites.mem_iff]
    constructor
    · rintro ⟨front, name, called, rfl⟩
      exact ⟨front, by simpa using called⟩
    · rintro ⟨front, called⟩
      exact ⟨front, n.toList, called, String.ofList_toList⟩
  refine ⟨nodup_distinct _, fun n => ?_, ?_⟩
  · rw [calledNames, mem_distinct, List.mem_filter, mem_scan, and_comm]
    simp
  · rw [List.pairwise_iff_forall_sublist]
    intro m n pair
    obtain ⟨⟨seen, ⟨rest, cut⟩, mem, new⟩, given⟩ := pair_sublist_distinct_iff.mp pair
    -- What has been seen when `m` is and `n` is not are the names of some first sites, and `n` has none among them.
    rw [found, eq_comm, List.filter_eq_append_iff] at cut
    obtain ⟨_, _, names, rfl, -⟩ := cut
    obtain ⟨first, others, rfl, rfl, -⟩ := List.map_eq_append_iff.mp names
    obtain ⟨⟨front, name⟩, site, rfl⟩ := List.mem_map.mp (List.mem_filter.mp mem).1
    have called := (hsites.mem_iff front name).mp (List.mem_append_left _ site)
    refine ⟨front, by simpa using called, fun later again => ?_⟩
    have second : (later, n.toList) ∈ others := by
      refine (List.mem_append.mp ((hsites.mem_iff _ _).mpr again)).resolve_left fun seen => new ?_
      refine List.mem_filter.mpr ⟨List.mem_map.mpr ⟨_, seen, String.ofList_toList⟩, ?_⟩
      exact (List.mem_filter.mp given).2
    exact (List.pairwise_append.mp hsites.ordered).2.2 _ site _ second

end CodeAtlas.CallSites
