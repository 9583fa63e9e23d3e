import CodeAtlas.Proofs.Records

/-!
# Entities read from their own records

An entity that was read from a record has a record of its own.  Reading this one gives the same entity, with one
exception (`Entity.ofRecord_toJson`): a last line of zero does not count as given, so the first line stands in for it.

The reason is one for each kind of field: what a default has been put in for is not put in again, a text is its own
text, and an integer denotes itself.
-/

namespace CodeAtlas

/-- A value that has stood in for one that is not given needs no other one to stand in for it. -/
theorem Json.orElse_orElse (j other : Json) : (j.orElse other).orElse other = j.orElse other := by
  by_cases given : j.truthy = true
  · have first : j.orElse other = j := if_pos given
    rw [first, first]
  · have second : j.orElse other = other := if_neg given
    rw [second, orElse, ite_self]

namespace Entity

/-- A default for a text is put in once. -/
theorem textOr_str_textOr (default : String) (j : Json) :
    textOr default (.str (textOr default j)) = textOr default j := by
  have text (s : String) : textOr default (.str s) = if s = "" then default else s := by
    by_cases empty : s = "" <;> simp [textOr, Json.truthy, empty]
  rw [text]
  by_cases given : j.truthy = true
  · have shown : j.display ≠ "" := by
      intro empty
      rw [Json.display_eq_empty_iff.mp empty] at given
      cases given
    have first : textOr default j = j.display := if_pos given
    rw [first, if_neg shown]
  · have second : textOr default j = default := if_neg given
    rw [second, ite_self]

/-- Tags that are texts are read as they are. -/
theorem recordTags_strs (tags : List String) : recordTags (.strs tags) = .ok tags := by
  cases tags with
  | nil => rfl
  | cons tag rest => simp [recordTags, Json.strs, Json.truthy, Function.comp_def]

variable {record : Json} {e : Entity}

/-- The record of an entity that was read lacks nothing. -/
theorem ReadFrom.not_lacks_toJson (h : e.ReadFrom record) : ∀ key ∈ requiredFields, ¬ e.toJson.Lacks key := by
  have valid := h.isValid
  obtain ⟨first, last, startLine, -⟩ := h.lines
  simp only [Entity.isValid, Draft.isValid, Bool.and_eq_true] at valid
  obtain ⟨⟨⟨⟨filePath, name⟩, elementType⟩, -⟩, -⟩ := valid
  -- What counts as given is not missing.
  have text {j : Json} (given : j.truthy = true) : isMissing j ≠ true := by
    cases j <;> simp_all [isMissing, Json.truthy]
  intro key required lacks
  have missing := isMissing_getD.mpr lacks
  simp only [requiredFields, List.mem_cons, List.not_mem_nil, or_false] at required
  obtain rfl | rfl | rfl | rfl := required
  · exact text filePath missing
  · exact text name missing
  · exact text elementType missing
  · have line : isMissing e.startLine = true := missing
    rw [startLine] at line
    cases line

/-- **An entity that was read is what its own record says**, with the first line for a last line of zero.  Field by
field, each for the reason given above. -/
theorem ReadFrom.toJson (h : e.ReadFrom record) :
    ReadFrom { e with endLine := e.endLine.orElse e.startLine } e.toJson where
  given := h.not_lacks_toJson
  filePath := rfl
  fileName := by
    have again := textOr_str_textOr (fileNameOf (record.getD "file_path").display) (record.getD "file_name")
    have text := congrArg Json.str again
    rw [← h.fileName, ← h.filePath] at text
    exact text.symm
  lines := by
    obtain ⟨first, last, startLine, endLine, -⟩ := h.lines
    have start : e.toJson.getD "start_line" = .int first := startLine
    have end_ : e.toJson.getD "end_line" = .int last := endLine
    rw [start, end_, startLine, endLine]
    by_cases zero : last = 0
    · exact ⟨first, first, rfl, by simp [zero, Json.orElse, Json.truthy], .int first, by
        simpa [zero, Json.orElse, Json.truthy] using .int first⟩
    · exact ⟨first, last, rfl, by simp [zero, Json.orElse, Json.truthy], .int first, by
        simpa [zero, Json.orElse, Json.truthy] using .int last⟩
  elementType := rfl
  name := rfl
  snippet := by
    have again : e.toJson.getD "code_snippet" = .str (textOr "" (record.getD "code_snippet")) :=
      congrArg (Json.ofOption Json.str) h.snippet
    rw [again, textOr_str_textOr]
    exact h.snippet
  tags := recordTags_strs e.tags
  language := by
    have again : e.toJson.getD "language" = (record.getD "language").orElse .null := h.language
    rw [again, Json.orElse_orElse]
    exact h.language

/-- **Reading an entity's own record.**  The same entity is read, but where its last line is zero, the first line
takes its place; so another entity is read iff the last line is zero and the first one is not.  An entity has one
record to be read from, and what is read is what that record says (`ReadFrom.toJson`). -/
theorem ofRecord_toJson (ok : ofRecord record = .ok e) :
    ofRecord e.toJson = .ok { e with endLine := e.endLine.orElse e.startLine } ∧
      (ofRecord e.toJson = .ok e ↔ (e.endLine = .int 0 → e.startLine = .int 0)) := by
  have read := ofRecord_eq_ok_iff.mp ok
  have again := ofRecord_eq_ok_iff.mpr read.toJson
  obtain ⟨first, last, startLine, endLine, -⟩ := read.lines
  have same : { e with endLine := e.endLine.orElse e.startLine } = e ↔ e.endLine.orElse e.startLine = e.endLine := by
    constructor
    · exact congrArg Entity.endLine
    · intro eq
      rw [eq]
  refine ⟨again, ?_⟩
  rw [again, Except.ok.injEq, same, startLine, endLine, Json.orElse]
  by_cases zero : last = 0
  · simp [zero, Json.truthy]
  · simp [zero, Json.truthy]

/-- The record of a function that ends on a line given as a text. -/
def recordEndingAt (line : String) : Json :=
  .obj [("file_path", .str "a.ts"), ("name", .str "f"), ("element_type", .str "function"), ("start_line", .int 5),
    ("end_line", .str line)]

/-- A last line that is a number above zero is read again. -/
theorem ofRecord_toJson_of_end : ∃ e, ofRecord (recordEndingAt "7") = .ok e ∧
    ofRecord e.toJson = .ok { e with endLine := e.endLine.orElse e.startLine } ∧
      (ofRecord e.toJson = .ok e ↔ (e.endLine = .int 0 → e.startLine = .int 0)) := by
  have reads : (ofRecord (recordEndingAt "7")).toOption.any (fun _ => true) = true := by decide +kernel
  obtain ⟨e, ok, -⟩ := exists_ok_of_any_toOption reads
  exact ⟨e, ok, ofRecord_toJson ok⟩

/-- A last line of zero is not read again. -/
theorem ofRecord_toJson_of_zero : ∃ e, ofRecord (recordEndingAt "0") = .ok e ∧ e.endLine = .int 0 ∧
    ofRecord e.toJson = .ok { e with endLine := .int 5 } ∧ ofRecord e.toJson ≠ .ok e := by
  refine ⟨_, rfl, rfl, rfl, ?_⟩
  intro same
  have lines := congrArg Entity.endLine (Except.ok.inj same)
  cases lines

end Entity

end CodeAtlas
