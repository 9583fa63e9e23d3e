import CodeAtlas.Tally
import CodeAtlas.Text.Blank

/-!
# Call sites

A call site in a snippet is a name, any white space, and an opening parenthesis.  A name is a letter,
`_` or `$`, followed by letters, digits, `_` and `$`, all of them ASCII.  Comments, strings and scopes
are not looked at, so that the names found only approximate what the snippet calls; the keywords that
a parenthesis may follow are left out.

The scan goes from left to right.  A name takes as many characters as it can; when no parenthesis
follows, none follows a shorter front part of it either, and a name that begins later inside it would
end at the same place, so the scan goes on behind it.
-/

namespace CodeAtlas.CallSites

open CodeAtlas.Text

/-- Characters that a name may start with. -/
def isNameStart (c : Char) : Bool := c.isAlpha || c == '_' || c == '$'

/-- Characters that a name may go on with. -/
def isNamePart (c : Char) : Bool := c.isAlphanum || c == '_' || c == '$'

/-- Whether white space and an opening parenthesis come next. -/
def opensCall (cs : List Char) : Bool := (cs.dropWhile isSpacing).head? == some '('

/-- The called names of a snippet, one for each call site, in order. -/
def scan : List Char → List String
  | [] => []
  | c :: rest =>
    if isNameStart c then
      let tail := rest.dropWhile isNamePart
      let sites := scan tail
      if opensCall tail then String.ofList (c :: rest.takeWhile isNamePart) :: sites else sites
    else scan rest
termination_by cs => cs.length
decreasing_by
  · have := (List.dropWhile_suffix (l := rest) isNamePart).length_le
    simp only [List.length_cons]
    omega
  · simp

/-- Words that a parenthesis follows without a call. -/
def keywords : List String := ["if", "for", "while", "switch", "catch", "function"]

/-- The names that a snippet seems to call, each once, in first-seen order. -/
def calledNames (snippet : String) : List String :=
  distinct ((scan snippet.toList).filter fun n => !keywords.contains n)

end CodeAtlas.CallSites
