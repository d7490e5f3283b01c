/-
# `CallAtlas.Pattern` — name patterns and search patterns

A name pattern must match a whole name: the text is put between an anchored
group's opening and closing before it is compiled.  A search pattern may match
anywhere.  A pattern that does not compile is reported as its author wrote it.
-/
import CallAtlas.QueryError
import CallAtlas.Regex.Basic

namespace CallAtlas.Pattern

/-- The text of a name pattern with its anchors. -/
def anchored (pattern : String) : String := "^(?:" ++ pattern ++ ")$"

/-- Compiles a pattern as `text` and reports it as `pattern`. -/
def compileAs (text pattern : String) : Except QueryError Regex :=
  match Regex.compile text with
  | .ok r => .ok r
  | .error _ => .error (.badPattern pattern)

/-- Compiles a pattern that a whole name must match. -/
def wholeName (pattern : String) : Except QueryError Regex := compileAs (anchored pattern) pattern

/-- Compiles a pattern that some part of a text must match. -/
def anywhere (pattern : String) : Except QueryError Regex := compileAs pattern pattern

end CallAtlas.Pattern
