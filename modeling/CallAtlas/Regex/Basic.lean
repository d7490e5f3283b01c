/-
# `CallAtlas.Regex.Basic` — compiled patterns

A compiled pattern keeps the text it was read from beside its expression.
-/
import CallAtlas.Regex.Footprint
import CallAtlas.Regex.Matcher
import CallAtlas.Regex.Parser

namespace CallAtlas

/-- A compiled pattern. -/
structure Regex where
  source : String
  expr : Regex.Expr
deriving Repr

namespace Regex

/-- Compiles a pattern, unless it is malformed or its automaton would be too large. -/
def compile (source : String) : Except SyntaxError Regex := do
  let expr ← parse source.toList
  if expr.shape.fits then .ok ⟨source, expr⟩ else .error .tooLarge

/-- Whether some part of a text matches. -/
def isMatch (r : Regex) (text : String) : Bool := r.expr.isMatch text.toList

end Regex

end CallAtlas
