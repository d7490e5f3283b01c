/-
# `CallAtlas.Listing` — sets in writing

A set of symbols is written by the names of its members between braces; with
quotes around the names, and a word on the universe, for those who look for
what is hidden in a name.
-/
import CallAtlas.Path.PathSet
import CallAtlas.Text.Quoted

namespace CallAtlas

/-- Names between quotes, as a list in brackets. -/
def quotedList (names : List String) : String :=
  "[" ++ String.intercalate ", " (names.map Text.quoted) ++ "]"

/-- A set of symbols by the names of its members. -/
def SymbolSet.text (s : SymbolSet) : String := "\x7b" ++ String.intercalate ", " s.names ++ "\x7d"

/-- A set of symbols with quoted names. -/
def SymbolSet.quotedText (s : SymbolSet) : String :=
  "SymbolSet \x7b members: " ++ quotedList s.names ++ ", has_universe: " ++
    (if s.hasUniverse then "true" else "false") ++ " \x7d"

/-- A set of paths with quoted names. -/
def PathSet.quotedText (s : PathSet) : String :=
  "[" ++ String.intercalate ", " (s.toList.map fun p => quotedList p.names) ++ "]"

end CallAtlas
