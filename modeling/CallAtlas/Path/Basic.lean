/-
# `CallAtlas.Path.Basic` — call paths

A call path is a sequence of symbols, the first symbol first; two paths are
one when they visit the same identities.
-/
import CallAtlas.Graph.Basic

namespace CallAtlas

/-- A sequence of symbols. -/
structure CallPath where
  symbols : List Symbol
deriving Repr, DecidableEq, Inhabited

namespace CallPath

/-- The identities along the path. -/
def ids (p : CallPath) : List Nat := p.symbols.map Symbol.id

/-- The number of symbols. -/
def length (p : CallPath) : Nat := p.symbols.length

/-- The names along the path. -/
def names (p : CallPath) : List String := p.symbols.map (·.name)

/-- Where the path starts. -/
def first? (p : CallPath) : Option Symbol := p.symbols.head?

/-- Where the path ends. -/
def last? (p : CallPath) : Option Symbol := p.symbols.getLast?

/-- The identities of both ends, the first one first. -/
def ends (p : CallPath) : List Nat := (p.first?.toList ++ p.last?.toList).map Symbol.id

/-- Whether there is no symbol. -/
def isEmpty (p : CallPath) : Bool := p.symbols.isEmpty

/-- The path in writing: its names between parentheses. -/
def text (p : CallPath) : String := "(" ++ String.intercalate ", " p.names ++ ")"

end CallPath

/-- Paths in the order of insertion, one for each sequence of identities. -/
abbrev Paths := OrderedSet CallPath.ids

end CallAtlas
