/-
# `CallAtlas.SymbolSet.Closure` — closures of relations between symbols

The reflexive closure of a set grows the set by its image until a round adds
nothing.  Every round but the last adds a symbol of the graph that was not
there, so there are at most as many as the graph has symbols, and one
more.  The other closure starts from the image of the set instead, and so a
member comes back only if it lies on a cycle.
-/
import CallAtlas.SymbolSet.Basic

namespace CallAtlas

namespace SymbolSet

/-- Adds the image of a set to it, again and again until nothing is added, at most `rounds`
times. -/
def grow (relation : SymbolSet → Expansion) : (rounds : Nat) → SymbolSet → SymbolSet
  | 0, closure => closure
  | rounds + 1, closure =>
      let before := closure.size
      let e := relation closure
      let grown := e.source.unionWith e.image
      if grown.size = before then grown else grow relation rounds grown

/-- The smallest set that holds the members and all that the relation makes of it. -/
def reflexiveClosure (relation : SymbolSet → Expansion) (s : SymbolSet) : SymbolSet :=
  grow relation (s.graph.symbolCount + 1) s.clone

/-- All that one or more steps of the relation make of the set. -/
def transitiveClosure (relation : SymbolSet → Expansion) (s : SymbolSet) : Expansion :=
  let seed := relation s
  ⟨reflexiveClosure relation seed.image, seed.source⟩

end SymbolSet

/-- The relations between symbols that calls give rise to. -/
inductive Relation
  /-- what is called -/
  | callees
  /-- what calls -/
  | callers
  /-- what is reached by one or more calls -/
  | transitiveCallees
  /-- what reaches by one or more calls -/
  | transitiveCallers
  /-- the symbol itself, and what it reaches -/
  | reflexiveCallees
  /-- the symbol itself, and what reaches it -/
  | reflexiveCallers
deriving Repr, DecidableEq

namespace Relation

/-- What a relation makes of a set. -/
def apply : Relation → SymbolSet → Expansion
  | .callees, s => s.callees
  | .callers, s => s.callers
  | .transitiveCallees, s => s.transitiveClosure SymbolSet.callees
  | .transitiveCallers, s => s.transitiveClosure SymbolSet.callers
  | .reflexiveCallees, s => ⟨s.reflexiveClosure SymbolSet.callees, s⟩
  | .reflexiveCallers, s => ⟨s.reflexiveClosure SymbolSet.callers, s⟩

/-- Whether a relation goes from a symbol to what calls it. -/
def asksCallers : Relation → Bool
  | .callers | .transitiveCallers | .reflexiveCallers => true
  | .callees | .transitiveCallees | .reflexiveCallees => false

/-- The relation in the other direction. -/
def inverse : Relation → Relation
  | .callees => .callers
  | .callers => .callees
  | .transitiveCallees => .transitiveCallers
  | .transitiveCallers => .transitiveCallees
  | .reflexiveCallees => .reflexiveCallers
  | .reflexiveCallers => .reflexiveCallees

/-- What a relation makes of one symbol. -/
def imageOf (r : Relation) (g : CallGraph) (s : Symbol) : SymbolSet :=
  (r.apply (.probe g s)).image

/-- Whether a relation leads from a symbol back to it. -/
def reachesItself (r : Relation) (g : CallGraph) (s : Symbol) : Bool :=
  (r.imageOf g s).contains s

/-- What several relations make of a set, one applied after the other.  The set keeps the
answers that the first of them leaves. -/
def applyAll : List Relation → SymbolSet → Expansion
  | [], s => ⟨s.clone, s⟩
  | r :: rest, s =>
      let first := r.apply s
      ⟨rest.foldl (fun image r => (r.apply image).image) first.image, first.source⟩

end Relation

end CallAtlas
