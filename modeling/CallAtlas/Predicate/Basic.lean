/-
# `CallAtlas.Predicate.Basic` — predicates on symbols and paths

A predicate is asked of an item of a graph.  Tests that make sense for one
kind of item only are false of the other kind.  A conjunction or disjunction
always asks both sides, the left one first, since asking leaves traces:

* a target that is a name pattern notes the symbols that it stands for in the
  graph it was last asked about, and looks for them again only when it meets
  another graph;
* asking for callers that are not computed makes the graph warn.

So asking gives back the predicate, the graph and the warnings beside the answer.
-/
import CallAtlas.Address
import CallAtlas.Path.PathSet
import CallAtlas.Predicate.Field
import CallAtlas.SymbolSet.Closure

namespace CallAtlas

/-- A mark of a symbol. -/
inductive Mark
  | isVariable
  | isStatic
  | isDeclaration
deriving Repr, DecidableEq

/-- Whether a symbol has a mark. -/
def Mark.holds : Mark → Symbol → Bool
  | .isVariable, s => s.isVariable
  | .isStatic, s => s.isStatic
  | .isDeclaration, s => s.isDeclaration

/-- Where on a path a symbol with a matching name has to be. -/
inductive PathPlace
  | anywhere
  | start
  | finish
deriving Repr, DecidableEq

/-- Whether a symbol at the place has a matching name. -/
def PathPlace.holds (pattern : Regex) : PathPlace → List Symbol → Bool
  | .anywhere, p => p.any fun s => pattern.isMatch s.name
  | .start, p => p.head?.any fun s => pattern.isMatch s.name
  | .finish, p => p.getLast?.any fun s => pattern.isMatch s.name

/-- What a relationship leads to: fixed symbols of one graph, or all symbols of the graph at
hand whose names match, as they were noted when that graph was met. -/
inductive Target
  | symbols (graph : Nat) (ids : IdSet)
  | named (pattern : Regex) (noted : Option (Nat × IdSet))

namespace Target

/-- The members of a set. -/
def ofSet (s : SymbolSet) : Target := .symbols s.graph.number (.ofList (s.toList.map (·.id)))

/-- The symbols whose names match a pattern, none noted yet. -/
def ofPattern (pattern : String) : Except QueryError Target := do
  .ok (.named (← Pattern.wholeName pattern) none)

/-- The symbols of a graph whose names match. -/
def matching (g : CallGraph) (pattern : Regex) : IdSet :=
  .ofList ((g.symbols.filter fun s => pattern.isMatch s.name).map (·.id))

/-- Notes the symbols of a graph, unless those of this graph are noted already. -/
def note (g : CallGraph) : Target → Target
  | .symbols graph ids => .symbols graph ids
  | .named pattern noted =>
      match noted with
      | some (number, ids) =>
          if number = g.number then .named pattern (some (number, ids))
          else .named pattern (some (g.number, matching g pattern))
      | none => .named pattern (some (g.number, matching g pattern))

/-- Whether a set has one of the symbols that the target stands for in a graph, as noted. -/
def met (g : CallGraph) (image : SymbolSet) : Target → Bool
  | .symbols graph ids => graph == g.number && image.toList.any fun s => ids.hasKey s.id
  | .named _ (some (number, ids)) =>
      number == g.number && image.toList.any fun s => ids.hasKey s.id
  | .named _ none => false

/-- Whether the target stands for symbols of a graph without looking for them. -/
def resolvedFor (g : CallGraph) : Target → Bool
  | .symbols graph _ => graph == g.number
  | .named _ noted => noted.any fun n => n.1 == g.number

end Target

/-- A test of symbols and paths. -/
inductive Predicate
  | const (value : Bool)
  | mark (m : Mark)
  | and (left right : Predicate)
  | or (left right : Predicate)
  | not (operand : Predicate)
  /-- the relation leads from the symbol to the target -/
  | related (relation : Relation) (target : Target)
  /-- the relation leads from the symbol back to it -/
  | relatedToSelf (relation : Relation)
  | field (test : FieldTest)
  /-- the name of a symbol at a place of the path matches -/
  | along (place : PathPlace) (pattern : Regex)

/-- The answer of a predicate, and what asking it leaves. -/
structure Verdict where
  holds : Bool
  predicate : Predicate
  graph : CallGraph
  warnings : List String

namespace Predicate

/-- True of everything. -/
def always : Predicate := .const true

/-- True of nothing. -/
def never : Predicate := .const false

/-- True of variables. -/
def isVariable : Predicate := .mark .isVariable

/-- True of what is not a variable. -/
def isFunction : Predicate := .not isVariable

/-- True of symbols of file-local linkage. -/
def isStatic : Predicate := .mark .isStatic

/-- True of what is not of file-local linkage. -/
def isExternal : Predicate := .not isStatic

/-- True of symbols that are only declared. -/
def isDeclaration : Predicate := .mark .isDeclaration

/-- True of symbols that call themselves. -/
def callsItself : Predicate := .relatedToSelf .callees

/-- True of symbols that reach themselves. -/
def reachesItself : Predicate := .relatedToSelf .transitiveCallees

/-- The field matches a name pattern as a whole. -/
def fieldMatches (f : TextField) (pattern : String) : Except QueryError Predicate := do
  .ok (.field (.matchText f (← Pattern.wholeName pattern)))

/-- Some part of the field matches a pattern. -/
def fieldSearch (f : TextField) (pattern : String) : Except QueryError Predicate := do
  .ok (.field (.matchText f (← Pattern.anywhere pattern)))

/-- The name of a symbol at a place of a path matches a name pattern as a whole. -/
def pathMatches (place : PathPlace) (pattern : String) : Except QueryError Predicate := do
  .ok (.along place (← Pattern.wholeName pattern))

/-- The number is equal to a value. -/
def numberEquals (f : NumberField) (n : Int) : Predicate :=
  .field (.compareNumber f .eq (.value n))

/-- The graph and the warnings after a relation was asked about a symbol. -/
def noteRelation (g : CallGraph) (r : Relation) (s : Symbol) : CallGraph × List String :=
  if r.asksCallers then g.noteCallerQuery s else (g, [])

/-- Asks a predicate of an item of a graph. -/
def eval (g : CallGraph) (item : Item) : Predicate → Verdict
  | .const value => ⟨value, .const value, g, []⟩
  | .mark m =>
      match item with
      | .symbol s => ⟨m.holds s, .mark m, g, []⟩
      | .path _ => ⟨false, .mark m, g, []⟩
  | .and left right =>
      let l := eval g item left
      let r := eval l.graph item right
      ⟨l.holds && r.holds, .and l.predicate r.predicate, r.graph, l.warnings ++ r.warnings⟩
  | .or left right =>
      let l := eval g item left
      let r := eval l.graph item right
      ⟨l.holds || r.holds, .or l.predicate r.predicate, r.graph, l.warnings ++ r.warnings⟩
  | .not operand =>
      let o := eval g item operand
      ⟨!o.holds, .not o.predicate, o.graph, o.warnings⟩
  | .related relation target =>
      match item with
      | .symbol s =>
          let (after, warnings) := noteRelation g relation s
          let image := relation.imageOf g s
          let target := target.note g
          ⟨target.met g image, .related relation target, after, warnings⟩
      | .path _ => ⟨false, .related relation target, g, []⟩
  | .relatedToSelf relation =>
      match item with
      | .symbol s =>
          let (after, warnings) := noteRelation g relation s
          ⟨relation.reachesItself g s, .relatedToSelf relation, after, warnings⟩
      | .path _ => ⟨false, .relatedToSelf relation, g, []⟩
  | .field test => ⟨test.holds item, .field test, g, []⟩
  | .along place pattern =>
      match item with
      | .symbol _ => ⟨false, .along place pattern, g, []⟩
      | .path p => ⟨place.holds pattern p, .along place pattern, g, []⟩

/-- Whether a predicate holds of an item. -/
def holds (g : CallGraph) (item : Item) (p : Predicate) : Bool := (p.eval g item).holds

/-- For each relationship, from left to right, whether its target stands for symbols of the
graph already. -/
def resolvedFor (g : CallGraph) : Predicate → List Bool
  | .and left right => resolvedFor g left ++ resolvedFor g right
  | .or left right => resolvedFor g left ++ resolvedFor g right
  | .not operand => resolvedFor g operand
  | .related _ target => [target.resolvedFor g]
  | _ => []

/-- The items of a list of which a predicate holds, and the predicate after it was asked of
all of them in turn. -/
def keep {α : Type} (g : CallGraph) (item : α → Item) : Predicate → List α → List α × Predicate
  | p, [] => ([], p)
  | p, a :: as =>
      let v := p.eval g (item a)
      let (kept, p) := keep g item v.predicate as
      (if v.holds then a :: kept else kept, p)

end Predicate

namespace SymbolSet

/-- The members of which a predicate holds, and the predicate afterwards.  A set is of a
graph with computed callers, so asking leaves the graph as it is. -/
def filter (s : SymbolSet) (p : Predicate) : SymbolSet × Predicate :=
  let (kept, p) := p.keep s.graph .symbol s.toList
  (s.derive (.ofList kept), p)

end SymbolSet

namespace PathSet

/-- The paths of which a predicate holds, and the predicate afterwards. -/
def filter (s : PathSet) (p : Predicate) : PathSet × Predicate :=
  let (kept, p) := p.keep s.graph (fun path => .path path.symbols) s.toList
  (s.derive (.ofList kept), p)

end PathSet

namespace Address

/-- The parts of an address as predicates: the file, the line and the name, where they are
restricted. -/
def predicates (a : Address) : Except QueryError (List Predicate) := do
  let file ← match a.file with
    | some pattern => do pure [← Predicate.fieldSearch .file pattern]
    | none => pure []
  let line := match a.line with
    | .any => []
    | .exact n => [Predicate.numberEquals .line n]
    | .oneOf ns => [.field (.numberIn .line (ns.map Int.ofNat))]
  let name ← match a.name with
    | some pattern => do pure [← Predicate.fieldMatches .name pattern]
    | none => pure []
  .ok (file ++ line ++ name)

/-- All of some predicates, joined from the left; true of everything if there are none. -/
def conjunction : List Predicate → Predicate
  | [] => .always
  | p :: ps => ps.foldl .and p

/-- The predicate that an address stands for. -/
def toPredicate (a : Address) : Except QueryError Predicate := do
  .ok (conjunction (← a.predicates))

end Address

namespace SymbolSet

/-- The members at an address. -/
def filterByAddress (s : SymbolSet) (a : Address) : Except QueryError SymbolSet := do
  .ok (s.filter (← a.toPredicate)).1

/-- The members whose name matches a pattern; an empty pattern and a star match every name. -/
def filterByName (s : SymbolSet) (pattern : String) : Except QueryError SymbolSet :=
  s.filterByAddress (.named pattern)

/-- The paths to the symbols of the universe of which a predicate holds, and the predicate
afterwards. -/
def pathsWhere (s : SymbolSet) (p : Predicate) : Except QueryError (PathSet × Predicate) := do
  let (targets, p) := (← s.universeSet).filter p
  .ok (s.paths targets, p)

/-- The paths to the symbols of the universe whose name matches a pattern. -/
def pathsToNamed (s : SymbolSet) (pattern : String) : Except QueryError PathSet := do
  let targets ← (← s.universeSet).filterByName pattern
  .ok (s.paths targets)

end SymbolSet

end CallAtlas
