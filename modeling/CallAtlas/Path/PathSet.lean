/-
# `CallAtlas.Path.PathSet` — sets of call paths

A set of paths keeps the order in which its paths were found or combined, and
every operation on it is determined by that order.  Graph and universe are those of
the set of symbols that the search started from.
-/
import CallAtlas.Path.Search
import CallAtlas.Pattern
import Std.Data.TreeMap.Lemmas

namespace CallAtlas

/-- A set of call paths. -/
structure PathSet where
  graph : CallGraph
  paths : Paths
  /-- the universe of the set of symbols that the search started from -/
  ambient : Option Members
deriving Inhabited

/-- One end of a slice of a path. -/
inductive PathBound
  /-- the beginning or the end of the path -/
  | whole
  /-- a position; a negative one counts from the end -/
  | index (i : Int)
  /-- the first symbol whose name matches -/
  | name (pattern : Regex)

namespace PathBound

/-- The position of a bound in a path, from zero to the length of the path; `whole` is the
position of an open bound. -/
def resolve (bound : PathBound) (p : CallPath) (whole : Nat) : Except QueryError Nat :=
  match bound with
  | .whole => .ok whole
  | .index i => .ok (if i < 0 then p.length - i.natAbs else min i.toNat p.length)
  | .name pattern =>
      match p.symbols.findIdx? fun s => pattern.isMatch s.name with
      | some i => .ok i
      | none => .error (.notFound pattern.source p.text)

end PathBound

namespace PathSet

/-- A set with the graph and the universe of another. -/
def derive (s : PathSet) (paths : Paths) : PathSet := { s with paths := paths }

/-- The paths in their order. -/
def toList (s : PathSet) : List CallPath := s.paths.toList

/-- The number of paths. -/
def size (s : PathSet) : Nat := s.paths.size

/-- Whether there is no path. -/
def isEmpty (s : PathSet) : Bool := s.paths.isEmpty

/-- Whether a path is in the set. -/
def contains (s : PathSet) (p : CallPath) : Bool := s.paths.contains p

/-- Whether a path with these names is in the set. -/
def containsNames (s : PathSet) (names : List String) : Bool := s.toList.any fun p => p.names == names

/-- The paths of `s`, then those of `t` that are new. -/
def union (s t : PathSet) : PathSet := s.derive (s.paths.union t.paths)

/-- The paths of `s` that are in `t`. -/
def inter (s t : PathSet) : PathSet := s.derive (s.paths.inter t.paths)

/-- The paths of `s` that are not in `t`. -/
def diff (s t : PathSet) : PathSet := s.derive (s.paths.diff t.paths)

/-- Whether two sets are of one graph and have the same paths. -/
def equal (s t : PathSet) : Bool := s.graph.number == t.graph.number && s.paths.sameKeys t.paths

/-- Whether a path takes the place of the one kept so far, by their lengths. -/
def supersedes (rule : TieBreak) (length kept : Nat) : Bool :=
  match rule with
  | .firstSeen => length < kept
  | .lastSeen => length ≤ kept

/-- The path to keep after one more path with the same ends. -/
def keepShorter (rule : TieBreak) (p : CallPath) : Option CallPath → CallPath
  | none => p
  | some kept => if supersedes rule p.length kept.length then p else kept

/-- The shortest of some paths, by their ends. -/
def shortest (rule : TieBreak) (ps : List CallPath) : Std.TreeMap (List Nat) CallPath :=
  ps.foldl (fun best p => best.alter p.ends fun kept => some (keepShorter rule p kept)) ∅

/-- The ends of some paths, each once, as they come. -/
def endsOf (ps : List CallPath) : OrderedSet (fun ends : List Nat => ends) :=
  .ofList (ps.map CallPath.ends)

/-- The shortest path between each two ends, in the order in which the ends came first.
A path without symbols has no ends and is left out. -/
def unique (s : PathSet) : PathSet :=
  let ps := s.toList.filter fun p => !p.isEmpty
  let best := shortest s.graph.config.tieBreak ps
  s.derive (.ofList ((endsOf ps).toList.filterMap fun ends => best[ends]?))

/-- The symbols of all paths, as they come. -/
def symbolList (s : PathSet) : List Symbol := s.toList.flatMap (·.symbols)

/-- The set of the symbols of all paths. -/
def symbols (s : PathSet) : SymbolSet := .ofParts s.graph (.ofList s.symbolList) s.ambient

/-- The symbols of all paths whose names match a pattern. -/
def symbolsMatching (s : PathSet) (pattern : String) : Except QueryError SymbolSet := do
  let r ← Pattern.wholeName pattern
  .ok (.ofParts s.graph (.ofList (s.symbolList.filter fun a => r.isMatch a.name)) s.ambient)

/-- The part of a path between two positions; nothing if they are in the wrong order or the
part is empty. -/
def cut (p : CallPath) (first last : Nat) : Option CallPath :=
  if first < last ∧ last ≤ p.length then some ⟨(p.symbols.take last).drop first⟩ else none

/-- The part of a path between two bounds. -/
def slicePath (first last : PathBound) (p : CallPath) : Except QueryError (Option CallPath) := do
  let a ← first.resolve p 0
  let b ← last.resolve p p.length
  .ok (cut p a b)

/-- The parts of all paths between two bounds, empty ones left out.  If a bound is not found
in some path there is no result. -/
def slice (s : PathSet) (first last : PathBound) : Except QueryError PathSet := do
  let parts ← s.toList.mapM (slicePath first last)
  .ok (s.derive (.ofList (parts.filterMap id)))

/-- The set in writing. -/
def text (s : PathSet) : String :=
  "[" ++ String.intercalate ", " (s.toList.map CallPath.text) ++ "]"

end PathSet

namespace SymbolSet

/-- All simple call paths from a member of `s` to a member of `t`. -/
def paths (s t : SymbolSet) : PathSet :=
  let search : Search := ⟨s.graph, t.members, s.graph.config.maxPathLength⟩
  ⟨s.graph, search.pathsFrom s.toList, s.ambient⟩

end SymbolSet

end CallAtlas
