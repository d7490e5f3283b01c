/-
# `CallAtlas.SymbolSet.Basic` — sets of symbols

A set of symbols belongs to a graph, keeps its members in the order of
insertion, and carries the universe of the sets it was made from.  Sets of two
graphs may be combined: members count as one when their identities agree, the
left operand's member is kept, and graph and universe are those of the left
operand.

The callees and the callers of a set are computed on first use and kept in the
set.  What is kept answers for the members, so every operation that changes
them in place drops it; one that leaves their number as it was changed none.
Sorting keeps it, and so a later answer may come in an earlier order.  A
copy of a set starts without it.
-/
import CallAtlas.Graph.Basic

namespace CallAtlas

/-- Symbols in the order of insertion, one for each identity. -/
abbrev Members := OrderedSet Symbol.id

/-- A set of symbols. -/
structure SymbolSet where
  graph : CallGraph
  members : Members
  /-- the universe: the members of the whole program that the set was made from -/
  ambient : Option Members
  /-- the callees of the members, once asked for -/
  calleesCache : Option Members
  /-- the callers of the members, once asked for -/
  callersCache : Option Members
deriving Inhabited

namespace SymbolSet

/-- A set without kept answers. -/
def ofParts (graph : CallGraph) (members : Members) (ambient : Option Members) : SymbolSet :=
  ⟨graph, members, ambient, none, none⟩

/-- All symbols of a graph, with themselves as the universe. -/
def whole (g : CallGraph) : SymbolSet :=
  let members : Members := .ofList g.symbols
  ofParts g members (some members)

/-- The set of one symbol, without a universe, for asking what a relation makes of it. -/
def probe (g : CallGraph) (s : Symbol) : SymbolSet := ofParts g (.ofList [s]) none

/-- A set with the graph and the universe of another. -/
def derive (s : SymbolSet) (members : Members) : SymbolSet := ofParts s.graph members s.ambient

/-- A copy, without kept answers. -/
def clone (s : SymbolSet) : SymbolSet := s.derive s.members

/-- The members in their order. -/
def toList (s : SymbolSet) : List Symbol := s.members.toList

/-- The number of members. -/
def size (s : SymbolSet) : Nat := s.members.size

/-- Whether there is no member. -/
def isEmpty (s : SymbolSet) : Bool := s.members.isEmpty

/-- Whether a symbol is a member. -/
def contains (s : SymbolSet) (a : Symbol) : Bool := s.members.contains a

/-- The names of the members. -/
def names (s : SymbolSet) : List String := s.toList.map (·.name)

/-- Whether the set has a universe. -/
def hasUniverse (s : SymbolSet) : Bool := s.ambient.isSome

/-- The universe as a set. -/
def universeSet (s : SymbolSet) : Except QueryError SymbolSet :=
  match s.ambient with
  | some u => .ok (s.derive u)
  | none => .error (.missingUniverse "resolve the universe")

/-- The members of `s`, then those of `t` that are new. -/
def union (s t : SymbolSet) : SymbolSet := s.derive (s.members.union t.members)

/-- The members of `s` that are in `t`. -/
def inter (s t : SymbolSet) : SymbolSet := s.derive (s.members.inter t.members)

/-- The members of `s` that are not in `t`. -/
def diff (s t : SymbolSet) : SymbolSet := s.derive (s.members.diff t.members)

/-- The members of the universe that are not in the set. -/
def complement (s : SymbolSet) : Except QueryError SymbolSet :=
  match s.ambient with
  | some u => .ok (s.derive (u.diff s.members))
  | none => .error .invalidComplement

/-- Whether two sets share a member. -/
def intersects (s t : SymbolSet) : Bool := s.members.intersects t.members

/-- Whether two sets are of one graph and have the same members. -/
def equal (s t : SymbolSet) : Bool :=
  s.graph.number == t.graph.number && s.members.sameKeys t.members

/-- The set with other members in place.  Kept answers are dropped if the number of
members changed. -/
def replace (s : SymbolSet) (members : Members) : SymbolSet :=
  if members.size = s.members.size then { s with members := members }
  else { s with members := members, calleesCache := none, callersCache := none }

/-- Adds the members of `t` in place. -/
def unionWith (s t : SymbolSet) : SymbolSet := s.replace (s.members.extend t.toList)

/-- Keeps the members that are in `t`, in place. -/
def interWith (s t : SymbolSet) : SymbolSet := s.replace (s.members.retain t.contains)

/-- Removes the members that are in `t`, in place. -/
def subtract (s t : SymbolSet) : SymbolSet :=
  s.replace (s.members.retain fun a => !t.contains a)

/-- Removes the last member in place. -/
def pop (s : SymbolSet) : Except QueryError (Symbol × SymbolSet) :=
  match s.members.pop? with
  | some (a, rest) =>
      .ok (a, { s with members := rest, calleesCache := none, callersCache := none })
  | none => .error (.emptyCollection "pop")

/-- Sorts the members in place by a comparison; members that it does not tell apart keep
their order.  Kept answers stay. -/
def sortBy (cmp : Symbol → Symbol → Ordering) (s : SymbolSet) : SymbolSet :=
  { s with members := s.members.sort fun a b => cmp a b != .gt }

/-- The callees of the members, as they are now. -/
def freshCallees (s : SymbolSet) : Members := .ofList (s.toList.flatMap s.graph.calleesOf)

/-- The callers of the members, as they are now. -/
def freshCallers (s : SymbolSet) : Members := .ofList (s.toList.flatMap s.graph.callersOf)

end SymbolSet

/-- What a relation makes of a set, and the set with the answers that were kept on the way. -/
structure Expansion where
  image : SymbolSet
  source : SymbolSet

namespace SymbolSet

/-- The symbols that some member calls. -/
def callees (s : SymbolSet) : Expansion :=
  match s.calleesCache with
  | some kept => ⟨s.derive kept, s⟩
  | none =>
      let fresh := s.freshCallees
      ⟨s.derive fresh, { s with calleesCache := some fresh }⟩

/-- The symbols that call some member. -/
def callers (s : SymbolSet) : Expansion :=
  match s.callersCache with
  | some kept => ⟨s.derive kept, s⟩
  | none =>
      let fresh := s.freshCallers
      ⟨s.derive fresh, { s with callersCache := some fresh }⟩

end SymbolSet

namespace CallGraph

/-- All symbols of a graph whose callers are computed. -/
def wholeProgram (g : CallGraph) : Except QueryError SymbolSet :=
  if g.callersComputed then .ok (.whole g) else .error .callersNotComputed

end CallGraph

end CallAtlas
