/-
# `CallAtlas.Session.Basic` — what a session remembers

A session holds graphs, numbered in the order in which they were made, and
predicates under names.  Predicates stay for the whole session, with what
their targets noted.  Sets of symbols and of paths are under names too, but on
a desk that is cleared before the next time that graphs may change.
-/
import CallAtlas.Predicate.Basic

namespace CallAtlas

/-- Values under names. -/
abbrev Registers (α : Type) := List (String × α)

namespace Registers

/-- The value under a name. -/
def get? {α : Type} (rs : Registers α) (name : String) : Option α := rs.lookup name

/-- Puts a value under a name, in the place of the one that was there. -/
def put {α : Type} (rs : Registers α) (name : String) (value : α) : Registers α :=
  (name, value) :: rs.filter fun r => r.1 ≠ name

end Registers

/-- Why a step of a session fails. -/
inductive SessionError
  /-- the query fails -/
  | query (e : QueryError)
  /-- there is nothing under the name -/
  | noRegister (name : String)
  /-- there is no graph of the number -/
  | noGraph (number : Nat)
  /-- there is no path at the position -/
  | noPath (index : Nat)
deriving Repr, DecidableEq

/-- The graphs and predicates of a session. -/
structure Session where
  graphs : Array CallGraph
  predicates : Registers Predicate
  /-- the warnings since they were last asked for -/
  warnings : List String
deriving Inhabited

/-- The sets of a session. -/
structure Desk where
  sets : Registers SymbolSet
  paths : Registers PathSet
deriving Inhabited

/-- A session while its graphs stay as they are, and the sets made of them. -/
structure Workbench where
  session : Session
  desk : Desk
deriving Inhabited

/-- A symbol, by the number of its graph and its identity there. -/
structure SymbolRef where
  graph : Nat
  id : Nat
deriving Repr, DecidableEq

/-- A query as a step of a session. -/
def ofQuery {α : Type} : Except QueryError α → Except SessionError α
  | .ok a => .ok a
  | .error e => .error (.query e)

namespace Session

/-- The session before its first step. -/
def empty : Session := ⟨#[], [], []⟩

/-- The graph of a number. -/
def graph (s : Session) (number : Nat) : Except SessionError CallGraph :=
  match s.graphs[number]? with
  | some g => .ok g
  | none => .error (.noGraph number)

/-- The session with a graph in the place of the one of its number. -/
def setGraph (s : Session) (number : Nat) (g : CallGraph) : Session :=
  { s with graphs := s.graphs.setIfInBounds number g }

/-- The session with a further graph. -/
def addGraph (s : Session) (g : CallGraph) : Session := { s with graphs := s.graphs.push g }

/-- The number of the next graph. -/
def nextNumber (s : Session) : Nat := s.graphs.size

/-- The session with further warnings. -/
def warn (s : Session) (ws : List String) : Session := { s with warnings := s.warnings ++ ws }

/-- The symbol that a reference stands for. -/
def symbol (s : Session) (r : SymbolRef) : Except SessionError Symbol := do
  ofQuery ((← s.graph r.graph).symbol r.id)

end Session

namespace Desk

/-- The desk without sets. -/
def empty : Desk := ⟨[], []⟩

/-- The set under a name. -/
def set (d : Desk) (name : String) : Except SessionError SymbolSet :=
  match d.sets.get? name with
  | some s => .ok s
  | none => .error (.noRegister name)

/-- The set of paths under a name. -/
def pathSet (d : Desk) (name : String) : Except SessionError PathSet :=
  match d.paths.get? name with
  | some s => .ok s
  | none => .error (.noRegister name)

/-- Puts a set under a name. -/
def putSet (d : Desk) (name : String) (s : SymbolSet) : Desk := { d with sets := d.sets.put name s }

/-- Puts a set of paths under a name. -/
def putPaths (d : Desk) (name : String) (s : PathSet) : Desk := { d with paths := d.paths.put name s }

end Desk

end CallAtlas
