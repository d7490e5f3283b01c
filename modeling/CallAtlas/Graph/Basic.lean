/-
# `CallAtlas.Graph.Basic` — call graphs

A call graph holds the declarations of a program's symbols and, for each
symbol, the symbols that it calls, in the order in which the calls were
added.  A symbol is its position among the declarations.

The callers of each symbol are computed once all calls are known.  A new call
makes them out of date, and they are dropped then; a new symbol has no
callers, and they are kept.

An operation that fails midway leaves in the graph what it did before, so
building gives back a graph in every case, beside the result or the error.
-/
import CallAtlas.Graph.Symbol
import CallAtlas.OrderedSet
import CallAtlas.QueryConfig

namespace CallAtlas

/-- Symbol identities in the order of insertion. -/
abbrev IdSet := OrderedSet (fun i : Nat => i)

/-- A call graph. -/
structure CallGraph where
  /-- what tells this graph from all others -/
  number : Nat
  config : QueryConfig
  /-- the declarations, each at the identity of its symbol -/
  decls : Array SymbolDecl
  /-- the symbols that each symbol calls -/
  callees : Array IdSet
  /-- the symbols that call each symbol, if they are up to date -/
  callers : Option (Array IdSet)
  callCount : Nat
  /-- whether a caller query was already made in vain since callers were last computed -/
  callersWarned : Bool
deriving Inhabited

/-- A graph after an operation that may fail, with the result or the error. -/
abbrev BuildResult (α : Type) := CallGraph × Except QueryError α

namespace CallGraph

/-- The graph without symbols. -/
def new (number : Nat) (config : QueryConfig) : CallGraph :=
  ⟨number, config, #[], #[], none, 0, false⟩

/-- The number of symbols. -/
def symbolCount (g : CallGraph) : Nat := g.decls.size

/-- The symbol of an identity, if the graph has it. -/
def symbol? (g : CallGraph) (id : Nat) : Option Symbol :=
  g.decls[id]?.map fun d => { toSymbolDecl := d, id := id }

/-- The failure of an identity that the graph does not have. -/
def unknown (id : Nat) : QueryError := .symbolNotFound (Symbol.idText id)

/-- The symbol of an identity. -/
def symbol (g : CallGraph) (id : Nat) : Except QueryError Symbol :=
  match g.symbol? id with
  | some s => .ok s
  | none => .error (unknown id)

/-- All symbols in the order of their identities. -/
def symbols (g : CallGraph) : List Symbol :=
  (List.range g.symbolCount).filterMap g.symbol?

/-- Whether the callers are up to date. -/
def callersComputed (g : CallGraph) : Bool := g.callers.isSome

/-- The symbols that rows of identities list for an identity. -/
def listed (g : CallGraph) (rows : Array IdSet) (id : Nat) : List Symbol :=
  match rows[id]? with
  | some row => row.toList.filterMap g.symbol?
  | none => []

/-- The symbols that a symbol calls, in the order of the calls. -/
def calleesOf (g : CallGraph) (s : Symbol) : List Symbol := g.listed g.callees s.id

/-- The symbols that call a symbol; none if the callers are not up to date. -/
def callersOf (g : CallGraph) (s : Symbol) : List Symbol :=
  match g.callers with
  | some rows => g.listed rows s.id
  | none => []

/-- Whether one identity calls another. -/
def hasCall (g : CallGraph) (caller callee : Nat) : Bool :=
  match g.callees[caller]? with
  | some row => row.hasKey callee
  | none => false

/-- All calls, by caller and in the order in which each caller's calls were added. -/
def calls (g : CallGraph) : List (Nat × Nat) :=
  (List.range g.callees.size).flatMap fun caller =>
    match g.callees[caller]? with
    | some row => row.toList.map fun callee => (caller, callee)
    | none => []

/-- Adds a symbol; its identity is the number of the symbols before it. -/
def addSymbol (g : CallGraph) (d : SymbolDecl) : CallGraph × Nat :=
  let id := g.symbolCount
  ({ g with
      decls := g.decls.push d
      callees := g.callees.push .empty
      callers := g.callers.map fun rows => rows.push .empty }, id)

/-- Adds symbols one after the other. -/
def addSymbols (g : CallGraph) : List SymbolDecl → CallGraph × List Nat
  | [] => (g, [])
  | d :: ds =>
      let (g, id) := g.addSymbol d
      let (g, ids) := addSymbols g ds
      (g, id :: ids)

/-- Adds a call unless it is there already.  The callee is looked up first. -/
def addCall (g : CallGraph) (caller callee : Nat) : BuildResult Unit :=
  match g.symbol? callee, g.callees[caller]? with
  | none, _ => (g, .error (unknown callee))
  | some _, none => (g, .error (unknown caller))
  | some _, some row =>
      if row.hasKey callee then (g, .ok ())
      else
        ({ g with
            callees := g.callees.modify caller (·.insert callee)
            callers := none
            callCount := g.callCount + 1 }, .ok ())

/-- Adds calls one after the other, up to the first that fails. -/
def addCalls (g : CallGraph) : List (Nat × Nat) → BuildResult Unit
  | [] => (g, .ok ())
  | (caller, callee) :: rest =>
      match g.addCall caller callee with
      | (g, .ok _) => addCalls g rest
      | failed => failed

/-- Enters one caller into the rows of all that it calls. -/
def enterCaller (rows : Array IdSet) (call : Nat × Nat) : Array IdSet :=
  rows.modify call.2 (·.insert call.1)

/-- The callers of each symbol, read off the calls. -/
def callerRows (g : CallGraph) : Array IdSet :=
  g.calls.foldl enterCaller (Array.replicate g.symbolCount .empty)

/-- Computes the callers. -/
def computeCallers (g : CallGraph) : CallGraph :=
  { g with callers := some g.callerRows, callersWarned := false }

/-- The warning that a caller query is in vain. -/
def callersWarning (s : Symbol) : String :=
  "callers of '" ++ s.name ++
    "' requested before compute_callers(); caller queries yield nothing"

/-- The warning names the symbol whose callers were asked for. -/
theorem name_infix_callersWarning (s : Symbol) :
    s.name.toList <:+: (callersWarning s).toList := by
  rw [callersWarning, String.toList_append, String.toList_append]
  exact ⟨_, _, rfl⟩

/-- Notes a caller query: without callers the first one warns, and later ones are silent until
callers are computed again. -/
def noteCallerQuery (g : CallGraph) (s : Symbol) : CallGraph × List String :=
  if g.callers.isNone && !g.callersWarned then
    ({ g with callersWarned := true }, [callersWarning s])
  else (g, [])

/-- Asks for the callers of a symbol: the graph after the query, the callers, and the warnings. -/
def queryCallers (g : CallGraph) (s : Symbol) : CallGraph × List Symbol × List String :=
  let (after, warnings) := g.noteCallerQuery s
  (after, g.callersOf s, warnings)

end CallGraph

end CallAtlas
