/-
# `CallAtlas.Graph.Snapshot` — call graphs as records

A snapshot lists declarations, and calls by positions among them.  A
graph takes in a snapshot by adding its symbols after those it has, and then
the calls between the new ones.
-/
import CallAtlas.Folder
import CallAtlas.Graph.Basic

namespace CallAtlas

/-- A call graph as a record. -/
structure GraphSnapshot where
  symbols : List SymbolDecl
  /-- pairs of caller and callee, as positions among the symbols -/
  calls : List (Nat × Nat)
deriving Repr, DecidableEq, Inhabited

namespace GraphSnapshot

/-- A snapshot from a record; the calls may be left out. -/
def ofJson? (v : Json) : Option GraphSnapshot := do
  match ← v.fields? ["symbols", "calls"] with
  | [symbols, calls] =>
      some {
        symbols := ← Json.required (Json.list? SymbolDecl.ofJson?) symbols
        calls := ←
          Json.optional [] (Json.list? (Json.pair? (Json.nat? QueryConfig.largestIndex))) calls }
  | _ => none

/-- Reads a snapshot from JSON text. -/
def ofText (text : String) : Except QueryError GraphSnapshot :=
  match (Json.parse? text).bind ofJson? with
  | some s => .ok s
  | none => .error (.serialization "Failed to parse graph snapshot")

/-- The snapshot as a record. -/
def toJson (s : GraphSnapshot) : Json :=
  .object [
    (some "symbols", .array (s.symbols.map SymbolDecl.toJson)),
    (some "calls", .array (s.calls.map fun c => .array [.ofNat c.1, .ofNat c.2]))]

/-- The snapshot as JSON text, one item a line. -/
def toText (s : GraphSnapshot) : String := s.toJson.toPretty

end GraphSnapshot

namespace CallGraph

/-- The failure of a call whose position is outside its snapshot. -/
def outside (index : Nat) : QueryError := .symbolNotFound ("snapshot index " ++ toString index)

/-- The identity of a position among new symbols. -/
def resolve (ids : List Nat) (index : Nat) : Except QueryError Nat :=
  match ids[index]? with
  | some id => .ok id
  | none => .error (outside index)

/-- Adds the calls of a snapshot between the symbols with the given identities, up to the
first that fails. -/
def addLocalCalls (g : CallGraph) (ids : List Nat) : List (Nat × Nat) → BuildResult Unit
  | [] => (g, .ok ())
  | (caller, callee) :: rest =>
      match resolve ids caller with
      | .error e => (g, .error e)
      | .ok caller =>
          match resolve ids callee with
          | .error e => (g, .error e)
          | .ok callee =>
              match g.addCall caller callee with
              | (g, .ok _) => addLocalCalls g ids rest
              | failed => failed

/-- Takes in a snapshot; gives the identities of its symbols. -/
def includeSnapshot (g : CallGraph) (s : GraphSnapshot) : BuildResult (List Nat) :=
  let (g, ids) := g.addSymbols s.symbols
  match g.addLocalCalls ids s.calls with
  | (g, .ok _) => (g, .ok ids)
  | (g, .error e) => (g, .error e)

/-- Takes in a snapshot written as JSON text. -/
def includeText (g : CallGraph) (text : String) : BuildResult (List Nat) :=
  match GraphSnapshot.ofText text with
  | .ok s => g.includeSnapshot s
  | .error e => (g, .error e)

/-- Takes in a snapshot from a file. -/
def includeFile (g : CallGraph) (folder : Folder) (name : String) : BuildResult (List Nat) :=
  match folder.read name with
  | .ok text => g.includeText text
  | .error e => (g, .error e)

/-- Takes in snapshots from files, up to the first that fails. -/
def includeFiles (g : CallGraph) (folder : Folder) : List String → Except QueryError CallGraph
  | [] => .ok g
  | name :: rest =>
      match g.includeFile folder name with
      | (g, .ok _) => includeFiles g folder rest
      | (_, .error e) => .error e

/-- A graph from snapshot files, with its callers computed. -/
def load (number : Nat) (folder : Folder) (names : List String) : Except QueryError CallGraph := do
  let g ← (new number .standard).includeFiles folder names
  .ok g.computeCallers

/-- The graph as a snapshot. -/
def toSnapshot (g : CallGraph) : GraphSnapshot := ⟨g.decls.toList, g.calls⟩

end CallGraph

end CallAtlas
