/-
# `CallAtlas.Session.Build` — steps that make and change graphs

Each step answers, or fails, and leaves a session in both cases: what a failing
step did to its graph before it failed stays.
-/
import CallAtlas.Graph.Snapshot
import CallAtlas.Session.Basic

namespace CallAtlas

/-- Where settings come from. -/
inductive ConfigSource
  | standard
  | bounded
  | text (json : String)
  /-- other settings, with a path length and a rule for ties put in -/
  | adjusted (base : ConfigSource) (maxPathLength : Option Nat) (tieBreak : Option TieBreak)
deriving Repr

/-- The settings of a source. -/
def ConfigSource.resolve : ConfigSource → Except QueryError QueryConfig
  | .standard => .ok .standard
  | .bounded => .ok .bounded
  | .text json => QueryConfig.ofText json
  | .adjusted base length tie => do
      let c ← base.resolve
      let c := length.elim c c.withMaxPathLength
      .ok (tie.elim c c.withTieBreak)

/-- A step that makes, changes or looks at a graph. -/
inductive BuildStep
  | new (config : ConfigSource)
  | load (folder : Folder) (names : List String)
  | add (decls : List SymbolDecl)
  /-- symbols under one name with a number after it, each calling the next -/
  | chain (count : Nat) (name : String)
  | call (caller callee : Nat)
  | calls (pairs : List (Nat × Nat))
  | computeCallers
  | includeText (text : String)
  | includeFile (folder : Folder) (name : String)
  | symbol (ref : SymbolRef)
  | calleesOf (ref : SymbolRef)
  | callersOf (ref : SymbolRef)
  | hasCall (caller callee : SymbolRef)
  | sameSymbol (a b : SymbolRef)
  | sameGraph (other : Nat)
  | sameSnapshot (other : Nat)
  | symbols
  | wholeProgram
  | edges
  | config
  | snapshot

/-- What a step answers. -/
inductive BuildAnswer
  | done
  | graph (number : Nat)
  | ids (ids : List Nat)
  | symbol (s : Symbol)
  | symbols (ss : List Symbol)
  | callers (ss : List Symbol) (warnings : List String)
  | hasCall (answer : Bool)
  | same (answer : Bool)
  | edges (calls : List (Nat × Nat))
  | config (c : QueryConfig)
  | snapshot (text : String)

namespace CallGraph

/-- Adds the symbols of a chain from the `i`-th on, each called by the one before it. -/
def addChainFrom (g : CallGraph) (name : String) (i : Nat) (before : Option Nat) : (count : Nat) → CallGraph
  | 0 => g
  | count + 1 =>
      let (g, id) := g.addSymbol ⟨name ++ toString i, "chain.c", i + 1, false, false, false⟩
      let g := before.elim g fun caller => (g.addCall caller id).1
      addChainFrom g name (i + 1) (some id) count

end CallGraph

namespace Session

/-- A step's session and its answer or failure. -/
abbrev Result (α : Type) := Session × Except SessionError α

/-- Changes the graph of a number. -/
def change {α : Type} (s : Session) (number : Nat) (f : CallGraph → BuildResult α)
    (answer : α → BuildAnswer) : Result BuildAnswer :=
  match s.graph number with
  | .error e => (s, .error e)
  | .ok g =>
      match f g with
      | (g, .ok a) => (s.setGraph number g, .ok (answer a))
      | (g, .error e) => (s.setGraph number g, .error (.query e))

/-- Asks the graph of a number. -/
def ask (s : Session) (number : Nat) (f : CallGraph → Except SessionError BuildAnswer) :
    Result BuildAnswer :=
  (s, do f (← s.graph number))

/-- Asks for the callers of a symbol.  The answer has all warnings since the last such step. -/
def askCallers (s : Session) (number : Nat) (ref : SymbolRef) : Result BuildAnswer :=
  match s.graph number, s.symbol ref with
  | .error e, _ => (s, .error e)
  | .ok _, .error e => (s, .error e)
  | .ok g, .ok a =>
      let (g, callers, warnings) := g.queryCallers a
      let s := (s.setGraph number g).warn warnings
      ({ s with warnings := [] }, .ok (.callers callers s.warnings))

/-- One step on the graph of a number. -/
def build (s : Session) (number : Nat) : BuildStep → Result BuildAnswer
  | .new source =>
      match source.resolve with
      | .ok config => (s.addGraph (.new s.nextNumber config), .ok (.graph s.nextNumber))
      | .error e => (s, .error (.query e))
  | .load folder names =>
      match CallGraph.load s.nextNumber folder names with
      | .ok g => (s.addGraph g, .ok (.graph s.nextNumber))
      | .error e => (s, .error (.query e))
  | .add decls =>
      s.change number (fun g => let (g, ids) := g.addSymbols decls; (g, .ok ids)) .ids
  | .chain count name =>
      s.change number (fun g => (g.addChainFrom name 0 none count, .ok ())) fun _ => .done
  | .call caller callee => s.change number (·.addCall caller callee) fun _ => .done
  | .calls pairs => s.change number (·.addCalls pairs) fun _ => .done
  | .computeCallers => s.change number (fun g => (g.computeCallers, .ok ())) fun _ => .done
  | .includeText text => s.change number (·.includeText text) .ids
  | .includeFile folder name => s.change number (·.includeFile folder name) .ids
  | .symbol ref => (s, (s.symbol ref).map .symbol)
  | .calleesOf ref => s.ask number fun g => do .ok (.symbols (g.calleesOf (← s.symbol ref)))
  | .callersOf ref => s.askCallers number ref
  | .hasCall caller callee => s.ask number fun g => do
      let a ← s.symbol caller
      let b ← s.symbol callee
      .ok (.hasCall (g.hasCall a.id b.id))
  | .sameSymbol a b => (s, do
      let a ← s.symbol a
      let b ← s.symbol b
      .ok (.same (a.same b)))
  | .sameGraph other => s.ask number fun g => do
      .ok (.same (g.number == (← s.graph other).number))
  | .sameSnapshot other => s.ask number fun g => do
      .ok (.same (g.toSnapshot == (← s.graph other).toSnapshot))
  | .symbols => s.ask number fun g => .ok (.symbols g.symbols)
  | .wholeProgram => s.ask number fun g => ofQuery (g.wholeProgram.map fun u => .symbols u.toList)
  | .edges => s.ask number fun g => .ok (.edges g.calls)
  | .config => s.ask number fun g => .ok (.config g.config)
  | .snapshot => s.ask number fun g => .ok (.snapshot g.toSnapshot.toText)

end Session

end CallAtlas
