/-
# `CallAtlas.Session.Expr` — addresses, targets and predicates as a session states them

An expression names registers and holds patterns as they were written.  Building its
value compiles the patterns and copies what the registers hold at that moment, from
left to right, and fails where the first part fails.
-/
import CallAtlas.Session.Basic

namespace CallAtlas

/-- An address, in writing or in parts. -/
inductive AddressExpr
  | text (s : String)
  | parts (a : Address)
deriving Repr

/-- The address that an expression stands for. -/
def AddressExpr.build : AddressExpr → Except QueryError Address
  | .text s => Address.ofText s
  | .parts a => .ok a

/-- The target of a relationship: a name pattern, or the members of a set. -/
inductive TargetExpr
  | named (pattern : String)
  | members (register : String)
deriving Repr

/-- A predicate. -/
inductive PredicateExpr
  /-- a predicate that needs nothing of the session -/
  | fixed (p : Predicate)
  | and (left right : PredicateExpr)
  | or (left right : PredicateExpr)
  | not (operand : PredicateExpr)
  /-- a copy of a predicate with what it has noted -/
  | copy (register : String)
  | related (relation : Relation) (target : TargetExpr)
  | fieldMatches (field : TextField) (pattern : String)
  | fieldSearch (field : TextField) (pattern : String)
  | pathMatches (place : PathPlace) (pattern : String)
  | address (a : AddressExpr)

/-- A predicate in use: one under a name, which keeps what it notes, or one for this use only. -/
inductive PredicateRef
  | register (name : String)
  | inline (e : PredicateExpr)

/-- An item in use. -/
inductive ItemRef
  | symbol (ref : SymbolRef)
  | path (refs : List SymbolRef)
deriving Repr

/-- The item that a reference stands for. -/
def Session.item (s : Session) : ItemRef → Except SessionError Item
  | .symbol ref => do .ok (.symbol (← s.symbol ref))
  | .path refs => do .ok (.path (← refs.mapM s.symbol))

/-- The predicate under a name. -/
def Session.predicate (s : Session) (name : String) : Except SessionError Predicate :=
  match s.predicates.get? name with
  | some p => .ok p
  | none => .error (.noRegister name)

/-- Puts a predicate under a name. -/
def Session.putPredicate (s : Session) (name : String) (p : Predicate) : Session :=
  { s with predicates := s.predicates.put name p }

namespace Workbench

/-- A session with an empty desk. -/
def ofSession (s : Session) : Workbench := ⟨s, .empty⟩

/-- The target that an expression stands for. -/
def target (w : Workbench) : TargetExpr → Except SessionError Target
  | .named pattern => ofQuery (Target.ofPattern pattern)
  | .members register => do .ok (.ofSet (← w.desk.set register))

/-- The predicate that an expression stands for. -/
def build (w : Workbench) : PredicateExpr → Except SessionError Predicate
  | .fixed p => .ok p
  | .and left right => do
      let l ← w.build left
      let r ← w.build right
      .ok (.and l r)
  | .or left right => do
      let l ← w.build left
      let r ← w.build right
      .ok (.or l r)
  | .not operand => do .ok (.not (← w.build operand))
  | .copy register => w.session.predicate register
  | .related relation target => do .ok (.related relation (← w.target target))
  | .fieldMatches field pattern => ofQuery (Predicate.fieldMatches field pattern)
  | .fieldSearch field pattern => ofQuery (Predicate.fieldSearch field pattern)
  | .pathMatches place pattern => ofQuery (Predicate.pathMatches place pattern)
  | .address a => ofQuery do (← a.build).toPredicate

/-- The predicate that a reference stands for. -/
def predicate (w : Workbench) : PredicateRef → Except SessionError Predicate
  | .register name => w.session.predicate name
  | .inline e => w.build e

/-- Leaves a predicate as it is after its use where it came from. -/
def restore (w : Workbench) (p : Predicate) : PredicateRef → Workbench
  | .register name => { w with session := w.session.putPredicate name p }
  | .inline _ => w

/-- Puts a set of symbols under a name. -/
def putSet (w : Workbench) (name : String) (s : SymbolSet) : Workbench :=
  { w with desk := w.desk.putSet name s }

/-- Puts a set of paths under a name. -/
def putPaths (w : Workbench) (name : String) (s : PathSet) : Workbench :=
  { w with desk := w.desk.putPaths name s }

end Workbench

end CallAtlas
