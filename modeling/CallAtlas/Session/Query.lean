/-
# `CallAtlas.Session.Query` — steps that make sets and ask about them

A step works on the sets under its names and not on copies: what a set keeps of
its callees and callers, and what a predicate notes of its targets, is there for
the steps after it.  A step that fails leaves all as it was.
-/
import CallAtlas.Dot
import CallAtlas.Session.Expr

namespace CallAtlas

/-- A bound of a slice, its pattern as it was written. -/
inductive BoundExpr
  | whole
  | index (i : Int)
  | name (pattern : String)
deriving Repr

/-- The bound that an expression stands for. -/
def BoundExpr.build : BoundExpr → Except QueryError PathBound
  | .whole => .ok .whole
  | .index i => .ok (.index i)
  | .name pattern => do .ok (.name (← Pattern.wholeName pattern))

/-- What makes a set of symbols; sets go by their names. -/
inductive SetExpr
  | wholeProgram (graph : Nat)
  | clone (x : String)
  | filter (x : String) (p : PredicateRef)
  | byName (x pattern : String)
  | byAddress (x : String) (a : AddressExpr)
  | union (x y : String)
  | inter (x y : String)
  | diff (x y : String)
  | complement (x : String)
  | universeSet (x : String)
  | relate (x : String) (r : Relation)
  /-- the closure of the set under some relations one after the other, kept to what a
  predicate holds of; reflexive or not -/
  | close (x : String) (reflexive : Bool) (via : List Relation) (p : PredicateExpr)
  | ofPaths (x : String)
  | ofPathsMatching (x pattern : String)

/-- What makes a set of paths; sets go by their names. -/
inductive PathExpr
  | between (x y : String)
  | toWhere (x : String) (p : PredicateRef)
  | toNamed (x pattern : String)
  | union (x y : String)
  | inter (x y : String)
  | diff (x y : String)
  | unique (x : String)
  | filter (x : String) (p : PredicateRef)
  | slice (x : String) (first last : BoundExpr)

/-- A change of a set in place. -/
inductive SetChange
  | unionWith (y : String)
  | interWith (y : String)
  | subtract (y : String)
  | sort (cs : List Comparator)
deriving Repr

/-- A question that leaves all as it was. -/
inductive Question
  | intersects (x y : String)
  | equal (x y : String)
  | contains (x : String) (a : SymbolRef)
  | look (x : String)
  | draw (x : String) (style : DotStyle)
  | pathsEqual (x y : String)
  /-- whether a set has the path at a position of another -/
  | pathsContain (x y : String) (index : Nat)
  | pathsContainNames (x : String) (names : List String)
  | lookAtPaths (x : String)
  | resolved (graph : Nat) (p : PredicateRef)
  | text (field : TextField) (item : ItemRef)
  | number (field : NumberField) (item : ItemRef)
  | compare (cs : List Comparator) (a b : ItemRef)

/-- A step that makes sets, changes them or asks. -/
inductive QueryStep
  | makeSet (result : String) (e : SetExpr)
  | makePaths (result : String) (e : PathExpr)
  | change (x : String) (c : SetChange)
  | pop (x : String)
  | define (name : String) (e : PredicateExpr)
  | eval (graph : Nat) (p : PredicateRef) (item : ItemRef)
  | ask (q : Question)

/-- What a step answers. -/
inductive QueryAnswer
  | done
  | set (s : SymbolSet)
  | popped (a : Symbol) (rest : SymbolSet)
  | paths (s : PathSet)
  | truth (b : Bool)
  | truths (bs : List Bool)
  | text (s : Option String)
  | number (n : Option Int)
  | order (o : Ordering)
  | drawing (dot : String)

namespace Relation

/-- Some relations one after the other, as one relation that keeps what a predicate holds of. -/
def composite (via : List Relation) (p : Predicate) (s : SymbolSet) : Expansion :=
  let e := applyAll via s
  ⟨(e.image.filter p).1, e.source⟩

end Relation

namespace Workbench

/-- Makes a set of symbols. -/
def makeSet (w : Workbench) : SetExpr → Except SessionError (Workbench × SymbolSet)
  | .wholeProgram graph => do
      let g ← w.session.graph graph
      .ok (w, ← ofQuery g.wholeProgram)
  | .clone x => do .ok (w, (← w.desk.set x).clone)
  | .filter x ref => do
      let s ← w.desk.set x
      let (kept, p) := s.filter (← w.predicate ref)
      .ok (w.restore p ref, kept)
  | .byName x pattern => do
      let s ← w.desk.set x
      .ok (w, ← ofQuery (s.filterByName pattern))
  | .byAddress x a => do
      let s ← w.desk.set x
      .ok (w, ← ofQuery do s.filterByAddress (← a.build))
  | .union x y => do .ok (w, (← w.desk.set x).union (← w.desk.set y))
  | .inter x y => do .ok (w, (← w.desk.set x).inter (← w.desk.set y))
  | .diff x y => do .ok (w, (← w.desk.set x).diff (← w.desk.set y))
  | .complement x => do
      let s ← w.desk.set x
      .ok (w, ← ofQuery s.complement)
  | .universeSet x => do
      let s ← w.desk.set x
      .ok (w, ← ofQuery s.universeSet)
  | .relate x r => do
      let e := r.apply (← w.desk.set x)
      .ok (w.putSet x e.source, e.image)
  | .close x reflexive via p => do
      let s ← w.desk.set x
      let relation := Relation.composite via (← w.build p)
      if reflexive then .ok (w, s.reflexiveClosure relation)
      else
        let e := s.transitiveClosure relation
        .ok (w.putSet x e.source, e.image)
  | .ofPaths x => do .ok (w, (← w.desk.pathSet x).symbols)
  | .ofPathsMatching x pattern => do
      let s ← w.desk.pathSet x
      .ok (w, ← ofQuery (s.symbolsMatching pattern))

/-- Makes a set of paths. -/
def makePaths (w : Workbench) : PathExpr → Except SessionError (Workbench × PathSet)
  | .between x y => do .ok (w, (← w.desk.set x).paths (← w.desk.set y))
  | .toWhere x ref => do
      let s ← w.desk.set x
      let p ← w.predicate ref
      let (found, p) ← ofQuery (s.pathsWhere p)
      .ok (w.restore p ref, found)
  | .toNamed x pattern => do
      let s ← w.desk.set x
      .ok (w, ← ofQuery (s.pathsToNamed pattern))
  | .union x y => do .ok (w, (← w.desk.pathSet x).union (← w.desk.pathSet y))
  | .inter x y => do .ok (w, (← w.desk.pathSet x).inter (← w.desk.pathSet y))
  | .diff x y => do .ok (w, (← w.desk.pathSet x).diff (← w.desk.pathSet y))
  | .unique x => do .ok (w, (← w.desk.pathSet x).unique)
  | .filter x ref => do
      let s ← w.desk.pathSet x
      let (kept, p) := s.filter (← w.predicate ref)
      .ok (w.restore p ref, kept)
  | .slice x first last => do
      let s ← w.desk.pathSet x
      let first ← ofQuery first.build
      let last ← ofQuery last.build
      .ok (w, ← ofQuery (s.slice first last))

/-- A set after a change in place. -/
def changed (w : Workbench) (s : SymbolSet) : SetChange → Except SessionError SymbolSet
  | .unionWith y => do .ok (s.unionWith (← w.desk.set y))
  | .interWith y => do .ok (s.interWith (← w.desk.set y))
  | .subtract y => do .ok (s.subtract (← w.desk.set y))
  | .sort cs => .ok (s.sort cs)

/-- Answers a question. -/
def answer (w : Workbench) : Question → Except SessionError QueryAnswer
  | .intersects x y => do .ok (.truth ((← w.desk.set x).intersects (← w.desk.set y)))
  | .equal x y => do .ok (.truth ((← w.desk.set x).equal (← w.desk.set y)))
  | .contains x a => do
      let s ← w.desk.set x
      .ok (.truth (s.contains (← w.session.symbol a)))
  | .look x => do .ok (.set (← w.desk.set x))
  | .draw x style => do .ok (.drawing (Dot.draw style (← w.desk.set x)))
  | .pathsEqual x y => do .ok (.truth ((← w.desk.pathSet x).equal (← w.desk.pathSet y)))
  | .pathsContain x y index => do
      let s ← w.desk.pathSet x
      match (← w.desk.pathSet y).toList[index]? with
      | some p => .ok (.truth (s.contains p))
      | none => .error (.noPath index)
  | .pathsContainNames x names => do .ok (.truth ((← w.desk.pathSet x).containsNames names))
  | .lookAtPaths x => do .ok (.paths (← w.desk.pathSet x))
  | .resolved graph ref => do
      let g ← w.session.graph graph
      .ok (.truths ((← w.predicate ref).resolvedFor g))
  | .text field item => do .ok (.text (field.get (← w.session.item item)))
  | .number field item => do .ok (.number (field.get (← w.session.item item)))
  | .compare cs a b => do
      let a ← w.session.item a
      let b ← w.session.item b
      .ok (.order (Comparator.compareChain cs a b))

/-- Asks a predicate of an item.  The predicate, the graph and the warnings stay as the
question leaves them. -/
def evalPredicate (w : Workbench) (graph : Nat) (ref : PredicateRef) (item : ItemRef) :
    Except SessionError (Workbench × Bool) := do
  let g ← w.session.graph graph
  let p ← w.predicate ref
  let v := p.eval g (← w.session.item item)
  let w := w.restore v.predicate ref
  .ok ({ w with session := (w.session.setGraph graph v.graph).warn v.warnings }, v.holds)

/-- One step: the workbench after it, and its answer. -/
def query (w : Workbench) : QueryStep → Except SessionError (Workbench × QueryAnswer)
  | .makeSet result e => do
      let (w, s) ← w.makeSet e
      .ok (w.putSet result s, .set s)
  | .makePaths result e => do
      let (w, s) ← w.makePaths e
      .ok (w.putPaths result s, .paths s)
  | .change x c => do
      let s ← w.changed (← w.desk.set x) c
      .ok (w.putSet x s, .set s)
  | .pop x => do
      let s ← w.desk.set x
      let (a, rest) ← ofQuery s.pop
      .ok (w.putSet x rest, .popped a rest)
  | .define name e => do
      let p ← w.build e
      .ok ({ w with session := w.session.putPredicate name p }, .done)
  | .eval graph ref item => do
      let (w, b) ← w.evalPredicate graph ref item
      .ok (w, .truth b)
  | .ask q => do .ok (w, ← w.answer q)

end Workbench

end CallAtlas
