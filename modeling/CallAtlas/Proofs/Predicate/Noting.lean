/-
# `CallAtlas.Proofs.Predicate.Noting` — what asking leaves, and what it does not change

Asking a predicate leaves two things behind.  The graph may have warned about a
question for callers, and nothing that a predicate looks at depends on whether it
has (`eval_withWarned`).  The predicate asked of a symbol has noted, at each of its
targets, the symbols of the graph; that is done at all targets whatever the
operands answer, because both sides of a connective are always asked
(`predicate_eval_symbol`).  Asked of a path it has noted nothing
(`predicate_eval_path`).

What is noted for a graph is not noted again, so within one graph asking does not
change what is answered later, and a filter amounts to one test of the items
(`keep_eq_filter_holds`).
-/
import CallAtlas.Proofs.Predicate.Filter

namespace CallAtlas

/-! ## Graphs that have warned -/

namespace CallGraph

/-- The graph as it is, except for whether it has warned about a question for callers. -/
def withWarned (g : CallGraph) (b : Bool) : CallGraph := { g with callersWarned := b }

theorem exists_noteCallerQuery (g : CallGraph) (a : Symbol) :
    ∃ b, (g.noteCallerQuery a).1 = g.withWarned b := by
  unfold noteCallerQuery
  split
  · exact ⟨true, rfl⟩
  · exact ⟨g.callersWarned, rfl⟩

end CallGraph

namespace SymbolSet

/-- The set as it is, except for whether its graph has warned. -/
def withWarned (s : SymbolSet) (b : Bool) : SymbolSet := { s with graph := s.graph.withWarned b }

end SymbolSet

/-- What a relation makes of a set, except for whether the graph has warned. -/
def Expansion.withWarned (e : Expansion) (b : Bool) : Expansion :=
  ⟨e.image.withWarned b, e.source.withWarned b⟩

namespace SymbolSet

theorem callees_withWarned (s : SymbolSet) (b : Bool) :
    (s.withWarned b).callees = s.callees.withWarned b := by
  obtain ⟨g, members, ambient, kept, callers⟩ := s
  cases kept <;> rfl

theorem callers_withWarned (s : SymbolSet) (b : Bool) :
    (s.withWarned b).callers = s.callers.withWarned b := by
  obtain ⟨g, members, ambient, callees, kept⟩ := s
  cases kept <;> rfl

theorem unionWith_withWarned (s t : SymbolSet) (b : Bool) :
    (s.withWarned b).unionWith (t.withWarned b) = (s.unionWith t).withWarned b := by
  show (s.withWarned b).replace (s.members.extend t.toList) =
    (s.replace (s.members.extend t.toList)).withWarned b
  unfold replace withWarned
  split <;> rfl

section Closure

variable {relation : SymbolSet → Expansion} {b : Bool}
variable (hrelation : ∀ s, relation (s.withWarned b) = (relation s).withWarned b)
include hrelation

theorem grow_withWarned (rounds : Nat) (s : SymbolSet) :
    grow relation rounds (s.withWarned b) = (grow relation rounds s).withWarned b := by
  induction rounds generalizing s with
  | zero => rfl
  | succ rounds ih =>
    have hgrown : (relation (s.withWarned b)).source.unionWith (relation (s.withWarned b)).image =
        ((relation s).source.unionWith (relation s).image).withWarned b := by
      rw [hrelation]
      exact unionWith_withWarned (relation s).source (relation s).image b
    have hsize : ∀ t : SymbolSet, (t.withWarned b).size = t.size := fun _ => rfl
    simp only [grow, hgrown, hsize]
    split
    · rfl
    · exact ih _

theorem reflexiveClosure_withWarned (s : SymbolSet) :
    (s.withWarned b).reflexiveClosure relation = (s.reflexiveClosure relation).withWarned b :=
  grow_withWarned hrelation (s.graph.symbolCount + 1) s.clone

theorem transitiveClosure_withWarned (s : SymbolSet) :
    (s.withWarned b).transitiveClosure relation =
      (s.transitiveClosure relation).withWarned b := by
  unfold transitiveClosure
  rw [hrelation]
  exact congrArg (Expansion.mk · ((relation s).source.withWarned b))
    (reflexiveClosure_withWarned hrelation (relation s).image)

end Closure

end SymbolSet

namespace Relation

theorem apply_withWarned (r : Relation) (s : SymbolSet) (b : Bool) :
    r.apply (s.withWarned b) = (r.apply s).withWarned b := by
  have hcallees := fun t : SymbolSet => t.callees_withWarned b
  have hcallers := fun t : SymbolSet => t.callers_withWarned b
  cases r with
  | callees => exact hcallees s
  | callers => exact hcallers s
  | transitiveCallees => exact SymbolSet.transitiveClosure_withWarned hcallees s
  | transitiveCallers => exact SymbolSet.transitiveClosure_withWarned hcallers s
  | reflexiveCallees =>
    simp only [apply, SymbolSet.reflexiveClosure_withWarned hcallees s, Expansion.withWarned]
  | reflexiveCallers =>
    simp only [apply, SymbolSet.reflexiveClosure_withWarned hcallers s, Expansion.withWarned]

/-- What a relation makes of a symbol does not depend on whether the graph has warned. -/
theorem members_imageOf_withWarned (r : Relation) (g : CallGraph) (a : Symbol) (b : Bool) :
    (r.imageOf (g.withWarned b) a).members = (r.imageOf g a).members :=
  congrArg (fun e => e.image.members) (r.apply_withWarned (.probe g a) b)

end Relation

namespace Target

/-- Which symbols are met is known from the members of the image. -/
theorem met_withWarned (t : Target) (g : CallGraph) (b : Bool) {image image' : SymbolSet}
    (h : image'.members = image.members) : t.met (g.withWarned b) image' = t.met g image := by
  have hlist : image'.toList = image.toList := congrArg OrderedSet.toList h
  cases t with
  | symbols n ids =>
    unfold met
    rw [hlist]
    rfl
  | named r noted =>
    unfold met
    rw [hlist]
    rfl

theorem note_note (g : CallGraph) (t : Target) : (t.note g).note g = t.note g := by
  cases t with
  | symbols n ids => rfl
  | named r noted =>
    cases noted with
    | none => simp [note]
    | some kept =>
      by_cases h : kept.1 = g.number
      · simp [note, h]
      · simp [note, h]

end Target

namespace Predicate

/-! ## Targets -/

/-- The targets of all relationships in a predicate, from left to right. -/
def targets : Predicate → List Target
  | .and left right => targets left ++ targets right
  | .or left right => targets left ++ targets right
  | .not operand => targets operand
  | .related _ target => [target]
  | _ => []

/-- The predicate with other targets. -/
def mapTargets (f : Target → Target) : Predicate → Predicate
  | .and left right => .and (mapTargets f left) (mapTargets f right)
  | .or left right => .or (mapTargets f left) (mapTargets f right)
  | .not operand => .not (mapTargets f operand)
  | .related relation target => .related relation (f target)
  | p => p

theorem resolvedFor_eq (g : CallGraph) (p : Predicate) :
    p.resolvedFor g = p.targets.map (Target.resolvedFor g) := by
  induction p with
  | and p q ihp ihq => rw [resolvedFor, targets, List.map_append, ihp, ihq]
  | or p q ihp ihq => rw [resolvedFor, targets, List.map_append, ihp, ihq]
  | not p ih => exact ih
  | _ => rfl

theorem targets_mapTargets (f : Target → Target) (p : Predicate) :
    (p.mapTargets f).targets = p.targets.map f := by
  induction p with
  | and p q ihp ihq => rw [mapTargets, targets, targets, List.map_append, ihp, ihq]
  | or p q ihp ihq => rw [mapTargets, targets, targets, List.map_append, ihp, ihq]
  | not p ih => exact ih
  | _ => rfl

theorem mapTargets_mapTargets (f h : Target → Target) (p : Predicate) :
    (p.mapTargets f).mapTargets h = p.mapTargets fun t => h (f t) := by
  induction p with
  | and p q ihp ihq => simp only [mapTargets, ihp, ihq]
  | or p q ihp ihq => simp only [mapTargets, ihp, ihq]
  | not p ih => simp only [mapTargets, ih]
  | _ => rfl

theorem mapTargets_congr {f h : Target → Target} {p : Predicate} (heq : ∀ t ∈ p.targets, f t = h t) :
    p.mapTargets f = p.mapTargets h := by
  induction p with
  | and p q ihp ihq =>
    rw [mapTargets, mapTargets, ihp fun t ht => heq t (List.mem_append_left _ ht),
      ihq fun t ht => heq t (List.mem_append_right _ ht)]
  | or p q ihp ihq =>
    rw [mapTargets, mapTargets, ihp fun t ht => heq t (List.mem_append_left _ ht),
      ihq fun t ht => heq t (List.mem_append_right _ ht)]
  | not p ih => exact congrArg Predicate.not (ih heq)
  | related relation t => exact congrArg _ (heq t List.mem_cons_self)
  | _ => rfl

/-! ## Answers -/

theorem exists_noteRelation (g : CallGraph) (r : Relation) (a : Symbol) :
    ∃ b, (noteRelation g r a).1 = g.withWarned b := by
  unfold noteRelation
  split
  · exact g.exists_noteCallerQuery a
  · exact ⟨g.callersWarned, rfl⟩

/-- All that asking does to a graph is that it may have warned. -/
theorem exists_graph_eval (g : CallGraph) (item : Item) (p : Predicate) :
    ∃ b, (p.eval g item).graph = g.withWarned b := by
  have hboth : ∀ {p q : Predicate}, (∀ g, ∃ b, (p.eval g item).graph = CallGraph.withWarned g b) →
      (∀ g, ∃ b, (q.eval g item).graph = CallGraph.withWarned g b) → ∀ g,
        ∃ b, (q.eval (p.eval g item).graph item).graph = CallGraph.withWarned g b := by
    intro p q ihp ihq g
    obtain ⟨b, hleft⟩ := ihp g
    obtain ⟨c, hright⟩ := ihq (g.withWarned b)
    exact ⟨c, by rw [hleft, hright]; rfl⟩
  induction p generalizing g with
  | and p q ihp ihq => exact hboth ihp ihq g
  | or p q ihp ihq => exact hboth ihp ihq g
  | not p ih => exact ih g
  | related relation t =>
    cases item with
    | symbol a => exact exists_noteRelation g relation a
    | path path => exact ⟨g.callersWarned, rfl⟩
  | relatedToSelf relation =>
    cases item with
    | symbol a => exact exists_noteRelation g relation a
    | path path => exact ⟨g.callersWarned, rfl⟩
  | _ => cases item <;> exact ⟨g.callersWarned, rfl⟩

/-- Whether the graph has warned changes neither the answer nor what is noted. -/
theorem eval_withWarned (g : CallGraph) (item : Item) (p : Predicate) (b : Bool) :
    (p.eval (g.withWarned b) item).holds = (p.eval g item).holds ∧
      (p.eval (g.withWarned b) item).predicate = (p.eval g item).predicate := by
  have hright : ∀ {p q : Predicate} (g : CallGraph) (b : Bool),
      (∀ g b, (q.eval (CallGraph.withWarned g b) item).holds = (q.eval g item).holds ∧
        (q.eval (CallGraph.withWarned g b) item).predicate = (q.eval g item).predicate) →
      (q.eval (p.eval (g.withWarned b) item).graph item).holds =
          (q.eval (p.eval g item).graph item).holds ∧
        (q.eval (p.eval (g.withWarned b) item).graph item).predicate =
          (q.eval (p.eval g item).graph item).predicate := by
    intro p q g b ihq
    obtain ⟨c, hc⟩ := exists_graph_eval (g.withWarned b) item p
    obtain ⟨d, hd⟩ := exists_graph_eval g item p
    rw [hc, hd]
    exact ⟨(ihq g c).1.trans (ihq g d).1.symm, (ihq g c).2.trans (ihq g d).2.symm⟩
  induction p generalizing g b with
  | and p q ihp ihq =>
    simp only [eval, (ihp g b).1, (ihp g b).2, (hright (p := p) g b ihq).1,
      (hright (p := p) g b ihq).2, and_self]
  | or p q ihp ihq =>
    simp only [eval, (ihp g b).1, (ihp g b).2, (hright (p := p) g b ihq).1,
      (hright (p := p) g b ihq).2, and_self]
  | not p ih => simp only [eval, (ih g b).1, (ih g b).2, and_self]
  | related relation t =>
    cases item with
    | symbol a =>
      exact ⟨Target.met_withWarned _ g b (relation.members_imageOf_withWarned g a b), rfl⟩
    | path path => exact ⟨rfl, rfl⟩
  | relatedToSelf relation =>
    cases item with
    | symbol a =>
      exact ⟨congrArg (OrderedSet.contains · a) (relation.members_imageOf_withWarned g a b), rfl⟩
    | path path => exact ⟨rfl, rfl⟩
  | _ => cases item <;> exact ⟨rfl, rfl⟩

/-- The right operand is asked of a graph that may have warned, which makes no difference. -/
theorem eval_after (g : CallGraph) (item : Item) (p q : Predicate) :
    (q.eval (p.eval g item).graph item).holds = q.holds g item ∧
      (q.eval (p.eval g item).graph item).predicate = (q.eval g item).predicate := by
  obtain ⟨b, hb⟩ := exists_graph_eval g item p
  rw [hb]
  exact eval_withWarned g item q b

theorem holds_and (g : CallGraph) (item : Item) (p q : Predicate) :
    (p.and q).holds g item = (p.holds g item && q.holds g item) :=
  congrArg (p.holds g item && ·) (eval_after g item p q).1

theorem holds_or (g : CallGraph) (item : Item) (p q : Predicate) :
    (p.or q).holds g item = (p.holds g item || q.holds g item) :=
  congrArg (p.holds g item || ·) (eval_after g item p q).1

theorem holds_not (g : CallGraph) (item : Item) (p : Predicate) :
    p.not.holds g item = !p.holds g item :=
  rfl

/-! ## What is noted -/

/-- Asked of a symbol, a predicate notes the symbols of the graph at all of its targets. -/
theorem predicate_eval_symbol (g : CallGraph) (a : Symbol) (p : Predicate) :
    (p.eval g (.symbol a)).predicate = p.mapTargets (Target.note g) := by
  induction p with
  | and p q ihp ihq => simp only [eval, mapTargets, ihp, (eval_after g (.symbol a) p q).2, ihq]
  | or p q ihp ihq => simp only [eval, mapTargets, ihp, (eval_after g (.symbol a) p q).2, ihq]
  | not p ih => simp only [eval, mapTargets, ih]
  | _ => rfl

/-- Asked of a path, a predicate notes nothing. -/
theorem predicate_eval_path (g : CallGraph) (path : List Symbol) (p : Predicate) :
    (p.eval g (.path path)).predicate = p := by
  induction p with
  | and p q ihp ihq => simp only [eval, ihp, (eval_after g (.path path) p q).2, ihq]
  | or p q ihp ihq => simp only [eval, ihp, (eval_after g (.path path) p q).2, ihq]
  | not p ih => simp only [eval, ih]
  | _ => rfl

theorem predicate_eval_cases (g : CallGraph) (item : Item) (p : Predicate) :
    (p.eval g item).predicate = p.mapTargets (Target.note g) ∨ (p.eval g item).predicate = p := by
  cases item with
  | symbol a => exact Or.inl (predicate_eval_symbol g a p)
  | path path => exact Or.inr (predicate_eval_path g path p)

/-- An answer looks at what would be noted for the graph, so it is the same if it is noted. -/
theorem holds_mapTargets_note (g : CallGraph) (item : Item) (p : Predicate) :
    (p.mapTargets (Target.note g)).holds g item = p.holds g item := by
  induction p with
  | and p q ihp ihq => rw [mapTargets, holds_and, holds_and, ihp, ihq]
  | or p q ihp ihq => rw [mapTargets, holds_or, holds_or, ihp, ihq]
  | not p ih => rw [mapTargets, holds_not, holds_not, ih]
  | related relation t =>
    cases item with
    | symbol a => exact congrArg (Target.met g (relation.imageOf g a)) (Target.note_note g t)
    | path path => rfl
  | _ => rfl

theorem holds_predicate_eval (g : CallGraph) (item item' : Item) (p : Predicate) :
    (p.eval g item).predicate.holds g item' = p.holds g item' := by
  rcases predicate_eval_cases g item p with h | h
  · rw [h, holds_mapTargets_note]
  · rw [h]

/-- A filter keeps the items of which the predicate holds as it stands at the beginning. -/
theorem keep_eq_filter_holds {α : Type} (g : CallGraph) (item : α → Item) (p : Predicate)
    (as : List α) : (p.keep g item as).1 = as.filter fun a => p.holds g (item a) := by
  induction as generalizing p with
  | nil => rfl
  | cons a as ih =>
    simp only [keep, ih, holds_predicate_eval, List.filter_cons]
    rfl

end Predicate

theorem SymbolSet.filter_eq_derive (s : SymbolSet) (p : Predicate) :
    (s.filter p).1 = s.derive (s.members.filter fun a => p.holds s.graph (.symbol a)) := by
  rw [SymbolSet.filter_eq, Predicate.keep_eq_filter_holds]
  rfl

theorem PathSet.filter_eq_derive (s : PathSet) (p : Predicate) :
    (s.filter p).1 = s.derive (s.paths.filter fun q => p.holds s.graph (.path q.symbols)) := by
  show s.derive (.ofList (p.keep s.graph (fun q : CallPath => .path q.symbols) s.toList).1) = _
  rw [Predicate.keep_eq_filter_holds]
  rfl

end CallAtlas
