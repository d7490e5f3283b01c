/-
# `CallAtlas.Proofs.Session.Native` — the sets on a desk and their graphs

Sets of all graphs of a session lie on one desk, and a step may combine any two of
them.  The sets on the desk are native at every moment of a session exactly if no step
of it is a union that takes over a symbol of another graph (`desk_native_iff`).

What a step puts on the desk is at home in a graph if the sets that it was made of
are and the step takes over nothing: `atHome_makeSet`, `atHome_makePaths` and
`atHome_changed` say so, one case for each kind of expression.  The run is an induction
on the steps from there; the other direction needs none, since a union that takes over
is on the desk right after its step.
-/
import CallAtlas.Proofs.SymbolSet.Foreign

namespace CallAtlas

open Outcome (bind_eq_ok)

theorem ofQuery_eq_ok {α : Type} {x : Except QueryError α} {a : α} :
    ofQuery x = .ok a ↔ x = .ok a := by
  cases x with
  | ok b => simp only [ofQuery, Except.ok.injEq]
  | error e => simp only [ofQuery, reduceCtorEq]

theorem Registers.get?_put {α : Type} (rs : Registers α) (name : String) (value : α) (x : String) :
    (rs.put name value).get? x = if x = name then some value else rs.get? x := by
  have hrest : x ≠ name → (rs.filter fun r => r.1 ≠ name).lookup x = rs.lookup x := by
    intro hne
    induction rs with
    | nil => rfl
    | cons r rs ih =>
      by_cases hr : r.1 = name
      · have hx : (x == r.1) = false := beq_eq_false_iff_ne.2 (hr ▸ hne)
        rw [List.filter_cons_of_neg (by simp [hr]), List.lookup_cons, hx, ih]
      · rw [List.filter_cons_of_pos (by simp [hr]), List.lookup_cons, List.lookup_cons, ih]
  unfold put get?
  rw [List.lookup_cons]
  split
  · rename_i h
    rw [if_pos (beq_iff_eq.1 h)]
  · rename_i h
    rw [if_neg (beq_eq_false_iff_ne.1 h), hrest (beq_eq_false_iff_ne.1 h)]

namespace Desk

variable {d : Desk} {x name : String} {s t : SymbolSet} {ps qs : PathSet}

theorem set_eq_ok : d.set x = .ok s ↔ d.sets.get? x = some s := by
  unfold set
  cases d.sets.get? x <;> simp

theorem pathSet_eq_ok : d.pathSet x = .ok ps ↔ d.paths.get? x = some ps := by
  unfold pathSet
  cases d.paths.get? x <;> simp

theorem set_putSet (d : Desk) (name : String) (s : SymbolSet) : (d.putSet name s).set name = .ok s := by
  rw [set_eq_ok, putSet, Registers.get?_put, if_pos rfl]

theorem pathSet_putPaths (d : Desk) (name : String) (ps : PathSet) :
    (d.putPaths name ps).pathSet name = .ok ps := by
  rw [pathSet_eq_ok, putPaths, Registers.get?_put, if_pos rfl]

theorem set_putSet_cases (h : (d.putSet name s).set x = .ok t) : t = s ∨ d.set x = .ok t := by
  rw [set_eq_ok, putSet, Registers.get?_put] at h
  split at h
  · exact Or.inl (Option.some.inj h).symm
  · exact Or.inr (set_eq_ok.2 h)

theorem pathSet_putPaths_cases (h : (d.putPaths name ps).pathSet x = .ok qs) :
    qs = ps ∨ d.pathSet x = .ok qs := by
  rw [pathSet_eq_ok, putPaths, Registers.get?_put] at h
  split at h
  · exact Or.inl (Option.some.inj h).symm
  · exact Or.inr (pathSet_eq_ok.2 h)

/-- All sets on the desk have a property. -/
structure Holds (P : Collection → Prop) (d : Desk) : Prop where
  sets : ∀ {x s}, d.set x = .ok s → P (.symbols s)
  paths : ∀ {x ps}, d.pathSet x = .ok ps → P (.paths ps)

variable {P : Collection → Prop}

theorem holds_empty (P : Collection → Prop) : Holds P .empty where
  sets h := nomatch set_eq_ok.1 h
  paths h := nomatch pathSet_eq_ok.1 h

theorem Holds.putSet (h : Holds P d) (name : String) (hs : P (.symbols s)) :
    Holds P (d.putSet name s) where
  sets ht := by
    rcases set_putSet_cases ht with rfl | ht
    · exact hs
    · exact h.sets ht
  paths hps := h.paths hps

theorem Holds.putPaths (h : Holds P d) (name : String) (hps : P (.paths ps)) :
    Holds P (d.putPaths name ps) where
  sets hs := h.sets hs
  paths hqs := by
    rcases pathSet_putPaths_cases hqs with rfl | hqs
    · exact hps
    · exact h.paths hqs

end Desk

/-! ## Steps that take over -/

/-- The expression is a union that takes over. -/
def SetExpr.TakesOver (d : Desk) : SetExpr → Prop
  | .union x y => ∃ s t, d.set x = .ok s ∧ d.set y = .ok t ∧ s.TakesOver t
  | _ => False

/-- The expression is a union of sets of paths that takes over. -/
def PathExpr.TakesOver (d : Desk) : PathExpr → Prop
  | .union x y => ∃ ps qs, d.pathSet x = .ok ps ∧ d.pathSet y = .ok qs ∧ ps.TakesOver qs
  | _ => False

/-- The step makes a union that takes over, or makes one in place. -/
def QueryStep.TakesOver (d : Desk) : QueryStep → Prop
  | .makeSet _ e => e.TakesOver d
  | .makePaths _ e => e.TakesOver d
  | .change x (.unionWith y) => ∃ s t, d.set x = .ok s ∧ d.set y = .ok t ∧ s.TakesOver t
  | _ => False

/-- The set comes from the whole of a graph and has symbols of that graph only. -/
def Collection.AtHome (c : Collection) : Prop := ∃ g, c.Settled g

theorem Collection.AtHome.native {c : Collection} (h : c.AtHome) : c.Native :=
  h.elim fun _ hs => hs.native

namespace Workbench

variable {w next : Workbench}

theorem desk_restore (w : Workbench) (p : Predicate) (ref : PredicateRef) :
    (w.restore p ref).desk = w.desk := by
  cases ref <;> rfl

/-- What an expression makes is at home if the sets on the desk are. -/
theorem atHome_makeSet {e : SetExpr} {s : SymbolSet} (hw : w.desk.Holds Collection.AtHome)
    (hno : ¬e.TakesOver w.desk) (h : w.makeSet e = .ok (next, s)) :
    next.desk.Holds Collection.AtHome ∧ Collection.AtHome (.symbols s) := by
  cases e with
  | wholeProgram graph =>
    obtain ⟨g, -, h⟩ := bind_eq_ok.1 h
    obtain ⟨all, hall, h⟩ := bind_eq_ok.1 h
    cases h
    have hwhole := ofQuery_eq_ok.1 hall
    unfold CallGraph.wholeProgram at hwhole
    split at hwhole
    · cases hwhole
      exact ⟨hw, g, Collection.settled_whole g⟩
    · cases hwhole
  | clone x =>
    obtain ⟨t, ht, h⟩ := bind_eq_ok.1 h
    cases h
    obtain ⟨g, hg⟩ := hw.sets ht
    exact ⟨hw, g, hg.clone⟩
  | filter x ref =>
    obtain ⟨t, ht, h⟩ := bind_eq_ok.1 h
    obtain ⟨p, -, h⟩ := bind_eq_ok.1 h
    cases h
    obtain ⟨g, hg⟩ := hw.sets ht
    rw [desk_restore]
    exact ⟨hw, g, hg.filter p⟩
  | byName x pattern =>
    obtain ⟨t, ht, h⟩ := bind_eq_ok.1 h
    obtain ⟨kept, hkept, h⟩ := bind_eq_ok.1 h
    cases h
    obtain ⟨p, rfl⟩ := SymbolSet.exists_filter_of_filterByName (ofQuery_eq_ok.1 hkept)
    obtain ⟨g, hg⟩ := hw.sets ht
    exact ⟨hw, g, hg.filter p⟩
  | byAddress x a =>
    obtain ⟨t, ht, h⟩ := bind_eq_ok.1 h
    obtain ⟨kept, hkept, h⟩ := bind_eq_ok.1 h
    cases h
    obtain ⟨a', -, hkept⟩ := bind_eq_ok.1 (ofQuery_eq_ok.1 hkept)
    obtain ⟨p, -, hkept⟩ := bind_eq_ok.1 hkept
    cases hkept
    obtain ⟨g, hg⟩ := hw.sets ht
    exact ⟨hw, g, hg.filter p⟩
  | union x y =>
    obtain ⟨t, ht, h⟩ := bind_eq_ok.1 h
    obtain ⟨u, hu, h⟩ := bind_eq_ok.1 h
    cases h
    obtain ⟨g, hg⟩ := hw.sets ht
    exact ⟨hw, g, hg.union fun htakes => hno ⟨t, u, ht, hu, htakes⟩⟩
  | inter x y =>
    obtain ⟨t, ht, h⟩ := bind_eq_ok.1 h
    obtain ⟨u, -, h⟩ := bind_eq_ok.1 h
    cases h
    obtain ⟨g, hg⟩ := hw.sets ht
    exact ⟨hw, g, hg.inter u⟩
  | diff x y =>
    obtain ⟨t, ht, h⟩ := bind_eq_ok.1 h
    obtain ⟨u, -, h⟩ := bind_eq_ok.1 h
    cases h
    obtain ⟨g, hg⟩ := hw.sets ht
    exact ⟨hw, g, hg.diff u⟩
  | complement x =>
    obtain ⟨t, ht, h⟩ := bind_eq_ok.1 h
    obtain ⟨c, hc, h⟩ := bind_eq_ok.1 h
    cases h
    obtain ⟨g, hg⟩ := hw.sets ht
    exact ⟨hw, g, hg.complement (ofQuery_eq_ok.1 hc)⟩
  | universeSet x =>
    obtain ⟨t, ht, h⟩ := bind_eq_ok.1 h
    obtain ⟨u, hu, h⟩ := bind_eq_ok.1 h
    cases h
    obtain ⟨g, hg⟩ := hw.sets ht
    exact ⟨hw, g, hg.universeSet (ofQuery_eq_ok.1 hu)⟩
  | relate x r =>
    obtain ⟨t, ht, h⟩ := bind_eq_ok.1 h
    cases h
    obtain ⟨g, hg⟩ := hw.sets ht
    exact ⟨hw.putSet x ⟨g, hg.source r⟩, g, hg.image r⟩
  | close x reflexive via p =>
    obtain ⟨t, ht, h⟩ := bind_eq_ok.1 h
    obtain ⟨p, -, h⟩ := bind_eq_ok.1 h
    obtain ⟨g, hg⟩ := hw.sets ht
    cases reflexive with
    | true =>
      cases h
      exact ⟨hw, g, hg.reflexiveClosure via p⟩
    | false =>
      cases h
      exact ⟨hw.putSet x ⟨g, hg.transitiveSource via p⟩, g, hg.transitiveClosure via p⟩
  | ofPaths x =>
    obtain ⟨ps, hps, h⟩ := bind_eq_ok.1 h
    cases h
    obtain ⟨g, hg⟩ := hw.paths hps
    exact ⟨hw, g, hg.ofPaths⟩
  | ofPathsMatching x pattern =>
    obtain ⟨ps, hps, h⟩ := bind_eq_ok.1 h
    obtain ⟨chosen, hchosen, h⟩ := bind_eq_ok.1 h
    cases h
    obtain ⟨g, hg⟩ := hw.paths hps
    exact ⟨hw, g, hg.ofPathsMatching (ofQuery_eq_ok.1 hchosen)⟩

theorem atHome_makePaths {e : PathExpr} {ps : PathSet} (hw : w.desk.Holds Collection.AtHome)
    (hno : ¬e.TakesOver w.desk) (h : w.makePaths e = .ok (next, ps)) :
    next.desk.Holds Collection.AtHome ∧ Collection.AtHome (.paths ps) := by
  cases e with
  | between x y =>
    obtain ⟨s, hs, h⟩ := bind_eq_ok.1 h
    obtain ⟨t, -, h⟩ := bind_eq_ok.1 h
    cases h
    obtain ⟨g, hg⟩ := hw.sets hs
    exact ⟨hw, g, hg.between t⟩
  | toWhere x ref =>
    obtain ⟨s, hs, h⟩ := bind_eq_ok.1 h
    obtain ⟨p, -, h⟩ := bind_eq_ok.1 h
    obtain ⟨⟨found, asked⟩, hfound, h⟩ := bind_eq_ok.1 h
    cases h
    obtain ⟨all, -, rfl⟩ := SymbolSet.exists_paths_of_pathsWhere (ofQuery_eq_ok.1 hfound)
    obtain ⟨g, hg⟩ := hw.sets hs
    rw [desk_restore]
    exact ⟨hw, g, hg.between _⟩
  | toNamed x pattern =>
    obtain ⟨s, hs, h⟩ := bind_eq_ok.1 h
    obtain ⟨found, hfound, h⟩ := bind_eq_ok.1 h
    cases h
    obtain ⟨all, p, -, rfl⟩ := SymbolSet.exists_paths_of_pathsToNamed (ofQuery_eq_ok.1 hfound)
    obtain ⟨g, hg⟩ := hw.sets hs
    exact ⟨hw, g, hg.between _⟩
  | union x y =>
    obtain ⟨qs, hqs, h⟩ := bind_eq_ok.1 h
    obtain ⟨rs, hrs, h⟩ := bind_eq_ok.1 h
    cases h
    obtain ⟨g, hg⟩ := hw.paths hqs
    exact ⟨hw, g, hg.unionPaths fun htakes => hno ⟨qs, rs, hqs, hrs, htakes⟩⟩
  | inter x y =>
    obtain ⟨qs, hqs, h⟩ := bind_eq_ok.1 h
    obtain ⟨rs, -, h⟩ := bind_eq_ok.1 h
    cases h
    obtain ⟨g, hg⟩ := hw.paths hqs
    exact ⟨hw, g, hg.interPaths rs⟩
  | diff x y =>
    obtain ⟨qs, hqs, h⟩ := bind_eq_ok.1 h
    obtain ⟨rs, -, h⟩ := bind_eq_ok.1 h
    cases h
    obtain ⟨g, hg⟩ := hw.paths hqs
    exact ⟨hw, g, hg.diffPaths rs⟩
  | unique x =>
    obtain ⟨qs, hqs, h⟩ := bind_eq_ok.1 h
    cases h
    obtain ⟨g, hg⟩ := hw.paths hqs
    exact ⟨hw, g, hg.unique⟩
  | filter x ref =>
    obtain ⟨qs, hqs, h⟩ := bind_eq_ok.1 h
    obtain ⟨p, -, h⟩ := bind_eq_ok.1 h
    cases h
    obtain ⟨g, hg⟩ := hw.paths hqs
    rw [desk_restore]
    exact ⟨hw, g, hg.filterPaths p⟩
  | slice x first last =>
    obtain ⟨qs, hqs, h⟩ := bind_eq_ok.1 h
    obtain ⟨from', -, h⟩ := bind_eq_ok.1 h
    obtain ⟨to', -, h⟩ := bind_eq_ok.1 h
    obtain ⟨parts, hparts, h⟩ := bind_eq_ok.1 h
    cases h
    obtain ⟨g, hg⟩ := hw.paths hqs
    exact ⟨hw, g, hg.slice (ofQuery_eq_ok.1 hparts)⟩

theorem atHome_changed {x : String} {c : SetChange} {s t : SymbolSet}
    (hw : w.desk.Holds Collection.AtHome) (hs : w.desk.set x = .ok s)
    (hno : ¬QueryStep.TakesOver w.desk (.change x c)) (h : w.changed s c = .ok t) :
    Collection.AtHome (.symbols t) := by
  obtain ⟨g, hg⟩ := hw.sets hs
  cases c with
  | unionWith y =>
    obtain ⟨u, hu, h⟩ := bind_eq_ok.1 h
    cases h
    exact ⟨g, hg.unionWith fun htakes => hno ⟨s, u, hs, hu, htakes⟩⟩
  | interWith y =>
    obtain ⟨u, -, h⟩ := bind_eq_ok.1 h
    cases h
    exact ⟨g, hg.interWith u⟩
  | subtract y =>
    obtain ⟨u, -, h⟩ := bind_eq_ok.1 h
    cases h
    exact ⟨g, hg.subtract u⟩
  | sort cs =>
    cases h
    exact ⟨g, hg.sort cs⟩

/-- A step that takes over nothing leaves sets that are at home. -/
theorem atHome_query {step : QueryStep} {answer : QueryAnswer}
    (hw : w.desk.Holds Collection.AtHome) (hno : ¬step.TakesOver w.desk)
    (h : w.query step = .ok (next, answer)) : next.desk.Holds Collection.AtHome := by
  cases step with
  | makeSet result e =>
    obtain ⟨⟨w', s⟩, hmade, h⟩ := bind_eq_ok.1 h
    cases h
    obtain ⟨hdesk, hs⟩ := atHome_makeSet hw hno hmade
    exact hdesk.putSet result hs
  | makePaths result e =>
    obtain ⟨⟨w', ps⟩, hmade, h⟩ := bind_eq_ok.1 h
    cases h
    obtain ⟨hdesk, hps⟩ := atHome_makePaths hw hno hmade
    exact hdesk.putPaths result hps
  | change x c =>
    obtain ⟨s, hs, h⟩ := bind_eq_ok.1 h
    obtain ⟨t, ht, h⟩ := bind_eq_ok.1 h
    cases h
    exact hw.putSet x (atHome_changed hw hs hno ht)
  | pop x =>
    obtain ⟨s, hs, h⟩ := bind_eq_ok.1 h
    obtain ⟨⟨a, rest⟩, hpop, h⟩ := bind_eq_ok.1 h
    cases h
    obtain ⟨g, hg⟩ := hw.sets hs
    exact hw.putSet x ⟨g, hg.pop (ofQuery_eq_ok.1 hpop)⟩
  | define name e =>
    obtain ⟨p, -, h⟩ := bind_eq_ok.1 h
    cases h
    exact hw
  | eval graph ref item =>
    obtain ⟨⟨w', b⟩, heval, h⟩ := bind_eq_ok.1 h
    cases h
    obtain ⟨g, -, heval⟩ := bind_eq_ok.1 heval
    obtain ⟨p, -, heval⟩ := bind_eq_ok.1 heval
    obtain ⟨i, -, heval⟩ := bind_eq_ok.1 heval
    cases heval
    show (w.restore _ ref).desk.Holds Collection.AtHome
    rw [desk_restore]
    exact hw
  | ask q =>
    obtain ⟨a, -, h⟩ := bind_eq_ok.1 h
    cases h
    exact hw

/-! ## Runs -/

/-- The workbench after a step.  A step that fails leaves it as it was. -/
def after (w : Workbench) (step : QueryStep) : Workbench :=
  match w.query step with
  | .ok (next, _) => next
  | .error _ => w

theorem after_of_ok {step : QueryStep} {answer : QueryAnswer}
    (h : w.query step = .ok (next, answer)) : w.after step = next := by
  unfold after
  rw [h]

/-- The workbench after some steps. -/
def run (w : Workbench) (steps : List QueryStep) : Workbench := steps.foldl after w

theorem run_append_singleton (w : Workbench) (steps : List QueryStep) (step : QueryStep) :
    w.run (steps ++ [step]) = (w.run steps).after step := by
  unfold run
  rw [List.foldl_append]
  rfl

theorem atHome_after {step : QueryStep} (hw : w.desk.Holds Collection.AtHome)
    (hno : ¬step.TakesOver w.desk) : (w.after step).desk.Holds Collection.AtHome := by
  unfold after
  split
  · rename_i hok
    exact atHome_query hw hno hok
  · exact hw

/-- What a step takes over is on the desk after it. -/
theorem not_native_after {step : QueryStep} (htakes : step.TakesOver w.desk) :
    ¬(w.after step).desk.Holds Collection.Native := by
  intro hnative
  -- the three unions cannot fail where both operands are on the desk
  cases step with
  | makeSet result e =>
    cases e with
    | union x y =>
      obtain ⟨s, t, hs, ht, htakes⟩ := htakes
      have hquery : w.query (.makeSet result (.union x y)) =
          .ok (w.putSet result (s.union t), .set (s.union t)) := by
        simp only [query, makeSet, hs, ht]
        rfl
      rw [after_of_ok hquery] at hnative
      exact Collection.not_native_union htakes (hnative.sets (Desk.set_putSet _ _ _))
    | _ => exact htakes
  | makePaths result e =>
    cases e with
    | union x y =>
      obtain ⟨ps, qs, hps, hqs, htakes⟩ := htakes
      have hquery : w.query (.makePaths result (.union x y)) =
          .ok (w.putPaths result (ps.union qs), .paths (ps.union qs)) := by
        simp only [query, makePaths, hps, hqs]
        rfl
      rw [after_of_ok hquery] at hnative
      exact Collection.not_native_unionPaths htakes (hnative.paths (Desk.pathSet_putPaths _ _ _))
    | _ => exact htakes
  | change x c =>
    cases c with
    | unionWith y =>
      obtain ⟨s, t, hs, ht, htakes⟩ := htakes
      have hquery : w.query (.change x (.unionWith y)) =
          .ok (w.putSet x (s.unionWith t), .set (s.unionWith t)) := by
        simp only [query, changed, hs, ht]
        rfl
      rw [after_of_ok hquery] at hnative
      exact Collection.not_native_unionWith htakes (hnative.sets (Desk.set_putSet _ _ _))
    | _ => exact htakes
  | _ => exact htakes

theorem atHome_run {steps : List QueryStep} (hw : w.desk.Holds Collection.AtHome)
    (hno : ∀ (n : Nat) (step : QueryStep), steps[n]? = some step →
      ¬step.TakesOver (w.run (steps.take n)).desk) (n : Nat) :
    (w.run (steps.take n)).desk.Holds Collection.AtHome := by
  induction n with
  | zero => exact hw
  | succ n ih =>
    rw [List.take_add_one]
    cases hstep : steps[n]? with
    | none => exact (List.append_nil (steps.take n)).symm ▸ ih
    | some step =>
      rw [Option.toList_some, run_append_singleton]
      exact atHome_after ih (hno n step hstep)

/-- From the beginning of a session to its end all sets on the desk have symbols of their own
graphs only, exactly if no step is a union that takes over symbols of another graph.  And items
count as one by their identities: members of two sets, of whatever graphs, and the symbols of the
paths of a set. -/
theorem desk_native_iff (session : Session) (steps : List QueryStep) :
    ((∀ n, ((ofSession session).run (steps.take n)).desk.Holds Collection.Native) ↔
      ∀ (n : Nat) (step : QueryStep), steps[n]? = some step →
        ¬step.TakesOver ((ofSession session).run (steps.take n)).desk) ∧
    (∀ s t : SymbolSet, s.MeetsByIdentity t) ∧
    ∀ ps : PathSet, (∀ a ∈ ps.symbolList, a ∈ ps.symbols.toList) ↔
      ∀ a ∈ ps.symbolList, ∀ b ∈ ps.symbolList, a.id = b.id → a = b := by
  refine ⟨⟨?_, ?_⟩, SymbolSet.meetsByIdentity, PathSet.symbols_all_iff⟩
  · intro hnative n step hstep htakes
    refine not_native_after htakes ?_
    have hnext := hnative (n + 1)
    rw [List.take_add_one, hstep, Option.toList_some, run_append_singleton] at hnext
    exact hnext
  · intro hno n
    have hhome := atHome_run (Desk.holds_empty _) hno n
    exact ⟨fun hs => (hhome.sets hs).native, fun hps => (hhome.paths hps).native⟩

/-- A union with the whole of another graph leaves out two of its functions, whose identities are
there already, and takes over the third; and the intersection keeps two functions that are not in
the other set. -/
theorem desk_not_native_of_two_graphs :
    (CallGraph.mutualPair .standard).Finalised ∧ CallGraph.clockwork.Finalised ∧
    let session : Session := ⟨#[.mutualPair .standard, .clockwork], [], []⟩
    let steps : List QueryStep := [
      .makeSet "pair" (.wholeProgram 0), .makeSet "clock" (.wholeProgram 1),
      .makeSet "both" (.union "pair" "clock"), .makeSet "common" (.inter "pair" "clock")]
    let w := (ofSession session).run steps
    (∃ both, w.desk.set "both" = .ok both ∧
      both.toList = [CallGraph.ping, CallGraph.pong, CallGraph.tack] ∧
      both.graph.number = 0 ∧ ¬both.graph.Has CallGraph.tack) ∧
    ∃ common, w.desk.set "common" = .ok common ∧
      common.toList = [CallGraph.ping, CallGraph.pong] := by
  refine ⟨CallGraph.finalised_mutualPair .standard, CallGraph.finalised_clockwork, ?_⟩
  intro session steps w
  have hboth : (w.desk.set "both").toOption.map
      (fun s => (s.toList, s.graph.number, s.graph.symbol? CallGraph.tack.id)) =
        some ([CallGraph.ping, CallGraph.pong, CallGraph.tack], 0, none) := by decide +kernel
  have hcommon : (w.desk.set "common").toOption.map SymbolSet.toList =
      some [CallGraph.ping, CallGraph.pong] := by decide +kernel
  obtain ⟨both, hset, heq⟩ := Option.map_eq_some_iff.1 hboth
  obtain ⟨common, hset', hlist'⟩ := Option.map_eq_some_iff.1 hcommon
  simp only [Prod.mk.injEq] at heq
  obtain ⟨hlist, hnumber, hnone⟩ := heq
  refine ⟨⟨both, Outcome.eq_ok_of_toOption_eq_some hset, hlist, hnumber, ?_⟩,
    common, Outcome.eq_ok_of_toOption_eq_some hset', hlist'⟩
  unfold CallGraph.Has
  rw [hnone]
  exact nofun

end Workbench

end CallAtlas
