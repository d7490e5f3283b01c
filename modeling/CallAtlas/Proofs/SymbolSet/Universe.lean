/-
# `CallAtlas.Proofs.SymbolSet.Universe` — the universe of derived sets

A set that comes from the whole program carries all symbols of its graph as its
universe, whatever sets it was combined with on the way, also sets of other graphs
and sets without a universe.  So nothing that needs the universe fails for the want
of it (`SymbolSet.Grounded`): a complement has the symbols of the graph whose
identities are not in the set, and a search for paths to symbols by their names can
only fail because of the pattern.

Nothing is said of the members but that no two share an identity.  Those that came
from a set of another graph need not be symbols of this one.
-/
import CallAtlas.Proofs.Graph.Building
import CallAtlas.Proofs.Predicate.NameFilter
import CallAtlas.Proofs.SymbolSet.Drawn

namespace CallAtlas

/-! ## All symbols of a graph -/

theorem CallGraph.nodup_symbols (g : CallGraph) : (g.symbols.map Symbol.id).Nodup := by
  unfold symbols
  rw [map_id_filterMap_symbol?]
  exact List.nodup_range.filter _

namespace SymbolSet

variable {g : CallGraph} {s : SymbolSet}

theorem toList_universe (g : CallGraph) : (OrderedSet.ofList g.symbols : Members).toList = g.symbols :=
  OrderedSet.toList_ofList_of_nodup g.symbols g.nodup_symbols

theorem mem_universe {a : Symbol} :
    a ∈ (OrderedSet.ofList g.symbols : Members).toList ↔ g.Has a := by
  rw [toList_universe]
  exact CallGraph.mem_symbols

/-! ## Sets with a universe -/

/-- The set has one member for each of its identities and all symbols of the graph for its
universe, and whatever needs the universe finds it. -/
structure Grounded (g : CallGraph) (s : SymbolSet) : Prop where
  graph : s.graph = g
  nodup : (s.toList.map Symbol.id).Nodup
  ambient : ∃ u, s.ambient = some u ∧ u.toList = g.symbols
  universeSet : ∃ u, s.universeSet = .ok u ∧ u.graph = g ∧ u.toList = g.symbols
  /-- the other symbols of the graph, in its order -/
  complement : ∃ c, s.complement = .ok c ∧ c.graph = g ∧
    c.toList = g.symbols.filter fun a => a.id ∉ s.toList.map Symbol.id
  pathsWhere : ∀ p, ∃ found asked, s.pathsWhere p = .ok (found, asked)
  pathsToNamed : ∀ pattern, (∃ found, s.pathsToNamed pattern = .ok found) ∨
    s.pathsToNamed pattern = .error (.badPattern pattern)

theorem Rooted.pathsWhere (h : s.Rooted g) (p : Predicate) :
    ∃ found asked, s.pathsWhere p = .ok (found, asked) := by
  unfold SymbolSet.pathsWhere
  rw [universeSet_eq h]
  exact ⟨_, _, rfl⟩

theorem Rooted.pathsToNamed (h : s.Rooted g) (pattern : String) :
    (∃ found, s.pathsToNamed pattern = .ok found) ∨
      s.pathsToNamed pattern = .error (.badPattern pattern) := by
  unfold SymbolSet.pathsToNamed
  rw [universeSet_eq h]
  show (∃ found, ((s.derive (.ofList g.symbols)).filterByName pattern).map s.paths = .ok found) ∨
    ((s.derive (.ofList g.symbols)).filterByName pattern).map s.paths = .error (.badPattern pattern)
  rcases filterByName_cases pattern (s.derive (.ofList g.symbols)) with ⟨targets, hok⟩ | herror
  · rw [hok]
    exact Or.inl ⟨s.paths targets, rfl⟩
  · rw [herror]
    exact Or.inr rfl

theorem Rooted.grounded (h : s.Rooted g) : s.Grounded g where
  graph := h.graph
  nodup := s.members.nodup_toList
  ambient := ⟨_, h.ambient, toList_universe g⟩
  universeSet := ⟨_, universeSet_eq h, h.graph, toList_universe g⟩
  complement := by
    refine ⟨_, complement_eq h, h.graph, ?_⟩
    show (OrderedSet.diff (.ofList g.symbols) s.members).toList = _
    rw [OrderedSet.toList_diff, toList_universe]
    refine List.filter_congr fun a _ => ?_
    rw [Bool.eq_iff_iff, Bool.not_eq_true', ← Bool.not_eq_true, OrderedSet.contains_iff,
      decide_eq_true_iff]
    rfl
  pathsWhere := h.pathsWhere
  pathsToNamed := h.pathsToNamed

/-- Whatever sets it was combined with, a set derived from the whole program has all symbols of
its graph for its universe. -/
theorem derived_grounded (h : Derived (fun _ => True) g (.symbols s)) : s.Grounded g :=
  Derived.rooted h |>.grounded

/-- A set of another graph, without a universe, leaves the universe as it is. -/
theorem derived_grounded_meet_foreign :
    let far : Symbol := ⟨⟨"far", "far.c", 1, false, false, false⟩, 1⟩
    let s := (whole (.mutualPair .standard)).inter (probe (.new 1 .standard) far)
    Derived (fun _ => True) (.mutualPair .standard) (.symbols s) ∧
      ∃ c, s.complement = .ok c ∧ c.toList = [CallGraph.ping] := by
  intro far s
  have hs : Derived (fun _ => True) (.mutualPair .standard) (.symbols s) := .inter .whole trivial
  obtain ⟨c, hc, -, hlist⟩ := (derived_grounded hs).complement
  refine ⟨hs, c, hc, hlist.trans ?_⟩
  decide +kernel

end SymbolSet

end CallAtlas
