/-
# `CallAtlas.Proofs.Path.Obtained` — every path set of a graph is well formed

`PathSet.Obtained g` lists how a set of paths comes about inside one graph: a
search between two sets of symbols, to the symbols that a predicate holds of or
to those with a name, and what is made of the sets that searches find.

Whatever the composition, the set is derived from the whole graph with operands
within it (`PathSet.Obtained.derived`), so its paths are simple call paths, none
longer than the settings allow.  A slice may cut two paths down to the same
part; a set still holds it once.
-/
import CallAtlas.Proofs.Graph.Building
import CallAtlas.Proofs.SymbolSet.Drawn

namespace CallAtlas

/-- The sets of paths that come about inside one graph. -/
inductive PathSet.Obtained (g : CallGraph) : PathSet → Prop
  | between {s t : SymbolSet} : s.DrawnFrom g → t.DrawnFrom g → Obtained g (s.paths t)
  | toWhere {s : SymbolSet} {p asked : Predicate} {found : PathSet} :
      s.DrawnFrom g → s.pathsWhere p = .ok (found, asked) → Obtained g found
  | toNamed {s : SymbolSet} {pattern : String} {found : PathSet} :
      s.DrawnFrom g → s.pathsToNamed pattern = .ok found → Obtained g found
  | union {s t : PathSet} : Obtained g s → Obtained g t → Obtained g (s.union t)
  | inter {s t : PathSet} : Obtained g s → Obtained g t → Obtained g (s.inter t)
  | diff {s t : PathSet} : Obtained g s → Obtained g t → Obtained g (s.diff t)
  | unique {s : PathSet} : Obtained g s → Obtained g s.unique
  | filter {s : PathSet} (p : Predicate) : Obtained g s → Obtained g (s.filter p).1
  | slice {s parts : PathSet} {first last : PathBound} :
      Obtained g s → s.slice first last = .ok parts → Obtained g parts

namespace SymbolSet

variable {s : SymbolSet}

theorem exists_filter_of_filterByName {pattern : String} {kept : SymbolSet}
    (h : s.filterByName pattern = .ok kept) : ∃ p, kept = (s.filter p).1 := by
  obtain ⟨p, -, h⟩ := Outcome.bind_eq_ok.1 h
  cases h
  exact ⟨p, rfl⟩

/-- A search to where a predicate holds is a search to a part of the universe. -/
theorem exists_paths_of_pathsWhere {p asked : Predicate} {found : PathSet}
    (h : s.pathsWhere p = .ok (found, asked)) :
    ∃ all, s.universeSet = .ok all ∧ found = s.paths (all.filter p).1 := by
  obtain ⟨all, hall, h⟩ := Outcome.bind_eq_ok.1 h
  cases h
  exact ⟨all, hall, rfl⟩

/-- And so is a search to symbols by their names. -/
theorem exists_paths_of_pathsToNamed {pattern : String} {found : PathSet}
    (h : s.pathsToNamed pattern = .ok found) :
    ∃ all p, s.universeSet = .ok all ∧ found = s.paths (all.filter p).1 := by
  obtain ⟨all, hall, h⟩ := Outcome.bind_eq_ok.1 h
  obtain ⟨targets, htargets, h⟩ := Outcome.bind_eq_ok.1 h
  obtain ⟨p, rfl⟩ := exists_filter_of_filterByName htargets
  cases h
  exact ⟨all, p, hall, rfl⟩

/-- A search to a part of the universe is one between sets drawn from the graph. -/
theorem DrawnFrom.paths_filter {g : CallGraph} {all : SymbolSet} (hs : s.DrawnFrom g)
    (hall : s.universeSet = .ok all) (p : Predicate) :
    Derived (Collection.Within g) g (.paths (s.paths (all.filter p).1)) :=
  have htargets : (all.filter p).1.DrawnFrom g := .filter p (.universeSet hs hall)
  .between hs htargets.within

end SymbolSet

namespace PathSet

variable {g : CallGraph} {s : PathSet}

/-- Such a set is derived from the whole graph, with operands within it. -/
theorem Obtained.derived (h : s.Obtained g) : Derived (Collection.Within g) g (.paths s) := by
  have hwithin : ∀ {t : PathSet}, Derived (Collection.Within g) g (.paths t) → t.Within g :=
    fun ht => Derived.within (fun _ hc => hc) ht
  induction h with
  | between hs ht => exact .between hs ht.within
  | @toWhere s p _ _ hs hfound =>
    obtain ⟨all, hall, rfl⟩ := SymbolSet.exists_paths_of_pathsWhere hfound
    exact hs.paths_filter hall p
  | toNamed hs hfound =>
    obtain ⟨all, p, hall, rfl⟩ := SymbolSet.exists_paths_of_pathsToNamed hfound
    exact hs.paths_filter hall p
  | union _ _ ih iht => exact .unionPaths ih (hwithin iht)
  | inter _ _ ih iht => exact .interPaths ih (hwithin iht)
  | diff _ _ ih iht => exact .diffPaths ih (hwithin iht)
  | unique _ ih => exact .unique ih
  | filter p _ ih => exact .filterPaths p ih
  | slice _ hparts ih => exact .slice ih hparts

/-- The paths of a set that comes about inside a graph have symbols, none of them twice, each
calling the next, and not more than the settings allow; no sequence of symbols is there twice;
and searches may go on from the symbols of the set. -/
theorem obtained_wellFormed (h : s.Obtained g) :
    (∀ p ∈ s.toList, p.symbols ≠ [] ∧ p.symbols.Nodup ∧ p.ids.Nodup ∧
      (∀ a ∈ p.symbols, g.Has a) ∧ p.symbols.IsChain g.Calls ∧
      ∀ bound, g.config.maxPathLength = some bound → p.length ≤ bound) ∧
    (s.toList.map CallPath.symbols).Nodup ∧ (s.toList.map CallPath.ids).Nodup ∧
    s.symbols.DrawnFrom g := by
  have hderived := h.derived
  have hwithin : s.Within g := Derived.within (fun _ hc => hc) hderived
  have hids : (s.toList.map CallPath.ids).Nodup := s.paths.nodup_toList
  refine ⟨?_, ?_, hids, .ofPaths hderived⟩
  · intro p hp
    obtain ⟨hsimple, hallows⟩ := hwithin.paths p hp
    exact ⟨hsimple.nonempty, hsimple.nodup.of_map, hsimple.nodup, hsimple.inGraph,
      hsimple.isChain_calls, hallows⟩
  · refine List.Nodup.of_map (List.map Symbol.id) ?_
    rw [List.map_map]
    exact hids

/-- Where two functions call each other and paths may have two symbols, the shortest paths
without their first symbols are well formed. -/
theorem obtained_wellFormed_tails :
    ∃ tails, ((SymbolSet.whole (.mutualPair ⟨some 2, .lastSeen⟩)).paths
        (.whole (.mutualPair ⟨some 2, .lastSeen⟩))).unique.slice (.index 1) .whole = .ok tails ∧
      tails.Obtained (.mutualPair ⟨some 2, .lastSeen⟩) ∧
        ∀ p ∈ tails.toList, p.symbols ≠ [] ∧ p.length ≤ 2 := by
  let found := ((SymbolSet.whole (.mutualPair ⟨some 2, .lastSeen⟩)).paths
    (.whole (.mutualPair ⟨some 2, .lastSeen⟩))).unique
  have hcut : slicePath (.index 1) .whole = fun p => pure (cut p (min 1 p.length) p.length) := rfl
  have hslice : ∃ tails, found.slice (.index 1) .whole = .ok tails := by
    unfold slice
    rw [hcut, List.mapM_pure]
    exact ⟨_, rfl⟩
  obtain ⟨tails, htails⟩ := hslice
  have hobtained : tails.Obtained (.mutualPair ⟨some 2, .lastSeen⟩) :=
    .slice (.unique (.between .whole .whole)) htails
  obtain ⟨hpaths, -⟩ := obtained_wellFormed hobtained
  refine ⟨tails, htails, hobtained, fun p hp => ?_⟩
  obtain ⟨hne, -, -, -, -, hbound⟩ := hpaths p hp
  exact ⟨hne, hbound 2 rfl⟩

end PathSet

end CallAtlas
