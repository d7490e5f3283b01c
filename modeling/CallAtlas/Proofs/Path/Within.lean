/-
# `CallAtlas.Proofs.Path.Within` — sets of simple call paths

What is made of simple call paths of one graph are simple call paths of that
graph: of two sets, of those that a predicate keeps, of the shortest, and of
the parts that a slice cuts out.  A part is no longer than the whole, so the
bound on the length survives as well.
-/
import CallAtlas.Proofs.Outcome
import CallAtlas.Proofs.Path.Shortest
import CallAtlas.Proofs.Path.Simple
import CallAtlas.Proofs.Predicate.Filter

namespace CallAtlas

/-- The set is of the graph, and its paths are simple call paths of the graph, none longer
than the settings allow. -/
structure PathSet.Within (g : CallGraph) (s : PathSet) : Prop where
  graph : s.graph = g
  paths : ∀ p ∈ s.toList, p.Simple g ∧ g.config.Allows p.length

/-! ## Parts -/

/-- Some symbols of a simple path that stand next to each other are a simple path. -/
theorem CallPath.Simple.part {g : CallGraph} {p q : CallPath} (h : p.Simple g)
    (hpart : q.symbols <:+: p.symbols) (hne : q.symbols ≠ []) : q.Simple g where
  nonempty := hne
  inGraph a ha := h.inGraph a (hpart.subset ha)
  linked := h.linked.infix hpart
  nodup := h.nodup.sublist (hpart.sublist.map Symbol.id)

theorem QueryConfig.Allows.mono {c : QueryConfig} {m n : Nat} (h : c.Allows n) (hle : m ≤ n) :
    c.Allows m :=
  fun bound hbound => Nat.le_trans hle (h bound hbound)

namespace PathSet

theorem cut_eq_some {p q : CallPath} {first last : Nat} (h : cut p first last = some q) :
    q.symbols ≠ [] ∧ q.symbols <:+: p.symbols := by
  unfold cut at h
  split at h
  · rename_i hbounds
    cases h
    refine ⟨?_, (List.drop_suffix first _).isInfix.trans (List.take_prefix last _).isInfix⟩
    rw [ne_eq, ← List.length_eq_zero_iff, List.length_drop, List.length_take]
    have : last ≤ p.symbols.length := hbounds.2
    omega
  · cases h

theorem slicePath_eq_some {first last : PathBound} {p q : CallPath}
    (h : slicePath first last p = .ok (some q)) : q.symbols ≠ [] ∧ q.symbols <:+: p.symbols := by
  obtain ⟨i, -, h⟩ := Outcome.bind_eq_ok.1 h
  obtain ⟨j, -, h⟩ := Outcome.bind_eq_ok.1 h
  exact cut_eq_some (Except.ok.inj h)

/-- What a slice cuts out are parts of the paths of the set. -/
theorem exists_of_mem_slice {s t : PathSet} {first last : PathBound} (h : s.slice first last = .ok t) :
    t.graph = s.graph ∧ t.ambient = s.ambient ∧
      ∀ q ∈ t.toList, ∃ p ∈ s.toList, q.symbols ≠ [] ∧ q.symbols <:+: p.symbols := by
  obtain ⟨parts, hparts, h⟩ := Outcome.bind_eq_ok.1 h
  cases h
  refine ⟨rfl, rfl, ?_⟩
  intro q hq
  obtain ⟨part, hpart, hsome⟩ := List.mem_filterMap.1 (OrderedSet.mem_of_mem_ofList hq)
  obtain ⟨p, hp, heq⟩ := Outcome.exists_of_mem_mapM hparts hpart
  rw [show part = some q from hsome] at heq
  exact ⟨p, hp, slicePath_eq_some heq⟩

/-! ## Operations -/

variable {g : CallGraph} {s t : PathSet}

theorem Within.derive (h : s.Within g) {paths : Paths}
    (hpaths : ∀ p ∈ paths.toList, p.Simple g ∧ g.config.Allows p.length) :
    (s.derive paths).Within g :=
  ⟨h.graph, hpaths⟩

theorem Within.union (h : s.Within g) (ht : t.Within g) : (s.union t).Within g := by
  apply h.derive
  intro p hp
  rcases OrderedSet.mem_union_cases hp with hp | hp
  · exact h.paths p hp
  · exact ht.paths p hp

theorem Within.derive_filter (h : s.Within g) (keep : CallPath → Bool) :
    (s.derive (s.paths.filter keep)).Within g := by
  apply h.derive
  intro p hp
  rw [OrderedSet.toList_filter] at hp
  exact h.paths p (List.mem_of_mem_filter hp)

theorem Within.inter (h : s.Within g) (t : PathSet) : (s.inter t).Within g :=
  h.derive_filter t.paths.contains

theorem Within.diff (h : s.Within g) (t : PathSet) : (s.diff t).Within g :=
  h.derive_filter fun p => !t.paths.contains p

theorem Within.unique (h : s.Within g) : s.unique.Within g :=
  ⟨h.graph, fun p hp => h.paths p (mem_of_mem_unique hp)⟩

theorem Within.filter (h : s.Within g) (p : Predicate) : (s.filter p).1.Within g :=
  ⟨h.graph, fun q hq => h.paths q (mem_of_mem_filter hq)⟩

theorem Within.slice (h : s.Within g) {first last : PathBound}
    (ht : s.slice first last = .ok t) : t.Within g := by
  obtain ⟨hgraph, -, hparts⟩ := exists_of_mem_slice ht
  refine ⟨hgraph.trans h.graph, ?_⟩
  intro q hq
  obtain ⟨p, hp, hne, hpart⟩ := hparts q hq
  obtain ⟨hsimple, hallows⟩ := h.paths p hp
  exact ⟨hsimple.part hpart hne, hallows.mono hpart.length_le⟩

theorem mem_symbols_of_within (h : s.Within g) {a : Symbol} :
    a ∈ s.symbols.toList ↔ ∃ p ∈ s.toList, a ∈ p.symbols := by
  have hall : ∀ b ∈ s.symbolList, g.Has b := by
    intro b hb
    obtain ⟨p, hp, hbp⟩ := List.mem_flatMap.1 hb
    exact (h.paths p hp).1.inGraph b hbp
  show a ∈ (OrderedSet.ofList s.symbolList : Members).toList ↔ _
  rw [OrderedSet.mem_ofList_iff (fun _ _ => CallGraph.Has.eq_of_id_eq) hall]
  exact List.mem_flatMap

end PathSet

theorem SymbolSet.paths_within {g : CallGraph} {s t : SymbolSet} (hs : s.Within g)
    (ht : t.Within g) : (s.paths t).Within g where
  graph := hs.graph
  paths p hp := by
    obtain ⟨hsimple, -, -, hallows⟩ := (SymbolSet.mem_paths hs ht).1 hp
    exact ⟨hsimple, hallows⟩

end CallAtlas
