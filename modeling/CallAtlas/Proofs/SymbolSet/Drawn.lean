/-
# `CallAtlas.Proofs.SymbolSet.Drawn` — sets drawn from a graph

Every set of a graph comes from the set of all its symbols by operations.
`Derived operand g` lists them; where an operation takes a second set, that set
satisfies `operand` and may be of another graph.

What holds of the whole and survives the operations holds of all derived sets.
A derived set is of the graph, has the whole for its universe and keeps right
answers only, whatever the other operands were (`Derived.rooted`).  Its members
are symbols of the graph, and its paths simple call paths, if those of the other
operands are (`Derived.within`); `DrawnFrom` is the case that they are.

Closures are the one operation that runs a relation again and again.  What
running relations keeps is shown once, for any property that survives the few
things that relations do (`Stable`).
-/
import CallAtlas.Proofs.Path.Within
import CallAtlas.Proofs.SymbolSet.Answers
import CallAtlas.Session.Query

namespace CallAtlas

/-- A set of either kind. -/
inductive Collection
  | symbols (s : SymbolSet)
  | paths (s : PathSet)

/-- The sets that come from the set of all symbols by operations with operands of a kind. -/
inductive Derived (operand : Collection → Prop) (g : CallGraph) : Collection → Prop
  | whole : Derived operand g (.symbols (.whole g))
  | clone {s : SymbolSet} : Derived operand g (.symbols s) → Derived operand g (.symbols s.clone)
  | filter {s : SymbolSet} (p : Predicate) :
      Derived operand g (.symbols s) → Derived operand g (.symbols (s.filter p).1)
  | union {s t : SymbolSet} :
      Derived operand g (.symbols s) → operand (.symbols t) → Derived operand g (.symbols (s.union t))
  | inter {s t : SymbolSet} :
      Derived operand g (.symbols s) → operand (.symbols t) → Derived operand g (.symbols (s.inter t))
  | diff {s t : SymbolSet} :
      Derived operand g (.symbols s) → operand (.symbols t) → Derived operand g (.symbols (s.diff t))
  | complement {s t : SymbolSet} :
      Derived operand g (.symbols s) → s.complement = .ok t → Derived operand g (.symbols t)
  | universeSet {s t : SymbolSet} :
      Derived operand g (.symbols s) → s.universeSet = .ok t → Derived operand g (.symbols t)
  | image {s : SymbolSet} (r : Relation) :
      Derived operand g (.symbols s) → Derived operand g (.symbols (r.apply s).image)
  /-- the set after it was asked -/
  | source {s : SymbolSet} (r : Relation) :
      Derived operand g (.symbols s) → Derived operand g (.symbols (r.apply s).source)
  | reflexiveClosure {s : SymbolSet} (via : List Relation) (p : Predicate) :
      Derived operand g (.symbols s) →
        Derived operand g (.symbols (s.reflexiveClosure (Relation.composite via p)))
  | transitiveClosure {s : SymbolSet} (via : List Relation) (p : Predicate) :
      Derived operand g (.symbols s) →
        Derived operand g (.symbols (s.transitiveClosure (Relation.composite via p)).image)
  | transitiveSource {s : SymbolSet} (via : List Relation) (p : Predicate) :
      Derived operand g (.symbols s) →
        Derived operand g (.symbols (s.transitiveClosure (Relation.composite via p)).source)
  | unionWith {s t : SymbolSet} :
      Derived operand g (.symbols s) → operand (.symbols t) →
        Derived operand g (.symbols (s.unionWith t))
  | interWith {s t : SymbolSet} :
      Derived operand g (.symbols s) → operand (.symbols t) →
        Derived operand g (.symbols (s.interWith t))
  | subtract {s t : SymbolSet} :
      Derived operand g (.symbols s) → operand (.symbols t) →
        Derived operand g (.symbols (s.subtract t))
  | sort {s : SymbolSet} (cs : List Comparator) :
      Derived operand g (.symbols s) → Derived operand g (.symbols (s.sort cs))
  | pop {s rest : SymbolSet} {a : Symbol} :
      Derived operand g (.symbols s) → s.pop = .ok (a, rest) → Derived operand g (.symbols rest)
  | ofPaths {s : PathSet} : Derived operand g (.paths s) → Derived operand g (.symbols s.symbols)
  | ofPathsMatching {s : PathSet} {t : SymbolSet} {pattern : String} :
      Derived operand g (.paths s) → s.symbolsMatching pattern = .ok t →
        Derived operand g (.symbols t)
  | between {s t : SymbolSet} :
      Derived operand g (.symbols s) → operand (.symbols t) → Derived operand g (.paths (s.paths t))
  | unionPaths {s t : PathSet} :
      Derived operand g (.paths s) → operand (.paths t) → Derived operand g (.paths (s.union t))
  | interPaths {s t : PathSet} :
      Derived operand g (.paths s) → operand (.paths t) → Derived operand g (.paths (s.inter t))
  | diffPaths {s t : PathSet} :
      Derived operand g (.paths s) → operand (.paths t) → Derived operand g (.paths (s.diff t))
  | unique {s : PathSet} : Derived operand g (.paths s) → Derived operand g (.paths s.unique)
  | filterPaths {s : PathSet} (p : Predicate) :
      Derived operand g (.paths s) → Derived operand g (.paths (s.filter p).1)
  | slice {s t : PathSet} {first last : PathBound} :
      Derived operand g (.paths s) → s.slice first last = .ok t → Derived operand g (.paths t)

/-! ## What running relations keeps -/

namespace SymbolSet

/-- A property survives what relations do to sets. -/
structure Stable (I : SymbolSet → Prop) : Prop where
  clone : ∀ s, I s → I s.clone
  filter : ∀ s p, I s → I (s.filter p).1
  unionWith : ∀ s t, I s → I t → I (s.unionWith t)
  callees : ∀ s, I s → I s.callees.image ∧ I s.callees.source
  callers : ∀ s, I s → I s.callers.image ∧ I s.callers.source

/-- A relation keeps a property, for what it makes of a set and for the set. -/
def Keeps (I : SymbolSet → Prop) (relation : SymbolSet → Expansion) : Prop :=
  ∀ s, I s → I (relation s).image ∧ I (relation s).source

variable {I : SymbolSet → Prop} {relation : SymbolSet → Expansion}

namespace Stable

theorem grow (hI : Stable I) (hrel : Keeps I relation) (rounds : Nat) {s : SymbolSet} (h : I s) :
    I (SymbolSet.grow relation rounds s) := by
  induction rounds generalizing s with
  | zero => exact h
  | succ rounds ih =>
    obtain ⟨himage, hsource⟩ := hrel s h
    have hgrown := hI.unionWith _ _ hsource himage
    simp only [SymbolSet.grow]
    split
    · exact hgrown
    · exact ih hgrown

theorem reflexiveClosure (hI : Stable I) (hrel : Keeps I relation) {s : SymbolSet} (h : I s) :
    I (s.reflexiveClosure relation) :=
  hI.grow hrel _ (hI.clone s h)

theorem transitiveClosure (hI : Stable I) (hrel : Keeps I relation) :
    Keeps I fun s => s.transitiveClosure relation :=
  fun s h => ⟨hI.reflexiveClosure hrel (hrel s h).1, (hrel s h).2⟩

theorem apply (hI : Stable I) (r : Relation) : Keeps I r.apply := by
  cases r with
  | callees => exact hI.callees
  | callers => exact hI.callers
  | transitiveCallees => exact hI.transitiveClosure hI.callees
  | transitiveCallers => exact hI.transitiveClosure hI.callers
  | reflexiveCallees =>
    intro s h
    simp only [Relation.apply]
    exact ⟨hI.reflexiveClosure hI.callees h, h⟩
  | reflexiveCallers =>
    intro s h
    simp only [Relation.apply]
    exact ⟨hI.reflexiveClosure hI.callers h, h⟩

theorem applyAll (hI : Stable I) (via : List Relation) : Keeps I (Relation.applyAll via) := by
  have hfold : ∀ (rest : List Relation) (s : SymbolSet), I s →
      I (rest.foldl (fun image r => (r.apply image).image) s) := by
    intro rest
    induction rest with
    | nil => exact fun s h => h
    | cons r rest ih => exact fun s h => ih _ (hI.apply r s h).1
  cases via with
  | nil => exact fun s h => ⟨hI.clone s h, h⟩
  | cons r rest => exact fun s h => ⟨hfold rest _ (hI.apply r s h).1, (hI.apply r s h).2⟩

theorem composite (hI : Stable I) (via : List Relation) (p : Predicate) :
    Keeps I (Relation.composite via p) :=
  fun s h => ⟨hI.filter _ p (hI.applyAll via s h).1, (hI.applyAll via s h).2⟩

end Stable

/-! ## Rooted sets -/

/-- The set is of the graph, has all its symbols for its universe, and keeps right answers. -/
structure Rooted (g : CallGraph) (s : SymbolSet) : Prop where
  graph : s.graph = g
  ambient : s.ambient = some (.ofList g.symbols)
  upToDate : s.UpToDate

variable {g : CallGraph} {s t : SymbolSet}

theorem Rooted.derive (h : s.Rooted g) (members : Members) : (s.derive members).Rooted g :=
  ⟨h.graph, h.ambient, upToDate_derive s members⟩

theorem Rooted.replace (h : s.Rooted g) {members : Members}
    (hup : (s.replace members).UpToDate) : (s.replace members).Rooted g :=
  ⟨(s.graph_replace members).trans h.graph, (s.ambient_replace members).trans h.ambient, hup⟩

theorem Rooted.asked {ask : Symbol → List Symbol} {e : Expansion} (h : s.Rooted g)
    (he : Asked ask s e) : e.image.Rooted g ∧ e.source.Rooted g := by
  obtain ⟨kept, himage, -⟩ := he.image
  rw [himage]
  exact ⟨h.derive kept, he.graph.trans h.graph, he.ambient.trans h.ambient, he.upToDate⟩

theorem stable_rooted (g : CallGraph) : Stable (Rooted g) where
  clone s h := h.derive s.members
  filter s p h := s.filter_eq p ▸ h.derive _
  unionWith _ t h _ := h.replace (h.upToDate.unionWith t)
  callees _ h := h.asked h.upToDate.asked_callees
  callers _ h := h.asked h.upToDate.asked_callers

theorem complement_eq (h : s.Rooted g) :
    s.complement = .ok (s.derive (OrderedSet.diff (.ofList g.symbols) s.members)) := by
  unfold complement
  rw [h.ambient]

theorem universeSet_eq (h : s.Rooted g) : s.universeSet = .ok (s.derive (.ofList g.symbols)) := by
  unfold universeSet
  rw [h.ambient]

end SymbolSet

/-- The set is of the graph and has all its symbols for its universe. -/
structure PathSet.Rooted (g : CallGraph) (s : PathSet) : Prop where
  graph : s.graph = g
  ambient : s.ambient = some (.ofList g.symbols)

theorem PathSet.symbolsMatching_cases {s : PathSet} {t : SymbolSet} {pattern : String}
    (h : s.symbolsMatching pattern = .ok t) :
    ∃ keep : Symbol → Bool, t = .ofParts s.graph (.ofList (s.symbolList.filter keep)) s.ambient := by
  obtain ⟨r, -, h⟩ := Outcome.bind_eq_ok.1 h
  cases h
  exact ⟨fun a => r.isMatch a.name, rfl⟩

/-- Rooted sets of either kind. -/
def Collection.Rooted (g : CallGraph) : Collection → Prop
  | .symbols s => s.Rooted g
  | .paths s => s.Rooted g

/-- Whatever operands were met, a derived set is of the graph, has its symbols for a universe
and keeps right answers. -/
theorem Derived.rooted {operand : Collection → Prop} {g : CallGraph} {c : Collection}
    (h : Derived operand g c) : c.Rooted g := by
  have hstable := SymbolSet.stable_rooted g
  induction h with
  | whole => exact ⟨rfl, rfl, SymbolSet.upToDate_ofParts g _ _⟩
  | clone _ ih => exact ih.derive _
  | filter p _ ih => exact hstable.filter _ p ih
  | union _ _ ih => exact ih.derive _
  | inter _ _ ih => exact ih.derive _
  | diff _ _ ih => exact ih.derive _
  | complement _ hok ih =>
    rw [SymbolSet.complement_eq ih] at hok
    cases hok
    exact ih.derive _
  | universeSet _ hok ih =>
    rw [SymbolSet.universeSet_eq ih] at hok
    cases hok
    exact ih.derive _
  | image r _ ih => exact (hstable.apply r _ ih).1
  | source r _ ih => exact (hstable.apply r _ ih).2
  | reflexiveClosure via p _ ih => exact hstable.reflexiveClosure (hstable.composite via p) ih
  | transitiveClosure via p _ ih =>
    exact (hstable.transitiveClosure (hstable.composite via p) _ ih).1
  | transitiveSource via p _ ih =>
    exact (hstable.transitiveClosure (hstable.composite via p) _ ih).2
  | unionWith _ _ ih => exact ih.replace (ih.upToDate.unionWith _)
  | interWith _ _ ih => exact ih.replace (ih.upToDate.interWith _)
  | subtract _ _ ih => exact ih.replace (ih.upToDate.subtract _)
  | sort cs _ ih => exact ⟨ih.graph, ih.ambient, ih.upToDate.sortBy _⟩
  | pop _ hok ih =>
    have hup := SymbolSet.upToDate_of_pop hok
    obtain ⟨members, -, rfl⟩ := SymbolSet.pop_cases hok
    exact ⟨ih.graph, ih.ambient, hup⟩
  | ofPaths _ ih => exact ⟨ih.graph, ih.ambient, SymbolSet.upToDate_ofParts _ _ _⟩
  | ofPathsMatching _ hok ih =>
    obtain ⟨keep, rfl⟩ := PathSet.symbolsMatching_cases hok
    exact ⟨ih.graph, ih.ambient, SymbolSet.upToDate_ofParts _ _ _⟩
  | between _ _ ih => exact ⟨ih.graph, ih.ambient⟩
  | unionPaths _ _ ih => exact ⟨ih.graph, ih.ambient⟩
  | interPaths _ _ ih => exact ⟨ih.graph, ih.ambient⟩
  | diffPaths _ _ ih => exact ⟨ih.graph, ih.ambient⟩
  | unique _ ih => exact ⟨ih.graph, ih.ambient⟩
  | filterPaths p _ ih => exact ⟨ih.graph, ih.ambient⟩
  | slice _ hok ih =>
    obtain ⟨hgraph, hambient, -⟩ := PathSet.exists_of_mem_slice hok
    exact ⟨hgraph.trans ih.graph, hambient.trans ih.ambient⟩

/-! ## Sets within the graph -/

namespace SymbolSet

variable {g : CallGraph} {s t : SymbolSet}

theorem Within.derive (h : s.Within g) {members : Members} (hall : ∀ a ∈ members.toList, g.Has a) :
    (s.derive members).Within g :=
  ⟨h.graph, hall⟩

theorem Within.derive_filter (h : s.Within g) (keep : Symbol → Bool) :
    (s.derive (s.members.filter keep)).Within g := by
  apply h.derive
  intro a ha
  rw [OrderedSet.toList_filter] at ha
  exact h.members a (List.mem_of_mem_filter ha)

theorem Within.filter (h : s.Within g) (p : Predicate) : (s.filter p).1.Within g :=
  ⟨h.graph, fun a ha => h.members a (mem_of_mem_filter ha)⟩

theorem Within.union (h : s.Within g) (ht : t.Within g) : (s.union t).Within g := by
  apply h.derive
  intro a ha
  rcases OrderedSet.mem_union_cases ha with ha | ha
  · exact h.members a ha
  · exact ht.members a ha

theorem Within.replace (h : s.Within g) {members : Members}
    (hall : ∀ a ∈ members.toList, g.Has a) : (s.replace members).Within g := by
  refine ⟨(s.graph_replace members).trans h.graph, ?_⟩
  rw [toList_replace]
  exact hall

theorem Within.unionWith (h : s.Within g) (ht : t.Within g) : (s.unionWith t).Within g := by
  apply h.replace
  intro a ha
  rcases OrderedSet.mem_extend_cases ha with ha | ha
  · exact h.members a ha
  · exact ht.members a ha

theorem Within.replace_retain (h : s.Within g) (keep : Symbol → Bool) :
    (s.replace (s.members.retain keep)).Within g := by
  apply h.replace
  intro a ha
  rw [OrderedSet.toList_retain] at ha
  exact h.members a (List.mem_of_mem_filter ha)

theorem Within.asked {ask : Symbol → List Symbol} {e : Expansion} (h : s.Within g)
    (he : Asked ask s e) (hask : ∀ a, ∀ b ∈ ask a, g.Has b) :
    e.image.Within g ∧ e.source.Within g := by
  obtain ⟨kept, himage, hanswers⟩ := he.image
  rw [himage]
  refine ⟨h.derive ?_, he.graph.trans h.graph, ?_⟩
  · intro b hb
    obtain ⟨a, -, hab⟩ := (hanswers b).1 hb
    exact hask a b hab
  · intro a ha
    unfold toList at ha
    rw [he.source] at ha
    exact h.members a ha

theorem has_of_mem_universe {a : Symbol} (h : a ∈ (OrderedSet.ofList g.symbols : Members).toList) :
    g.Has a :=
  CallGraph.mem_symbols.1 (OrderedSet.mem_of_mem_ofList h)

/-- The set is within the graph and keeps right answers. -/
structure Sound (g : CallGraph) (s : SymbolSet) : Prop where
  within : s.Within g
  upToDate : s.UpToDate

theorem Sound.asked {ask : Symbol → List Symbol} {e : Expansion} (h : s.Sound g)
    (he : Asked ask s e) (hask : ∀ a, ∀ b ∈ ask a, g.Has b) : e.image.Sound g ∧ e.source.Sound g := by
  obtain ⟨himage, hsource⟩ := h.within.asked he hask
  obtain ⟨kept, heq, -⟩ := he.image
  exact ⟨⟨himage, heq ▸ upToDate_derive s kept⟩, ⟨hsource, he.upToDate⟩⟩

theorem stable_sound (g : CallGraph) : Stable (Sound g) where
  clone s h := ⟨h.within.derive h.within.members, upToDate_derive s s.members⟩
  filter s p h := ⟨h.within.filter p, s.filter_eq p ▸ upToDate_derive s _⟩
  unionWith _ t h ht := ⟨h.within.unionWith ht.within, h.upToDate.unionWith t⟩
  callees _ h := h.asked h.upToDate.asked_callees fun _ _ hb =>
    h.within.graph ▸ CallGraph.has_of_mem_calleesOf hb
  callers _ h := h.asked h.upToDate.asked_callers fun _ _ hb =>
    h.within.graph ▸ CallGraph.has_of_mem_callersOf hb

theorem probe_sound {a : Symbol} (ha : g.Has a) : (probe g a).Sound g where
  within := by
    refine ⟨rfl, ?_⟩
    intro b hb
    rw [List.mem_singleton.1 (OrderedSet.mem_of_mem_ofList hb)]
    exact ha
  upToDate := upToDate_ofParts g _ _

end SymbolSet

/-- Sets of either kind within a graph. -/
def Collection.Within (g : CallGraph) : Collection → Prop
  | .symbols s => s.Within g
  | .paths s => s.Within g

/-- From operands within the graph come sets within the graph. -/
theorem Derived.within {operand : Collection → Prop} {g : CallGraph}
    (hoperand : ∀ c, operand c → c.Within g) {c : Collection} (h : Derived operand g c) :
    c.Within g := by
  have hstable := SymbolSet.stable_sound g
  induction h with
  | whole =>
    exact ⟨rfl, fun a => SymbolSet.has_of_mem_universe⟩
  | clone _ ih => exact ih.derive ih.members
  | filter p _ ih => exact ih.filter p
  | union _ ht ih => exact ih.union (hoperand _ ht)
  | inter _ _ ih => exact ih.derive_filter _
  | diff _ _ ih => exact ih.derive_filter _
  | complement hs hok ih =>
    rw [SymbolSet.complement_eq hs.rooted] at hok
    cases hok
    apply ih.derive
    intro a ha
    unfold OrderedSet.diff at ha
    rw [OrderedSet.toList_filter] at ha
    exact SymbolSet.has_of_mem_universe (List.mem_of_mem_filter ha)
  | universeSet hs hok ih =>
    rw [SymbolSet.universeSet_eq hs.rooted] at hok
    cases hok
    exact ih.derive fun a => SymbolSet.has_of_mem_universe
  | image r hs ih => exact (hstable.apply r _ ⟨ih, hs.rooted.upToDate⟩).1.within
  | source r hs ih => exact (hstable.apply r _ ⟨ih, hs.rooted.upToDate⟩).2.within
  | reflexiveClosure via p hs ih =>
    exact (hstable.reflexiveClosure (hstable.composite via p) ⟨ih, hs.rooted.upToDate⟩).within
  | transitiveClosure via p hs ih =>
    exact (hstable.transitiveClosure (hstable.composite via p) _ ⟨ih, hs.rooted.upToDate⟩).1.within
  | transitiveSource via p hs ih =>
    exact (hstable.transitiveClosure (hstable.composite via p) _ ⟨ih, hs.rooted.upToDate⟩).2.within
  | unionWith _ ht ih => exact ih.unionWith (hoperand _ ht)
  | interWith _ _ ih => exact ih.replace_retain _
  | subtract _ _ ih => exact ih.replace_retain _
  | sort cs _ ih => exact ⟨ih.graph, fun a ha => ih.members a (SymbolSet.mem_sortBy.1 ha)⟩
  | pop _ hok ih =>
    obtain ⟨members, hpop, rfl⟩ := SymbolSet.pop_cases hok
    refine ⟨ih.graph, ?_⟩
    intro a ha
    apply ih.members
    show a ∈ OrderedSet.toList _
    rw [OrderedSet.pop?_eq_some hpop]
    exact List.mem_append_left _ ha
  | ofPaths _ ih =>
    refine ⟨ih.graph, ?_⟩
    intro a ha
    obtain ⟨p, hp, hap⟩ := (PathSet.mem_symbols_of_within ih).1 ha
    exact (ih.paths p hp).1.inGraph a hap
  | ofPathsMatching _ hok ih =>
    obtain ⟨keep, rfl⟩ := PathSet.symbolsMatching_cases hok
    refine ⟨ih.graph, ?_⟩
    intro a ha
    obtain ⟨p, hp, hap⟩ :=
      List.mem_flatMap.1 (List.mem_of_mem_filter (OrderedSet.mem_of_mem_ofList ha))
    exact (ih.paths p hp).1.inGraph a hap
  | between _ ht ih => exact SymbolSet.paths_within ih (hoperand _ ht)
  | unionPaths _ ht ih => exact ih.union (hoperand _ ht)
  | interPaths _ _ ih => exact ih.inter _
  | diffPaths _ _ ih => exact ih.diff _
  | unique _ ih => exact ih.unique
  | filterPaths p _ ih => exact ih.filter p
  | slice _ hok ih => exact ih.slice hok

/-! ## Sets drawn from a graph -/

/-- The set comes from the symbols of the graph by operations among sets within the graph. -/
def SymbolSet.DrawnFrom (g : CallGraph) (s : SymbolSet) : Prop :=
  Derived (Collection.Within g) g (.symbols s)

theorem SymbolSet.DrawnFrom.within {g : CallGraph} {s : SymbolSet} (h : s.DrawnFrom g) :
    s.Within g :=
  Derived.within (fun _ hc => hc) h

theorem SymbolSet.DrawnFrom.sound {g : CallGraph} {s : SymbolSet} (h : s.DrawnFrom g) :
    s.Sound g :=
  ⟨h.within, (Derived.rooted h).upToDate⟩

end CallAtlas
