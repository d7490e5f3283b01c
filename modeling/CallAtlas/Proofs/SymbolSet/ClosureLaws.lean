/-
# `CallAtlas.Proofs.SymbolSet.ClosureLaws` — closures under any relation

The loop of a reflexive closure does not ask what a relation means.  For its laws it
is enough that the relation stays within the graph and looks at the members of a
set only (`Functional`): the loop then comes to rest at a set that holds the first
one and its own image, and to start it once more from there changes nothing.  Under
a relation that makes more of more (`Inclusive`) this is the smallest such set, and
under one that makes of a union what it makes of the parts (`Distributes`) the other
closure lacks at most the members.

Relations that follow steps between symbols have all of this
(`Expands.functional`, `Expands.distributes`), and they can be run one after the
other and filtered.  Each of the six relations follows steps, its own closures
among them, so every composite relation does (`exists_expands_composite`).
-/
import CallAtlas.Proofs.Graph.Failure
import CallAtlas.Proofs.Predicate.Noting
import CallAtlas.Proofs.SymbolSet.Algebra
import CallAtlas.Proofs.SymbolSet.Reachability

namespace CallAtlas

namespace SymbolSet

variable {g : CallGraph} {relation : SymbolSet → Expansion} {s t r : SymbolSet}

/-! ## Members -/

theorem Within.equal_iff (hs : s.Within g) (ht : t.Within g) :
    s.equal t = true ↔ s.extent = t.extent := by
  unfold equal
  rw [hs.graph, ht.graph, beq_self_eq_true, Bool.true_and,
    OrderedSet.sameKeys_iff_mem (fun _ _ => CallGraph.Has.eq_of_id_eq) hs.members ht.members]
  exact Set.ext_iff.symm

theorem Within.extent_union (hs : s.Within g) (ht : t.Within g) :
    (s.union t).extent = s.extent ∪ t.extent :=
  Set.ext fun _ => OrderedSet.mem_union_iff (fun _ _ => CallGraph.Has.eq_of_id_eq)
    hs.members ht.members

theorem Sound.union (hs : s.Sound g) (ht : t.Sound g) : (s.union t).Sound g :=
  ⟨hs.within.union ht.within, upToDate_derive s _⟩

/-- A list without repetitions of no other items than those of a set is no longer than it. -/
theorem length_le_size {l : List Symbol} (hnodup : (l.map Symbol.id).Nodup)
    (hsub : ∀ a ∈ l, a ∈ s.toList) : l.length ≤ s.size := by
  have hle := (List.Nodup.of_map Symbol.id hnodup).subperm hsub |>.length_le
  exact Nat.le_trans hle (Nat.le_of_eq s.members.size_eq.symm)

/-- The symbols of the graph are the members and those outside. -/
theorem Within.symbolCount_le (hs : s.Within g) :
    g.symbolCount ≤ s.size + ((whole g).diff s).size := by
  have hinside : (g.symbols.filter s.contains).length ≤ s.size := by
    refine length_le_size (g.nodup_symbols.sublist (List.filter_sublist.map Symbol.id)) ?_
    intro a ha
    obtain ⟨hmem, hcontains⟩ := List.mem_filter.1 ha
    exact (OrderedSet.contains_iff_mem (fun _ _ => CallGraph.Has.eq_of_id_eq) hs.members
      (CallGraph.mem_symbols.1 hmem)).1 hcontains
  have houtside : ((whole g).diff s).size = (g.symbols.filter fun a => !s.contains a).length := by
    show ((OrderedSet.ofList g.symbols : Members).diff s.members).size = _
    rw [OrderedSet.size_eq, OrderedSet.toList_diff, toList_universe]
    rfl
  have hsplit := g.symbols.length_eq_length_filter_add s.contains
  rw [CallGraph.length_symbols] at hsplit
  omega

/-! ## Relations that look at members -/

/-- The relation makes sets of the graph from sets of the graph and looks at nothing but their
members. -/
structure Functional (g : CallGraph) (relation : SymbolSet → Expansion) : Prop
    extends Grows g relation where
  congr : ∀ s t, s.Sound g → t.Sound g → s.extent = t.extent →
    (relation s).image.extent = (relation t).image.extent

/-- Of more members the relation makes more. -/
def Inclusive (g : CallGraph) (relation : SymbolSet → Expansion) : Prop :=
  ∀ s t, s.Sound g → t.Sound g → s.extent ⊆ t.extent →
    (relation s).image.extent ⊆ (relation t).image.extent

/-- Of a union the relation makes what it makes of the parts. -/
def Distributes (g : CallGraph) (relation : SymbolSet → Expansion) : Prop :=
  ∀ s t, s.Sound g → t.Sound g →
    (relation (s.union t)).image.extent = (relation s).image.extent ∪ (relation t).image.extent

/-- The relation does not lead out of the set. -/
def ClosedUnder (relation : SymbolSet → Expansion) (s : SymbolSet) : Prop :=
  (relation s).image.extent ⊆ s.extent

section Functional

variable (hf : Functional g relation)
include hf

theorem Functional.extent_enlarge (hs : s.Sound g) :
    (enlarge relation s).extent = s.extent ∪ (relation s).image.extent :=
  Set.ext fun _ => hf.toGrows.mem_enlarge hs

theorem Functional.reflexiveClosure_sound (hs : s.Sound g) :
    (s.reflexiveClosure relation).Sound g :=
  (stable_sound g).reflexiveClosure hf.keeps hs

theorem Functional.inclusive (hd : Distributes g relation) : Inclusive g relation := by
  intro s t hs ht hsub
  have hunion : (s.union t).extent = t.extent := by
    rw [hs.within.extent_union ht.within, Set.union_eq_right.2 hsub]
  rw [← hf.congr (s.union t) t (hs.union ht) ht hunion, hd s t hs ht]
  exact Set.subset_union_left

/-- What rounds add stays, and at rest the image has been added. -/
theorem Functional.closed_of_settles {n : Nat} (h : Settles relation n s r) (hs : s.Sound g) :
    s.extent ⊆ r.extent ∧ ClosedUnder relation r := by
  induction h with
  | @done s hsize =>
    have hround := hf.toGrows.enlarge_sound hs
    have hrest : (enlarge relation s).extent = s.extent := by
      unfold extent
      rw [hf.toGrows.toList_enlarge_of_size_eq hs hsize]
    refine ⟨hrest.symm.subset, ?_⟩
    unfold ClosedUnder
    rw [hf.congr _ s hround hs hrest, hf.extent_enlarge hs]
    exact Set.subset_union_right
  | @more n s r _ _ ih =>
    obtain ⟨hsub, hclosed⟩ := ih (hf.toGrows.enlarge_sound hs)
    rw [hf.extent_enlarge hs] at hsub
    exact ⟨Set.subset_union_left.trans hsub, hclosed⟩

/-- Rounds do not leave a closed set that the first one lies in. -/
theorem Functional.subset_of_settles (hi : Inclusive g relation) {n : Nat}
    (h : Settles relation n s r) (hs : s.Sound g) (ht : t.Sound g) (hsub : s.extent ⊆ t.extent)
    (hclosed : ClosedUnder relation t) : r.extent ⊆ t.extent := by
  have hround : ∀ s : SymbolSet, s.Sound g → s.extent ⊆ t.extent →
      (enlarge relation s).extent ⊆ t.extent := by
    intro s hs hsub
    rw [hf.extent_enlarge hs]
    exact Set.union_subset hsub ((hi s t hs ht hsub).trans hclosed)
  induction h with
  | @done s _ => exact hround s hs hsub
  | @more n s r _ _ ih => exact ih (hf.toGrows.enlarge_sound hs) (hround s hs hsub)

/-- The loop stops after at most one round more than there are symbols outside. -/
theorem Functional.settles (hs : s.Sound g) :
    ∃ n ≤ ((whole g).diff s).size + 1,
      Settles relation n s.clone (s.reflexiveClosure relation) := by
  obtain ⟨n, hn, hsettles⟩ := hf.toGrows.settles hs
  have := hs.within.symbolCount_le
  exact ⟨n, by omega, hsettles⟩

theorem Functional.closed_reflexiveClosure (hs : s.Sound g) :
    s.extent ⊆ (s.reflexiveClosure relation).extent ∧
      ClosedUnder relation (s.reflexiveClosure relation) := by
  obtain ⟨n, -, hsettles⟩ := hf.settles hs
  show s.clone.extent ⊆ _ ∧ _
  exact hf.closed_of_settles hsettles ((stable_sound g).clone s hs)

/-- From a closed set the loop does not get anywhere. -/
theorem Functional.extent_reflexiveClosure_of_closed (hs : s.Sound g)
    (hclosed : ClosedUnder relation s) : (s.reflexiveClosure relation).extent = s.extent := by
  have hclone := (stable_sound g).clone s hs
  have hstill : (enlarge relation s.clone).extent = s.extent := by
    rw [hf.extent_enlarge hclone, hf.congr s.clone s hclone hs rfl]
    exact Set.union_eq_left.2 hclosed
  have hsize : (enlarge relation s.clone).size = s.clone.size := by
    refine Nat.le_antisymm ?_ (hf.toGrows.size_le_size_enlarge hclone)
    unfold size
    rw [OrderedSet.size_eq]
    exact length_le_size (enlarge relation s.clone).members.nodup_toList
      fun a ha => hstill.subset ha
  have hgrow : s.reflexiveClosure relation = enlarge relation s.clone :=
    (Settles.done hsize).grow_eq (Nat.succ_pos _)
  rw [hgrow, hstill]

theorem Functional.subset_of_closed (hi : Inclusive g relation) (hs : s.Sound g) (ht : t.Sound g)
    (hsub : s.extent ⊆ t.extent) (hclosed : ClosedUnder relation t) :
    (s.reflexiveClosure relation).extent ⊆ t.extent := by
  obtain ⟨n, -, hsettles⟩ := hf.settles hs
  exact hf.subset_of_settles hi hsettles ((stable_sound g).clone s hs) ht hsub hclosed

/-- The members are all that the other closure lacks. -/
theorem Functional.extent_union_transitiveClosure (hd : Distributes g relation) (hs : s.Sound g) :
    s.extent ∪ (s.transitiveClosure relation).image.extent =
      (s.reflexiveClosure relation).extent := by
  have hi := hf.inclusive hd
  have hseed := (hf.keeps s hs).1
  obtain ⟨hstart, hrest⟩ := hf.closed_reflexiveClosure hs
  obtain ⟨hfirst, hlater⟩ := hf.closed_reflexiveClosure hseed
  have hother := hf.reflexiveClosure_sound hseed
  have hunion := hs.within.extent_union hother.within
  rw [image_transitiveClosure]
  refine Set.Subset.antisymm (Set.union_subset hstart ?_) ?_
  · have himage := hi _ _ hs (hf.reflexiveClosure_sound hs) hstart
    exact hf.subset_of_closed hi hseed (hf.reflexiveClosure_sound hs) (himage.trans hrest) hrest
  · rw [← hunion]
    refine hf.subset_of_closed hi hs (hs.union hother) ?_ ?_
    · rw [hunion]
      exact Set.subset_union_left
    · unfold ClosedUnder
      rw [hd s _ hs hother, hunion]
      exact (Set.union_subset hfirst hlater).trans Set.subset_union_right

end Functional

/-! ## Relations that follow steps -/

section Expands

variable {next after : Symbol → Symbol → Prop}

theorem Expands.functional (he : Expands g next relation) : Functional g relation where
  toGrows := he.grows
  congr s t hs ht hsame := by
    refine Set.ext fun b => ?_
    have hmem : ∀ a, a ∈ s.toList ↔ a ∈ t.toList := Set.ext_iff.1 hsame
    refine (he.mem_image s hs b).trans (Iff.trans ?_ (he.mem_image t ht b).symm)
    simp only [hmem]

theorem Expands.distributes (he : Expands g next relation) : Distributes g relation := by
  intro s t hs ht
  have hmem : ∀ a, a ∈ (s.union t).toList ↔ a ∈ s.toList ∨ a ∈ t.toList :=
    Set.ext_iff.1 (hs.within.extent_union ht.within)
  refine Set.ext fun b => ?_
  refine (he.mem_image _ (hs.union ht) b).trans (Iff.trans ?_
    (or_congr (he.mem_image s hs b) (he.mem_image t ht b)).symm)
  simp only [hmem, or_and_right, exists_or]

/-- Steps can be followed one after the other. -/
theorem Expands.andThen {further : SymbolSet → Expansion} (he : Expands g next relation)
    (hf : Expands g after further) :
    Expands g (fun a c => ∃ b, next a b ∧ after b c)
      fun s => ⟨(further (relation s).image).image, (relation s).source⟩ where
  keeps s hs := ⟨(hf.keeps _ (he.keeps s hs).1).1, (he.keeps s hs).2⟩
  source := he.source
  mem_image s hs c := by
    rw [hf.mem_image _ (he.keeps s hs).1]
    constructor
    · rintro ⟨b, hb, hbc⟩
      obtain ⟨a, ha, hab⟩ := (he.mem_image s hs b).1 hb
      exact ⟨a, ha, b, hab, hbc⟩
    · rintro ⟨a, ha, b, hab, hbc⟩
      exact ⟨b, (he.mem_image s hs b).2 ⟨a, ha, hab⟩, hbc⟩

/-- Steps can be left out by where they lead. -/
theorem Expands.filter (he : Expands g next relation) (p : Predicate) :
    Expands g (fun a b => next a b ∧ p.holds g (.symbol b) = true)
      fun s => ⟨((relation s).image.filter p).1, (relation s).source⟩ where
  keeps s hs := ⟨(stable_sound g).filter _ p (he.keeps s hs).1, (he.keeps s hs).2⟩
  source := he.source
  mem_image s hs b := by
    rw [SymbolSet.toList_filter, Predicate.keep_eq_filter_holds, List.mem_filter,
      he.mem_image s hs, (he.keeps s hs).1.within.graph, ← exists_and_right]
    simp only [and_assoc]

theorem Expands.reflexive (he : Expands g next relation) :
    Expands g (fun a b => ∃ n, Chain next n a b) fun s => ⟨s.reflexiveClosure relation, s⟩ where
  keeps _ hs := ⟨(stable_sound g).reflexiveClosure he.keeps hs, hs⟩
  source _ _ := rfl
  mem_image _ hs _ := he.mem_reflexiveClosure hs

theorem Expands.transitive (he : Expands g next relation) :
    Expands g (fun a b => ∃ n, Chain next (n + 1) a b) fun s => s.transitiveClosure relation where
  keeps := (stable_sound g).transitiveClosure he.keeps
  source := he.source
  mem_image _ hs _ := he.mem_transitiveClosure hs

theorem expands_callersOf (g : CallGraph) :
    Expands g (fun b a => a ∈ g.callersOf b) callers where
  keeps := (stable_sound g).callers
  source _ h := h.upToDate.asked_callers.source
  mem_image s h a := by
    rw [h.upToDate.asked_callers.mem_image, h.within.graph]

theorem exists_expands_apply (g : CallGraph) (r : Relation) : ∃ next, Expands g next r.apply := by
  have hcallees := expands_callees g
  have hcallers := expands_callersOf g
  cases r with
  | callees => exact ⟨_, hcallees⟩
  | callers => exact ⟨_, hcallers⟩
  | transitiveCallees => exact ⟨_, hcallees.transitive⟩
  | transitiveCallers => exact ⟨_, hcallers.transitive⟩
  | reflexiveCallees => exact ⟨_, hcallees.reflexive⟩
  | reflexiveCallers => exact ⟨_, hcallers.reflexive⟩

theorem expands_clone (g : CallGraph) : Expands g Eq fun s => ⟨s.clone, s⟩ where
  keeps s hs := ⟨(stable_sound g).clone s hs, hs⟩
  source _ _ := rfl
  mem_image s _ b := by
    show b ∈ s.toList ↔ _
    simp

theorem exists_expands_applyAll (g : CallGraph) (via : List Relation) :
    ∃ next, Expands g next (Relation.applyAll via) := by
  -- the relations after the first run on what has come out so far
  have hrest : ∀ (rest : List Relation) {next} {relation : SymbolSet → Expansion},
      Expands g next relation → ∃ next, Expands g next fun s =>
        ⟨rest.foldl (fun image r => (r.apply image).image) (relation s).image,
          (relation s).source⟩ := by
    intro rest
    induction rest with
    | nil => exact fun {next} _ he => ⟨next, he⟩
    | cons r rest ih =>
      intro _ _ he
      obtain ⟨_, hr⟩ := exists_expands_apply g r
      exact ih (he.andThen hr)
  cases via with
  | nil => exact ⟨_, expands_clone g⟩
  | cons r rest =>
    obtain ⟨_, hr⟩ := exists_expands_apply g r
    exact hrest rest hr

theorem exists_expands_composite (g : CallGraph) (via : List Relation) (p : Predicate) :
    ∃ next, Expands g next (Relation.composite via p) := by
  obtain ⟨_, he⟩ := exists_expands_applyAll g via
  exact ⟨_, he.filter p⟩

end Expands

/-! ## The laws -/

/-- Under every relation that makes sets of the graph from sets of the graph by their members, the
loop of a reflexive closure stops after at most one round more than there are symbols outside, at
a set that holds the first one, is closed, and is its own closure.  If the relation makes more of
more this is the smallest closed set around the first one, and the closure makes more of more, too.
The other closure is that of the image, and lacks at most the members if the relation makes of
unions what it makes of the parts; composite relations do. -/
theorem closure_laws (hf : Functional g relation) (hs : s.Sound g) :
    (∃ n ≤ ((whole g).diff s).size + 1,
      Settles relation n s.clone (s.reflexiveClosure relation)) ∧
    s.extent ⊆ (s.reflexiveClosure relation).extent ∧
    (relation (s.reflexiveClosure relation)).image.extent ⊆
      (s.reflexiveClosure relation).extent ∧
    ((s.reflexiveClosure relation).reflexiveClosure relation).equal
      (s.reflexiveClosure relation) = true ∧
    (Inclusive g relation → ∀ t : SymbolSet, t.Sound g → s.extent ⊆ t.extent →
      ((relation t).image.extent ⊆ t.extent →
        (s.reflexiveClosure relation).extent ⊆ t.extent) ∧
      (s.reflexiveClosure relation).extent ⊆ (t.reflexiveClosure relation).extent) ∧
    (s.transitiveClosure relation).image = (relation s).image.reflexiveClosure relation ∧
    (Distributes g relation →
      (s.union (s.transitiveClosure relation).image).equal (s.reflexiveClosure relation) = true) ∧
    ∀ (via : List Relation) (p : Predicate), Functional g (Relation.composite via p) ∧
      Distributes g (Relation.composite via p) := by
  have hsound := hf.reflexiveClosure_sound hs
  obtain ⟨hstart, hclosed⟩ := hf.closed_reflexiveClosure hs
  refine ⟨hf.settles hs, hstart, hclosed, ?_, ?_, image_transitiveClosure relation s, ?_, ?_⟩
  · rw [(hf.reflexiveClosure_sound hsound).within.equal_iff hsound.within]
    exact hf.extent_reflexiveClosure_of_closed hsound hclosed
  · intro hi t ht hsub
    obtain ⟨hstart', hclosed'⟩ := hf.closed_reflexiveClosure ht
    exact ⟨hf.subset_of_closed hi hs ht hsub,
      hf.subset_of_closed hi hs (hf.reflexiveClosure_sound ht) (hsub.trans hstart') hclosed'⟩
  · intro hd
    have hother := ((stable_sound g).transitiveClosure hf.keeps s hs).1
    rw [(hs.union hother).within.equal_iff hsound.within, hs.within.extent_union hother.within]
    exact hf.extent_union_transitiveClosure hd hs
  · intro via p
    obtain ⟨_, he⟩ := exists_expands_composite g via p
    exact ⟨he.functional, he.distributes⟩

/-- From a function through those that reach it to what they call, variables left out. -/
theorem closure_laws_mutualPair :
    let relation := Relation.composite [.transitiveCallers, .callees] .isFunction
    let s := probe (.mutualPair .standard) CallGraph.ping
    Functional (.mutualPair .standard) relation ∧ s.Sound (.mutualPair .standard) ∧
      ((s.reflexiveClosure relation).reflexiveClosure relation).equal
        (s.reflexiveClosure relation) = true ∧
      (s.union (s.transitiveClosure relation).image).equal (s.reflexiveClosure relation) = true := by
  intro relation s
  obtain ⟨_, he⟩ := exists_expands_composite (.mutualPair .standard)
    [.transitiveCallers, .callees] .isFunction
  have hs : s.Sound (.mutualPair .standard) := probe_sound rfl
  obtain ⟨-, -, -, htwice, -, -, hunion, -⟩ := closure_laws he.functional hs
  exact ⟨he.functional, hs, htwice, hunion he.distributes⟩

end SymbolSet

end CallAtlas
