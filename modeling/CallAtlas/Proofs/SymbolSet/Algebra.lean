/-
# `CallAtlas.Proofs.SymbolSet.Algebra` — the sets of a graph are a Boolean algebra

The sets of symbols drawn from one graph are closed under union, intersection,
difference and complement, and up to the test of equality, which does not look at
the order of members, these obey the laws of a Boolean algebra with the whole
program on top.  The sets of paths drawn from the graph obey those of its laws
that need no complement.

Within a graph a set is known by its items: symbols of the graph are told apart
by their identities, and paths by the identities along them.  So a set is a
picture of the set of its items, whatever its kind (`pictures_of_members`), and
the laws are those of sets of items.  A complement is taken in the universe that
a set carries, and every derived set carries the symbols of the graph.
-/
import CallAtlas.Proofs.SetLaws
import CallAtlas.Proofs.SymbolSet.Universe

namespace CallAtlas

/-- The set of paths comes from the symbols of the graph by operations among sets within it. -/
def PathSet.DrawnFrom (g : CallGraph) (s : PathSet) : Prop :=
  Derived (Collection.Within g) g (.paths s)

theorem PathSet.DrawnFrom.within {g : CallGraph} {s : PathSet} (h : s.DrawnFrom g) : s.Within g :=
  Derived.within (fun _ hc => hc) h

/-! ## Sets as pictures of their items -/

section Pictures

variable {α ι κ : Type} [Ord κ] [Std.TransOrd κ] [Std.LawfulEqOrd κ] {key : ι → κ}
variable {P : ι → Prop} (hinj : ∀ a b, P a → P b → key a = key b → a = b)
include hinj

/-- Sets whose items are told apart by their keys are pictures of the sets of their items, if the
operations are those of ordered sets. -/
theorem pictures_of_members {Kind : α → Prop} (members : α → OrderedSet key)
    {equal : α → α → Bool} {union inter diff : α → α → α}
    (hitems : ∀ a, Kind a → ∀ i ∈ (members a).toList, P i)
    (hequal : ∀ a b, Kind a → Kind b → equal a b = (members a).sameKeys (members b))
    (hunion : ∀ a b, Kind a → Kind b → Kind (union a b) ∧
      members (union a b) = (members a).union (members b))
    (hinter : ∀ a b, Kind a → Kind b → Kind (inter a b) ∧
      members (inter a b) = (members a).inter (members b))
    (hdiff : ∀ a b, Kind a → Kind b → Kind (diff a b) ∧
      members (diff a b) = (members a).diff (members b)) :
    Pictures Kind (fun a => {i | i ∈ (members a).toList}) equal union inter diff where
  equal_iff := by
    rintro a b _ _ ⟨ha, rfl⟩ ⟨hb, rfl⟩
    rw [hequal a b ha hb, OrderedSet.sameKeys_iff_mem hinj (hitems a ha) (hitems b hb)]
    exact Set.ext_iff.symm
  union := by
    rintro a b _ _ ⟨ha, rfl⟩ ⟨hb, rfl⟩
    obtain ⟨hkind, hmembers⟩ := hunion a b ha hb
    refine depicts_of_mem hkind fun i => ?_
    rw [hmembers]
    exact OrderedSet.mem_union_iff hinj (hitems a ha) (hitems b hb)
  inter := by
    rintro a b _ _ ⟨ha, rfl⟩ ⟨hb, rfl⟩
    obtain ⟨hkind, hmembers⟩ := hinter a b ha hb
    refine depicts_of_mem hkind fun i => ?_
    rw [hmembers]
    exact OrderedSet.mem_inter_iff hinj (hitems a ha) (hitems b hb)
  diff := by
    rintro a b _ _ ⟨ha, rfl⟩ ⟨hb, rfl⟩
    obtain ⟨hkind, hmembers⟩ := hdiff a b ha hb
    refine depicts_of_mem hkind fun i => ?_
    rw [hmembers]
    exact OrderedSet.mem_diff_iff hinj (hitems a ha) (hitems b hb)

end Pictures

namespace PathSet

variable {g : CallGraph} {s t : PathSet}

/-- The paths of a set. -/
def extent (s : PathSet) : Set CallPath := {p | p ∈ s.toList}

theorem pictures (g : CallGraph) :
    Pictures (DrawnFrom g) extent PathSet.equal PathSet.union PathSet.inter PathSet.diff := by
  refine pictures_of_members (P := fun p => ∀ a ∈ p.symbols, g.Has a) CallPath.eq_of_ids_eq paths
    ?_ ?_ ?_ ?_ ?_
  · exact fun s hs p hp => (hs.within.paths p hp).1.inGraph
  · intro s t hs ht
    rw [equal, hs.within.graph, ht.within.graph, beq_self_eq_true, Bool.true_and]
  · exact fun s t hs ht => ⟨.unionPaths hs ht.within, rfl⟩
  · exact fun s t hs ht => ⟨.interPaths hs ht.within, rfl⟩
  · exact fun s t hs ht => ⟨.diffPaths hs ht.within, rfl⟩

end PathSet

namespace SymbolSet

variable {g : CallGraph} {s t : SymbolSet}

/-- The members of a set. -/
def extent (s : SymbolSet) : Set Symbol := {a | a ∈ s.toList}

theorem pictures (g : CallGraph) :
    Pictures (DrawnFrom g) extent SymbolSet.equal SymbolSet.union SymbolSet.inter SymbolSet.diff := by
  refine pictures_of_members (P := g.Has) (fun _ _ => CallGraph.Has.eq_of_id_eq) members
    ?_ ?_ ?_ ?_ ?_
  · exact fun s hs => hs.within.members
  · intro s t hs ht
    rw [equal, hs.within.graph, ht.within.graph, beq_self_eq_true, Bool.true_and]
  · exact fun s t hs ht => ⟨.union hs ht.within, rfl⟩
  · exact fun s t hs ht => ⟨.inter hs ht.within, rfl⟩
  · exact fun s t hs ht => ⟨.diff hs ht.within, rfl⟩

/-! ## Complements -/

/-- A complement is a picture of the other symbols of the graph. -/
theorem exists_complement (hs : s.DrawnFrom g) :
    ∃ c, s.complement = .ok c ∧ Depicts (DrawnFrom g) extent c ({a | g.Has a} \ s.extent) := by
  have hrooted : s.Rooted g := Derived.rooted hs
  refine ⟨_, complement_eq hrooted, .complement hs (complement_eq hrooted), Set.ext fun a => ?_⟩
  show a ∈ (OrderedSet.diff (.ofList g.symbols) s.members).toList ↔ _
  rw [OrderedSet.mem_diff_iff (fun _ _ => CallGraph.Has.eq_of_id_eq)
    (fun _ => has_of_mem_universe) hs.within.members, mem_universe]
  rfl

theorem depicts_of_complement {c : SymbolSet} (hs : s.DrawnFrom g) (hc : s.complement = .ok c) :
    Depicts (DrawnFrom g) extent c ({a | g.Has a} \ s.extent) := by
  obtain ⟨c', hc', hpic⟩ := exists_complement hs
  obtain rfl : c' = c := Except.ok.inj (hc'.symm.trans hc)
  exact hpic

theorem depicts_whole (g : CallGraph) : Depicts (DrawnFrom g) extent (whole g) {a | g.Has a} :=
  ⟨.whole, Set.ext fun _ => mem_universe⟩

theorem extent_subset (hs : s.DrawnFrom g) : s.extent ⊆ {a | g.Has a} := hs.within.members

/-- Every set drawn from the graph has a complement, and the complements obey the laws of a
Boolean algebra with all symbols on top. -/
structure ComplementLaws (g : CallGraph) (all : SymbolSet) : Prop where
  total : ∀ {s : SymbolSet}, s.DrawnFrom g → ∃ c, s.complement = .ok c ∧ c.DrawnFrom g
  diff_eq : ∀ {s t c : SymbolSet}, s.DrawnFrom g → t.DrawnFrom g → t.complement = .ok c →
    (s.diff t).equal (s.inter c) = true
  involution : ∀ {s c d : SymbolSet}, s.DrawnFrom g →
    s.complement = .ok c → c.complement = .ok d → d.equal s = true
  complement_union : ∀ {s t c d e : SymbolSet}, s.DrawnFrom g → t.DrawnFrom g →
    s.complement = .ok c → t.complement = .ok d → (s.union t).complement = .ok e →
      e.equal (c.inter d) = true
  complement_inter : ∀ {s t c d e : SymbolSet}, s.DrawnFrom g → t.DrawnFrom g →
    s.complement = .ok c → t.complement = .ok d → (s.inter t).complement = .ok e →
      e.equal (c.union d) = true
  union_complement : ∀ {s c : SymbolSet}, s.DrawnFrom g → s.complement = .ok c →
    (s.union c).equal all = true
  inter_complement : ∀ {s c : SymbolSet}, s.DrawnFrom g → s.complement = .ok c →
    (s.inter c).isEmpty = true ∧ s.intersects c = false

/-- The laws of complements are those of sets of symbols in the set of all symbols. -/
theorem complementLaws (g : CallGraph) : ComplementLaws g (whole g) := by
  have hg := pictures g
  have law : ∀ {s t A B}, Depicts (DrawnFrom g) extent s A → Depicts (DrawnFrom g) extent t B →
      A = B → s.equal t = true := fun hs ht => (hg.equal_iff hs ht).2
  have compl : ∀ {s c : SymbolSet}, s.DrawnFrom g → s.complement = .ok c →
      Depicts (DrawnFrom g) extent c ({a | g.Has a} \ s.extent) := depicts_of_complement
  have pic : ∀ {s : SymbolSet}, s.DrawnFrom g → Depicts (DrawnFrom g) extent s s.extent :=
    depicts_items
  refine
    { total := ?total, diff_eq := ?diff_eq, involution := ?involution
      complement_union := ?complement_union, complement_inter := ?complement_inter
      union_complement := ?union_complement, inter_complement := ?inter_complement }
  case total =>
    intro s hs
    obtain ⟨c, hc, hpic⟩ := exists_complement hs
    exact ⟨c, hc, hpic.1⟩
  case diff_eq =>
    intro s t c hs ht hc
    refine law (hg.diff (pic hs) (pic ht)) (hg.inter (pic hs) (compl ht hc)) ?_
    rw [← Set.inter_sdiff_assoc, Set.inter_eq_left.2 (extent_subset hs)]
  case involution =>
    intro s c d hs hc hd
    have hpic := compl hs hc
    refine law (compl hpic.1 hd) (pic hs) ?_
    rw [hpic.2, Set.sdiff_sdiff_cancel_left (extent_subset hs)]
  case complement_union =>
    intro s t c d e hs ht hc hd he
    have hunion := hg.union (pic hs) (pic ht)
    refine law (compl hunion.1 he) (hg.inter (compl hs hc) (compl ht hd)) ?_
    rw [hunion.2, Set.sdiff_inter_sdiff]
  case complement_inter =>
    intro s t c d e hs ht hc hd he
    have hinter := hg.inter (pic hs) (pic ht)
    refine law (compl hinter.1 he) (hg.union (compl hs hc) (compl ht hd)) ?_
    rw [hinter.2, Set.sdiff_inter]
  case union_complement =>
    intro s c hs hc
    refine law (hg.union (pic hs) (compl hs hc)) (depicts_whole g) ?_
    exact Set.union_sdiff_cancel (extent_subset hs)
  case inter_complement =>
    intro s c hs hc
    have hinter := hg.inter (pic hs) (compl hs hc)
    rw [Set.inter_sdiff_self] at hinter
    have hempty : (s.inter c).isEmpty = true :=
      (OrderedSet.isEmpty_iff _).2 (List.eq_nil_iff_forall_not_mem.2 fun a ha => hinter.2.subset ha)
    refine ⟨hempty, ?_⟩
    rw [← Bool.not_eq_true, intersects, OrderedSet.intersects_iff_inter, Bool.not_eq_false]
    exact hempty

/-! ## The algebra of a graph -/

/-- The sets of symbols drawn from a finalised graph are a Boolean algebra with the whole program
on top, up to equality, and its sets of paths obey those of the laws that need no complement.
Sets are equal if they have the same items, and intersect if they have one in common. -/
theorem drawn_sets_boolean (hg : g.Finalised) :
    SetLaws (DrawnFrom g) SymbolSet.equal SymbolSet.union SymbolSet.inter SymbolSet.diff ∧
    (∃ all, g.wholeProgram = .ok all ∧ all.DrawnFrom g ∧ ComplementLaws g all) ∧
    (∀ s t : SymbolSet, (s.intersects t = true ↔ (s.inter t).isEmpty = false) ∧
      s.intersects t = t.intersects s) ∧
    SetLaws (PathSet.DrawnFrom g) PathSet.equal PathSet.union PathSet.inter PathSet.diff ∧
    (∀ s t : SymbolSet, s.DrawnFrom g → t.DrawnFrom g →
      (s.equal t = true ↔ ∀ a, a ∈ s.toList ↔ a ∈ t.toList)) ∧
    ∀ s t : PathSet, s.DrawnFrom g → t.DrawnFrom g →
      (s.equal t = true ↔ ∀ p, p ∈ s.toList ↔ p ∈ t.toList) := by
  refine ⟨(pictures g).setLaws, ⟨whole g, if_pos hg.computed, .whole, complementLaws g⟩, ?_,
    (PathSet.pictures g).setLaws, ?_, ?_⟩
  · exact fun s t => ⟨OrderedSet.intersects_iff_inter _ _, OrderedSet.intersects_comm _ _⟩
  · intro s t hs ht
    exact ((pictures g).equal_iff (depicts_items hs) (depicts_items ht)).trans Set.ext_iff
  · intro s t hs ht
    exact ((PathSet.pictures g).equal_iff (depicts_items hs) (depicts_items ht)).trans Set.ext_iff

/-- The callees of two functions that call each other come in another order than the functions. -/
theorem drawn_sets_boolean_mutualPair :
    (CallGraph.mutualPair .standard).Finalised ∧
      (whole (.mutualPair .standard)).DrawnFrom (.mutualPair .standard) ∧
      (whole (.mutualPair .standard)).callees.image.DrawnFrom (.mutualPair .standard) ∧
      ((whole (.mutualPair .standard)).union (whole (.mutualPair .standard)).callees.image).equal
        ((whole (.mutualPair .standard)).callees.image.union (whole (.mutualPair .standard))) =
          true := by
  have hg := CallGraph.finalised_mutualPair .standard
  have hcallees : (whole (.mutualPair .standard)).callees.image.DrawnFrom (.mutualPair .standard) :=
    .image .callees .whole
  obtain ⟨hlaws, -⟩ := drawn_sets_boolean hg
  exact ⟨hg, .whole, hcallees, hlaws.union_comm .whole hcallees⟩

end SymbolSet

end CallAtlas
