/-
# `CallAtlas.Proofs.SymbolSet.Foreign` — operands of another graph

A set is native if its symbols, or the symbols of its paths, are symbols of its own
graph.  The operations that take a second set know its items by their identities only
and do not ask which graph they are of.  So with an operand of another graph

* a union takes over the items whose identities are new to it, and then it is not native
  (`TakesOver`); every other operation makes native sets of native ones, as one lemma
  for each says (`Collection.Settled`);
* items that have an identity in common count as one: what a union adds, what an
  intersection keeps and what a difference takes away is decided by that
  (`SymbolSet.MeetsByIdentity`).

A set that comes about in this way is `Derived` all the same, and its graph, its
universe and its kept answers are right; what is said here is about its items.
-/
import CallAtlas.Proofs.Path.Obtained
import Mathlib.Data.List.Nodup

namespace CallAtlas

namespace Collection

/-- The graph that a set is of. -/
def graph : Collection → CallGraph
  | .symbols s => s.graph
  | .paths s => s.graph

/-- The symbols in a set, or on its paths. -/
def symbolList : Collection → List Symbol
  | .symbols s => s.toList
  | .paths s => s.symbolList

/-- All symbols in the set are symbols of its graph. -/
def Native (c : Collection) : Prop := ∀ a ∈ c.symbolList, c.graph.Has a

/-- The set comes from the whole of the graph, by operations with any operands, and its symbols
are symbols of the graph. -/
structure Settled (g : CallGraph) (c : Collection) : Prop where
  derived : Derived (fun _ => True) g c
  has : ∀ a ∈ c.symbolList, g.Has a

end Collection

/-! ## Taking over -/

/-- Some member of the second set is not of the first set's graph, and its identity is new to the
first set. -/
def SymbolSet.TakesOver (s t : SymbolSet) : Prop :=
  ∃ b ∈ t.toList, b.id ∉ s.toList.map Symbol.id ∧ ¬s.graph.Has b

/-- On some path of the second set, the identities along which are new to the first set, there is
a symbol that is not of the first set's graph. -/
def PathSet.TakesOver (s t : PathSet) : Prop :=
  ∃ p ∈ t.toList, p.ids ∉ s.toList.map CallPath.ids ∧ ∃ b ∈ p.symbols, ¬s.graph.Has b

namespace SymbolSet

variable {s t : SymbolSet}

theorem mem_union {b : Symbol} :
    b ∈ (s.union t).toList ↔ b ∈ s.toList ∨ b ∈ t.toList ∧ b.id ∉ s.toList.map Symbol.id :=
  s.members.mem_union t.members

theorem toList_unionWith (s t : SymbolSet) : (s.unionWith t).toList = (s.union t).toList :=
  (s.toList_replace _).trans (s.members.toList_extend_toList t.members)

theorem toList_replace_retain (s : SymbolSet) (keep : Symbol → Bool) :
    (s.replace (s.members.retain keep)).toList = (s.members.filter keep).toList := by
  rw [toList_replace, OrderedSet.toList_retain, OrderedSet.toList_filter]

theorem toList_interWith (s t : SymbolSet) : (s.interWith t).toList = (s.inter t).toList :=
  s.toList_replace_retain t.contains

theorem toList_subtract (s t : SymbolSet) : (s.subtract t).toList = (s.diff t).toList :=
  s.toList_replace_retain fun a => !t.contains a

end SymbolSet

namespace PathSet

variable {s t : PathSet}

theorem mem_symbolList {a : Symbol} : a ∈ s.symbolList ↔ ∃ p ∈ s.toList, a ∈ p.symbols :=
  List.mem_flatMap

theorem mem_union {p : CallPath} :
    p ∈ (s.union t).toList ↔ p ∈ s.toList ∨ p ∈ t.toList ∧ p.ids ∉ s.toList.map CallPath.ids :=
  OrderedSet.mem_union s.paths t.paths

end PathSet

/-! ## What keeps to the graph -/

namespace Collection

variable {g : CallGraph} {s t : SymbolSet} {ps qs : PathSet}

theorem Settled.graph_eq {c : Collection} (h : c.Settled g) : c.graph = g := by
  cases c with
  | symbols s => exact (Derived.rooted h.derived).graph
  | paths s => exact (Derived.rooted h.derived).graph

theorem Settled.native {c : Collection} (h : c.Settled g) : c.Native := by
  unfold Native
  rw [h.graph_eq]
  exact h.has

theorem Settled.sound (h : Settled g (.symbols s)) : s.Sound g :=
  have hrooted : s.Rooted g := Derived.rooted h.derived
  ⟨⟨hrooted.graph, h.has⟩, hrooted.upToDate⟩

theorem settled_whole (g : CallGraph) : Settled g (.symbols (.whole g)) :=
  ⟨.whole, fun _ => SymbolSet.has_of_mem_universe⟩

/-- A derived set with symbols of a settled one is settled. -/
theorem Settled.of_subset {c d : Collection} (h : c.Settled g) (hd : Derived (fun _ => True) g d)
    (hsub : ∀ a ∈ d.symbolList, a ∈ c.symbolList) : d.Settled g :=
  ⟨hd, fun a ha => h.has a (hsub a ha)⟩

theorem Settled.clone (h : Settled g (.symbols s)) : Settled g (.symbols s.clone) :=
  h.of_subset (.clone h.derived) fun _ ha => ha

theorem Settled.filter (h : Settled g (.symbols s)) (p : Predicate) :
    Settled g (.symbols (s.filter p).1) :=
  h.of_subset (.filter p h.derived) fun _ => SymbolSet.mem_of_mem_filter

theorem Settled.inter (h : Settled g (.symbols s)) (t : SymbolSet) :
    Settled g (.symbols (s.inter t)) :=
  h.of_subset (.inter h.derived trivial) fun _ => OrderedSet.mem_of_mem_filter

theorem Settled.diff (h : Settled g (.symbols s)) (t : SymbolSet) :
    Settled g (.symbols (s.diff t)) :=
  h.of_subset (.diff h.derived trivial) fun _ => OrderedSet.mem_of_mem_filter

theorem Settled.interWith (h : Settled g (.symbols s)) (t : SymbolSet) :
    Settled g (.symbols (s.interWith t)) :=
  ⟨.interWith h.derived trivial, (h.sound.within.replace_retain _).members⟩

theorem Settled.subtract (h : Settled g (.symbols s)) (t : SymbolSet) :
    Settled g (.symbols (s.subtract t)) :=
  ⟨.subtract h.derived trivial, (h.sound.within.replace_retain _).members⟩

theorem Settled.complement (h : Settled g (.symbols s)) (hok : s.complement = .ok t) :
    Settled g (.symbols t) := by
  refine ⟨.complement h.derived hok, ?_⟩
  rw [SymbolSet.complement_eq (Derived.rooted h.derived)] at hok
  cases hok
  intro a ha
  exact SymbolSet.has_of_mem_universe (OrderedSet.mem_of_mem_filter ha)

theorem Settled.universeSet (h : Settled g (.symbols s)) (hok : s.universeSet = .ok t) :
    Settled g (.symbols t) := by
  refine ⟨.universeSet h.derived hok, ?_⟩
  rw [SymbolSet.universeSet_eq (Derived.rooted h.derived)] at hok
  cases hok
  exact fun a => SymbolSet.has_of_mem_universe

theorem Settled.image (h : Settled g (.symbols s)) (r : Relation) :
    Settled g (.symbols (r.apply s).image) :=
  ⟨.image r h.derived, ((SymbolSet.stable_sound g).apply r s h.sound).1.within.members⟩

theorem Settled.source (h : Settled g (.symbols s)) (r : Relation) :
    Settled g (.symbols (r.apply s).source) :=
  ⟨.source r h.derived, ((SymbolSet.stable_sound g).apply r s h.sound).2.within.members⟩

section Closures

variable (h : Settled g (.symbols s)) (via : List Relation) (p : Predicate)
include h

theorem Settled.reflexiveClosure :
    Settled g (.symbols (s.reflexiveClosure (Relation.composite via p))) :=
  have hstable := SymbolSet.stable_sound g
  ⟨.reflexiveClosure via p h.derived,
    (hstable.reflexiveClosure (hstable.composite via p) h.sound).within.members⟩

theorem Settled.transitiveClosure :
    Settled g (.symbols (s.transitiveClosure (Relation.composite via p)).image) :=
  have hstable := SymbolSet.stable_sound g
  ⟨.transitiveClosure via p h.derived,
    (hstable.transitiveClosure (hstable.composite via p) s h.sound).1.within.members⟩

theorem Settled.transitiveSource :
    Settled g (.symbols (s.transitiveClosure (Relation.composite via p)).source) :=
  have hstable := SymbolSet.stable_sound g
  ⟨.transitiveSource via p h.derived,
    (hstable.transitiveClosure (hstable.composite via p) s h.sound).2.within.members⟩

end Closures

theorem Settled.sort (h : Settled g (.symbols s)) (cs : List Comparator) :
    Settled g (.symbols (s.sort cs)) :=
  h.of_subset (.sort cs h.derived) fun _ => SymbolSet.mem_sortBy.1

theorem Settled.pop {a : Symbol} (h : Settled g (.symbols s)) (hok : s.pop = .ok (a, t)) :
    Settled g (.symbols t) := by
  refine h.of_subset (.pop h.derived hok) fun b hb => ?_
  obtain ⟨members, hpop, rfl⟩ := SymbolSet.pop_cases hok
  show b ∈ OrderedSet.toList _
  rw [OrderedSet.pop?_eq_some hpop]
  exact List.mem_append_left _ hb

theorem Settled.ofPaths (h : Settled g (.paths ps)) : Settled g (.symbols ps.symbols) :=
  h.of_subset (.ofPaths h.derived) fun _ => OrderedSet.mem_of_mem_ofList

theorem Settled.ofPathsMatching {pattern : String} (h : Settled g (.paths ps))
    (hok : ps.symbolsMatching pattern = .ok t) : Settled g (.symbols t) := by
  refine h.of_subset (.ofPathsMatching h.derived hok) fun a ha => ?_
  obtain ⟨keep, rfl⟩ := PathSet.symbolsMatching_cases hok
  exact List.mem_of_mem_filter (OrderedSet.mem_of_mem_ofList ha)

/-- A search walks along the calls of the graph that it starts in, whatever its targets are. -/
theorem Settled.between (h : Settled g (.symbols s)) (t : SymbolSet) :
    Settled g (.paths (s.paths t)) := by
  refine ⟨.between h.derived trivial, fun a ha => ?_⟩
  obtain ⟨p, hp, hap⟩ := PathSet.mem_symbolList.1 ha
  have hgraph : s.graph = g := h.graph_eq
  change p ∈ (Search.pathsFrom _ _).toList at hp
  rw [Search.pathsFrom_eq_ofList] at hp
  -- where the path ends is decided by an identity in `t`, but all its symbols are of the graph
  obtain ⟨b, hb, hp⟩ := List.mem_flatMap.1 (OrderedSet.mem_of_mem_ofList hp)
  have hsimple := ((Search.mem_listing_iff _ (hgraph ▸ h.has b hb)).1 hp).1
  exact hgraph ▸ hsimple.inGraph a hap

/-- A derived set with paths, or parts of the paths, of a settled one is settled. -/
theorem Settled.of_parts (h : Settled g (.paths ps)) (hd : Derived (fun _ => True) g (.paths qs))
    (hsub : ∀ q ∈ qs.toList, ∃ p ∈ ps.toList, q.symbols ⊆ p.symbols) : Settled g (.paths qs) := by
  refine h.of_subset hd fun a ha => ?_
  obtain ⟨q, hq, haq⟩ := PathSet.mem_symbolList.1 ha
  obtain ⟨p, hp, hqp⟩ := hsub q hq
  exact PathSet.mem_symbolList.2 ⟨p, hp, hqp haq⟩

theorem Settled.interPaths (h : Settled g (.paths ps)) (qs : PathSet) :
    Settled g (.paths (ps.inter qs)) :=
  h.of_parts (.interPaths h.derived trivial) fun q hq =>
    ⟨q, OrderedSet.mem_of_mem_filter hq, List.Subset.refl _⟩

theorem Settled.diffPaths (h : Settled g (.paths ps)) (qs : PathSet) :
    Settled g (.paths (ps.diff qs)) :=
  h.of_parts (.diffPaths h.derived trivial) fun q hq =>
    ⟨q, OrderedSet.mem_of_mem_filter hq, List.Subset.refl _⟩

theorem Settled.unique (h : Settled g (.paths ps)) : Settled g (.paths ps.unique) :=
  h.of_parts (.unique h.derived) fun q hq => ⟨q, PathSet.mem_of_mem_unique hq, List.Subset.refl _⟩

theorem Settled.filterPaths (h : Settled g (.paths ps)) (p : Predicate) :
    Settled g (.paths (ps.filter p).1) :=
  h.of_parts (.filterPaths p h.derived) fun q hq =>
    ⟨q, PathSet.mem_of_mem_filter hq, List.Subset.refl _⟩

theorem Settled.slice {first last : PathBound} (h : Settled g (.paths ps))
    (hok : ps.slice first last = .ok qs) : Settled g (.paths qs) := by
  refine h.of_parts (.slice h.derived hok) fun q hq => ?_
  obtain ⟨p, hp, -, hpart⟩ := (PathSet.exists_of_mem_slice hok).2.2 q hq
  exact ⟨p, hp, hpart.subset⟩

/-! ## What takes over -/

theorem Settled.union (h : Settled g (.symbols s)) (hno : ¬s.TakesOver t) :
    Settled g (.symbols (s.union t)) := by
  refine ⟨.union h.derived trivial, fun b hb => ?_⟩
  rcases SymbolSet.mem_union.1 hb with hb | ⟨hb, hnew⟩
  · exact h.has b hb
  · by_contra hforeign
    exact hno ⟨b, hb, hnew, fun hhas => hforeign (h.graph_eq ▸ hhas)⟩

theorem Settled.unionWith (h : Settled g (.symbols s)) (hno : ¬s.TakesOver t) :
    Settled g (.symbols (s.unionWith t)) := by
  refine (h.union hno).of_subset (.unionWith h.derived trivial) fun b hb => ?_
  change b ∈ (s.unionWith t).toList at hb
  rw [SymbolSet.toList_unionWith] at hb
  exact hb

theorem Settled.unionPaths (h : Settled g (.paths ps)) (hno : ¬ps.TakesOver qs) :
    Settled g (.paths (ps.union qs)) := by
  refine ⟨.unionPaths h.derived trivial, fun b hb => ?_⟩
  obtain ⟨q, hq, hbq⟩ := PathSet.mem_symbolList.1 hb
  rcases PathSet.mem_union.1 hq with hq | ⟨hq, hnew⟩
  · exact h.has b (PathSet.mem_symbolList.2 ⟨q, hq, hbq⟩)
  · by_contra hforeign
    exact hno ⟨q, hq, hnew, b, hbq, fun hhas => hforeign (h.graph_eq ▸ hhas)⟩

theorem not_native_union (htakes : s.TakesOver t) : ¬Native (.symbols (s.union t)) := by
  obtain ⟨b, hb, hnew, hforeign⟩ := htakes
  exact fun hnative => hforeign (hnative b (SymbolSet.mem_union.2 (Or.inr ⟨hb, hnew⟩)))

theorem not_native_unionWith (htakes : s.TakesOver t) : ¬Native (.symbols (s.unionWith t)) := by
  have hgraph : (s.unionWith t).graph = s.graph := SymbolSet.graph_replace s _
  show ¬∀ a ∈ (s.unionWith t).toList, (s.unionWith t).graph.Has a
  rw [SymbolSet.toList_unionWith, hgraph]
  exact not_native_union htakes

theorem not_native_unionPaths (htakes : ps.TakesOver qs) : ¬Native (.paths (ps.union qs)) := by
  obtain ⟨q, hq, hnew, b, hb, hforeign⟩ := htakes
  exact fun hnative => hforeign (hnative b (PathSet.mem_symbolList.2
    ⟨q, PathSet.mem_union.2 (Or.inr ⟨hq, hnew⟩), hb⟩))

end Collection

/-! ## What counts as one -/

namespace SymbolSet

variable {s t : SymbolSet}

theorem intersects_iff_id :
    s.intersects t = true ↔ ∃ a ∈ s.toList, ∃ b ∈ t.toList, a.id = b.id := by
  refine (OrderedSet.intersects_iff s.members t.members).trans ?_
  constructor
  · rintro ⟨k, hs, ht⟩
    obtain ⟨a, ha, rfl⟩ := List.mem_map.1 hs
    obtain ⟨b, hb, hid⟩ := List.mem_map.1 ht
    exact ⟨a, ha, b, hb, hid.symm⟩
  · rintro ⟨a, ha, b, hb, hid⟩
    exact ⟨a.id, List.mem_map_of_mem ha, hid ▸ List.mem_map_of_mem hb⟩

/-- Members of two sets count as one where they share an identity.  If none do, a union has the
members of both sets, there are none in an intersection and a difference takes none away; if some
do, none of this is so.  The operations in place leave the same members. -/
structure MeetsByIdentity (s t : SymbolSet) : Prop where
  intersects : s.intersects t = true ↔ ∃ a ∈ s.toList, ∃ b ∈ t.toList, a.id = b.id
  union : (s.union t).toList = s.toList ++ t.toList ↔ s.intersects t = false
  inter : (s.inter t).toList = [] ↔ s.intersects t = false
  diff : (s.diff t).toList = s.toList ↔ s.intersects t = false
  unionWith : (s.unionWith t).toList = (s.union t).toList
  interWith : (s.interWith t).toList = (s.inter t).toList
  subtract : (s.subtract t).toList = (s.diff t).toList
  /-- within one graph, what shares an identity is one symbol -/
  common : ∀ g : CallGraph, (∀ a ∈ s.toList, g.Has a) → (∀ b ∈ t.toList, g.Has b) →
    ∀ a ∈ s.toList, ∀ b ∈ t.toList, a.id = b.id → a = b

theorem meetsByIdentity (s t : SymbolSet) : s.MeetsByIdentity t where
  intersects := intersects_iff_id
  union := OrderedSet.toList_union_eq_append_iff s.members t.members
  inter := OrderedSet.toList_inter_eq_nil_iff s.members t.members
  diff := OrderedSet.toList_diff_eq_self_iff s.members t.members
  unionWith := s.toList_unionWith t
  interWith := s.toList_interWith t
  subtract := s.toList_subtract t
  common _ hs ht a ha b hb := (hs a ha).eq_of_id_eq (ht b hb)

end SymbolSet

/-- The set of the symbols of some paths has all of them exactly if an identity stands for one
symbol on them. -/
theorem PathSet.symbols_all_iff (s : PathSet) :
    (∀ a ∈ s.symbolList, a ∈ s.symbols.toList) ↔
      ∀ a ∈ s.symbolList, ∀ b ∈ s.symbolList, a.id = b.id → a = b := by
  constructor
  · intro hall a ha b hb hid
    exact List.inj_on_of_nodup_map s.symbols.members.nodup_toList (hall a ha) (hall b hb) hid
  · intro hinj a ha
    have hP : ∀ x y, x ∈ s.symbolList → y ∈ s.symbolList → x.id = y.id → x = y :=
      fun x y hx hy => hinj x hx y hy
    exact (OrderedSet.mem_ofList_iff hP fun _ hx => hx).2 ha

end CallAtlas
