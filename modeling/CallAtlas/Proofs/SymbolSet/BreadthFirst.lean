/-
# `CallAtlas.Proofs.SymbolSet.BreadthFirst` — closures list breadth first

The loop of a reflexive closure knows no queue: every round asks all members once more,
and what comes back new goes to the end.  Its members are nevertheless in the
order of a search that keeps a queue (`Direction.search`).  The members that were there a
round ago have nothing new to say, so a round adds what the last round's members
are related to, and that is what the search adds while it takes these off its queue
(`Direction.search_layer`).

So what a round adds is one step further from the first members than what the round
before added, and members come in the order of their distance (`Layered.expand`).
-/
import CallAtlas.Proofs.SymbolSet.Freshness
import CallAtlas.Proofs.SymbolSet.Reachability
import Mathlib.Data.Finset.Card
import Mathlib.Data.Finset.Range

namespace CallAtlas

namespace Direction

variable {d : Direction} {g : CallGraph} {a b : Symbol}

/-! ## Neighbours -/

theorem nodup_neighbours (d : Direction) (g : CallGraph) (a : Symbol) :
    ((d.neighbours g a).map Symbol.id).Nodup := by
  cases d with
  | callees => exact g.nodup_listed g.callees a.id
  | callers =>
    show ((g.callersOf a).map Symbol.id).Nodup
    unfold CallGraph.callersOf
    cases g.callers with
    | none => exact List.nodup_nil
    | some rows => exact g.nodup_listed rows a.id

theorem id_lt_of_mem_neighbours (h : b ∈ d.neighbours g a) : b.id < g.symbolCount := by
  cases d with
  | callees => exact (CallGraph.has_of_mem_calleesOf h).id_lt
  | callers => exact (CallGraph.has_of_mem_callersOf h).id_lt

/-- One call leads from the first symbol to the second, or back. -/
def Leads (d : Direction) (g : CallGraph) (a b : Symbol) : Prop :=
  g.Has b ∧
    match d with
    | .callees => g.hasCall a.id b.id = true
    | .callers => g.hasCall b.id a.id = true

theorem mem_neighbours (hg : g.Finalised) : b ∈ d.neighbours g a ↔ d.Leads g a b := by
  cases d with
  | callees => exact CallGraph.mem_calleesOf
  | callers => exact CallGraph.mem_callersOf hg

/-! ## The search with a queue -/

/-- Of some symbols those that are not in a list yet. -/
def unlisted (listed symbols : List Symbol) : List Symbol :=
  symbols.filter fun a => a.id ∉ listed.map Symbol.id

/-- The number of symbols of a graph that are not in a list. -/
def outside (g : CallGraph) (listed : List Symbol) : Nat :=
  ((Finset.range g.symbolCount).filter fun id => id ∉ listed.map Symbol.id).card

theorem mem_unlisted {listed symbols : List Symbol} :
    a ∈ unlisted listed symbols ↔ a ∈ symbols ∧ a.id ∉ listed.map Symbol.id := by
  rw [unlisted, List.mem_filter, decide_eq_true_iff]

theorem outside_append_lt {listed new : List Symbol} (hb : b ∈ new) (hlt : b.id < g.symbolCount)
    (hout : b.id ∉ listed.map Symbol.id) : outside g (listed ++ new) < outside g listed := by
  refine Finset.card_lt_card (Finset.ssubset_iff_of_subset ?_ |>.2 ⟨b.id, ?_, ?_⟩)
  · refine Finset.monotone_filter_right _ fun id _ hnot hmem => hnot ?_
    rw [List.map_append]
    exact List.mem_append_left _ hmem
  · exact Finset.mem_filter.2 ⟨Finset.mem_range.2 hlt, hout⟩
  · intro hmem
    refine (Finset.mem_filter.1 hmem).2 (List.mem_map_of_mem ?_)
    exact List.mem_append_right listed hb

theorem outside_le (g : CallGraph) (listed : List Symbol) : outside g listed ≤ g.symbolCount := by
  have hle := Finset.card_filter_le (Finset.range g.symbolCount)
    fun id => id ∉ listed.map Symbol.id
  rwa [Finset.card_range] at hle

/-- The symbols that a breadth-first search lists after those of a list: it takes the first symbol
off its queue, and the neighbours that are not listed yet go to the end of the list and of the
queue. -/
def search (d : Direction) (g : CallGraph) (listed queue : List Symbol) : List Symbol :=
  match queue with
  | [] => listed
  | a :: queue =>
      let new := unlisted listed (d.neighbours g a)
      search d g (listed ++ new) (queue ++ new)
termination_by (outside g listed, queue.length)
decreasing_by
  rcases List.eq_nil_or_concat (unlisted listed (d.neighbours g a)) with hnil | ⟨front, b, hnew⟩
  · rw [hnil, List.append_nil, List.append_nil]
    exact Prod.Lex.right _ (Nat.lt_succ_self _)
  · have hb : b ∈ unlisted listed (d.neighbours g a) := by simp [hnew]
    obtain ⟨hmem, hout⟩ := mem_unlisted.1 hb
    exact Prod.Lex.left _ _ (outside_append_lt hb (id_lt_of_mem_neighbours hmem) hout)

theorem search_nil (d : Direction) (g : CallGraph) (listed : List Symbol) :
    d.search g listed [] = listed := by
  rw [search]

theorem toList_extend_neighbours (members : Members) :
    (members.extend (d.neighbours g a)).toList =
      members.toList ++ unlisted members.toList (d.neighbours g a) := by
  rw [members.toList_extend (d.nodup_neighbours g a)]
  simp only [unlisted, OrderedSet.contains_eq_decide, decide_not]

/-- The search takes the front of its queue off as one. -/
theorem search_layer (members : Members) (front rest new : List Symbol)
    (hnew : (members.extend (front.flatMap (d.neighbours g))).toList = members.toList ++ new) :
    d.search g members.toList (front ++ rest) =
      d.search g (members.toList ++ new) (rest ++ new) := by
  induction front generalizing members rest new with
  | nil =>
    obtain rfl : new = [] := List.append_right_eq_self.1 hnew.symm
    rw [List.nil_append, List.append_nil, List.append_nil]
  | cons a front ih =>
    -- what `a` adds goes behind the rest of the queue, what the others add goes behind that
    rw [List.flatMap_cons, OrderedSet.extend_append] at hnew
    have hfirst := toList_extend_neighbours (d := d) (g := g) (a := a) members
    obtain ⟨later, hlater⟩ := (members.extend (d.neighbours g a)).prefix_extend
      (front.flatMap (d.neighbours g))
    have hrest := ih _ (rest ++ unlisted members.toList (d.neighbours g a)) later hlater.symm
    rw [← hlater, hfirst, List.append_assoc, List.append_cancel_left_eq] at hnew
    rw [hfirst, List.append_assoc, List.append_assoc, hnew] at hrest
    rw [List.cons_append, search, List.append_assoc, hrest]

/-! ## Rounds -/

/-- The members after one more round. -/
def expand (d : Direction) (g : CallGraph) (members : Members) : Members :=
  members.extend (members.toList.flatMap (d.neighbours g))

theorem prefix_expand (d : Direction) (g : CallGraph) (members : Members) :
    members.toList <+: (d.expand g members).toList :=
  members.prefix_extend _

/-- Of what is asked again nothing is new. -/
theorem expand_eq_of_split {members : Members} {done front : List Symbol}
    (hsplit : members.toList = done ++ front)
    (hdone : ∀ a ∈ done, ∀ b ∈ d.neighbours g a, b.id ∈ members.toList.map Symbol.id) :
    d.expand g members = members.extend (front.flatMap (d.neighbours g)) := by
  have hold : members.extend (done.flatMap (d.neighbours g)) = members := by
    refine OrderedSet.extend_eq_self fun b hb => ?_
    obtain ⟨a, ha, hab⟩ := List.mem_flatMap.1 hb
    exact hdone a ha b hab
  rw [expand, hsplit, List.flatMap_append, OrderedSet.extend_append, hold]

theorem id_mem_expand {members : Members} (ha : a ∈ members.toList)
    (hb : b ∈ d.neighbours g a) : b.id ∈ (d.expand g members).toList.map Symbol.id :=
  (members.mem_keys_extend _ _).2
    (Or.inr (List.mem_map_of_mem (List.mem_flatMap.2 ⟨a, ha, hb⟩)))

/-- Between two rounds the search has as its queue what the last round added, and the others have
nothing new to say. -/
theorem search_iterate (d : Direction) (g : CallGraph) (members : Members) (k : Nat) :
    let now := (d.expand g)^[k] members
    ∃ done front, now.toList = done ++ front ∧
      (∀ a ∈ done, ∀ b ∈ d.neighbours g a, b.id ∈ now.toList.map Symbol.id) ∧
      d.search g members.toList members.toList = d.search g now.toList front := by
  induction k with
  | zero => exact ⟨[], members.toList, rfl, fun _ ha => absurd ha List.not_mem_nil, rfl⟩
  | succ k ih =>
    obtain ⟨done, front, hsplit, hdone, hsearch⟩ := ih
    rw [Function.iterate_succ_apply']
    generalize (d.expand g)^[k] members = now at hsplit hdone hsearch
    obtain ⟨new, hnew⟩ := now.prefix_extend (front.flatMap (d.neighbours g))
    have hlayer := search_layer now front [] new hnew.symm
    rw [← expand_eq_of_split hsplit hdone] at hnew
    refine ⟨now.toList, new, hnew.symm, fun a ha b hb => id_mem_expand ha hb, ?_⟩
    rw [hsearch, ← hnew]
    simpa using hlayer

/-- Where a round adds nothing the search is done. -/
theorem search_eq_of_expand_eq {members : Members} {k : Nat}
    (hrest : d.expand g ((d.expand g)^[k] members) = (d.expand g)^[k] members) :
    d.search g members.toList members.toList = ((d.expand g)^[k] members).toList := by
  obtain ⟨done, front, hsplit, hdone, hsearch⟩ := d.search_iterate g members k
  generalize (d.expand g)^[k] members = now at hsplit hdone hsearch hrest
  rw [expand_eq_of_split hsplit hdone] at hrest
  have hlayer := search_layer now front [] [] (by rw [hrest, List.append_nil])
  rw [List.append_nil, List.append_nil, List.append_nil] at hlayer
  rw [hsearch, hlayer, search_nil]

theorem id_not_mem_of_expand {members : Members} {new : List Symbol}
    (hnew : members.toList ++ new = (d.expand g members).toList) (hb : b ∈ new) :
    b.id ∉ members.toList.map Symbol.id := by
  have hnodup := (d.expand g members).nodup_toList
  rw [← hnew, List.map_append] at hnodup
  exact fun hold => List.disjoint_of_nodup_append hnodup hold (List.mem_map_of_mem hb)

theorem exists_neighbour_of_expand {members : Members} {new : List Symbol}
    (hnew : members.toList ++ new = (d.expand g members).toList) (hb : b ∈ new) :
    ∃ a ∈ members.toList, b ∈ d.neighbours g a := by
  have hmem : b ∈ (d.expand g members).toList := hnew ▸ List.mem_append_right members.toList hb
  rcases OrderedSet.mem_extend_cases hmem with hold | hadded
  · exact absurd (List.mem_map_of_mem hold) (id_not_mem_of_expand hnew hb)
  · exact List.mem_flatMap.1 hadded

theorem outside_expand_lt {members : Members} (hsize : (d.expand g members).size ≠ members.size) :
    outside g (d.expand g members).toList < outside g members.toList := by
  obtain ⟨new, hnew⟩ := d.prefix_expand g members
  rw [OrderedSet.size_eq, OrderedSet.size_eq, ← hnew] at hsize
  obtain ⟨b, hb⟩ := List.exists_mem_of_ne_nil new fun hnil => hsize (by rw [hnil, List.append_nil])
  obtain ⟨a, -, hab⟩ := exists_neighbour_of_expand hnew hb
  rw [← hnew]
  exact outside_append_lt hb (id_lt_of_mem_neighbours hab) (id_not_mem_of_expand hnew hb)

end Direction

/-! ## The loop -/

namespace SymbolSet

variable {d : Direction} {s : SymbolSet}

theorem graph_enlarge_ask (d : Direction) (s : SymbolSet) : (enlarge d.ask s).graph = s.graph := by
  unfold enlarge unionWith
  rw [graph_replace]
  exact (d.source_ask_cases d s).1

theorem members_enlarge_ask (hnone : d.kept s = none) :
    (enlarge d.ask s).members = d.expand s.graph s.members := by
  have himage : (d.ask s).image.toList = (d.fresh s).toList := by
    rw [d.image_ask, hnone]
    rfl
  unfold enlarge unionWith
  rw [members_replace, himage, d.members_source_ask]
  cases d with
  | callees => exact s.members.extend_toList_ofList _
  | callers => exact s.members.extend_toList_ofList _

theorem kept_enlarge_ask (hsize : (enlarge d.ask s).size ≠ s.size) :
    d.kept (enlarge d.ask s) = none := by
  unfold enlarge unionWith at hsize ⊢
  unfold size at hsize
  rw [members_replace, ← d.members_source_ask s] at hsize
  unfold replace
  rw [if_neg hsize]
  cases d with
  | callees => rfl
  | callers => rfl

/-- A set that keeps no answer goes through its rounds until one adds nothing. -/
theorem exists_iterate_eq_grow {rounds : Nat} (hnone : d.kept s = none)
    (hrounds : Direction.outside s.graph s.toList < rounds) :
    ∃ k, (grow d.ask rounds s).members = (d.expand s.graph)^[k] s.members ∧
      d.expand s.graph ((d.expand s.graph)^[k] s.members) = (d.expand s.graph)^[k] s.members := by
  induction rounds generalizing s with
  | zero => exact absurd hrounds (Nat.not_lt_zero _)
  | succ rounds ih =>
    have hround := members_enlarge_ask hnone
    by_cases hsize : (enlarge d.ask s).size = s.size
    · have hgrow : grow d.ask (rounds + 1) s = enlarge d.ask s := if_pos hsize
      unfold size at hsize
      rw [hround] at hsize
      have hstill := OrderedSet.extend_eq_self_of_size_eq hsize
      refine ⟨0, ?_, hstill⟩
      rw [hgrow, hround]
      exact hstill
    · -- the set has grown, so it has dropped its answer and the next round asks afresh
      have hgrow : grow d.ask (rounds + 1) s = grow d.ask rounds (enlarge d.ask s) := if_neg hsize
      have hless : Direction.outside s.graph (enlarge d.ask s).toList <
          Direction.outside s.graph s.toList := by
        unfold size at hsize
        unfold toList
        rw [hround] at hsize ⊢
        exact Direction.outside_expand_lt hsize
      have hgraph := graph_enlarge_ask d s
      obtain ⟨k, hk, hrest⟩ := ih (kept_enlarge_ask hsize) (by rw [hgraph]; omega)
      rw [hgraph, hround] at hk hrest
      exact ⟨k + 1, hgrow ▸ hk, hrest⟩

end SymbolSet

/-! ## Distances -/

namespace Direction

variable {d : Direction} {g : CallGraph} {start listed : List Symbol}

/-- The least number of calls that lead to a symbol from one of some symbols. -/
structure DistanceFrom (d : Direction) (g : CallGraph) (start : List Symbol) (b : Symbol)
    (n : Nat) : Prop where
  chain : ∃ a ∈ start, Chain (d.Leads g) n a b
  least : ∀ m, ∀ a ∈ start, Chain (d.Leads g) m a b → n ≤ m

theorem DistanceFrom.unique {b : Symbol} {m n : Nat} (hm : d.DistanceFrom g start b m)
    (hn : d.DistanceFrom g start b n) : m = n := by
  obtain ⟨a, ha, hchain⟩ := hm.chain
  obtain ⟨a', ha', hchain'⟩ := hn.chain
  exact Nat.le_antisymm (hm.least n a' ha' hchain') (hn.least m a ha hchain)

theorem distanceFrom_zero {b : Symbol} (hb : b ∈ start) : d.DistanceFrom g start b 0 where
  chain := ⟨b, hb, .nil b⟩
  least m _ _ _ := Nat.zero_le m

/-- The first symbol of two is no further than the second. -/
def Nearer (d : Direction) (g : CallGraph) (start : List Symbol) (a b : Symbol) : Prop :=
  ∀ m n, d.DistanceFrom g start a m → d.DistanceFrom g start b n → m ≤ n

theorem nearer_of_distance {a b : Symbol} {m n : Nat} (ha : d.DistanceFrom g start a m)
    (hb : d.DistanceFrom g start b n) (hle : m ≤ n) : d.Nearer g start a b :=
  fun _ _ hm hn => hm.unique ha ▸ hn.unique hb ▸ hle

/-- The list has what is at most `k` calls away, nothing else, and what is nearer first. -/
structure Layered (d : Direction) (g : CallGraph) (start : List Symbol) (k : Nat)
    (listed : List Symbol) : Prop where
  near : ∀ b ∈ listed, ∃ n ≤ k, d.DistanceFrom g start b n
  ascending : listed.Pairwise (d.Nearer g start)
  complete : ∀ m ≤ k, ∀ a ∈ start, ∀ b, Chain (d.Leads g) m a b → b.id ∈ listed.map Symbol.id

theorem layered_start (d : Direction) (g : CallGraph) (start : List Symbol) :
    d.Layered g start 0 start where
  near b hb := ⟨0, Nat.le_refl 0, distanceFrom_zero hb⟩
  ascending := List.pairwise_of_forall_mem_list fun a ha b hb =>
    nearer_of_distance (distanceFrom_zero ha) (distanceFrom_zero hb) (Nat.le_refl 0)
  complete m hm a ha b hchain := by
    obtain rfl : m = 0 := Nat.le_zero.1 hm
    cases hchain with
    | nil => exact List.mem_map_of_mem ha

/-- A neighbour that is not in the list is one call further than the list reaches. -/
theorem Layered.distance_of_unlisted (hg : g.Finalised) {k : Nat}
    (h : d.Layered g start k listed) {a b : Symbol} (ha : a ∈ listed) (hb : b ∈ d.neighbours g a)
    (hout : b.id ∉ listed.map Symbol.id) : d.DistanceFrom g start b (k + 1) := by
  have hfar : ∀ m, ∀ a ∈ start, Chain (d.Leads g) m a b → k + 1 ≤ m := by
    intro m a ha hchain
    by_contra hm
    exact hout (h.complete m (by omega) a ha b hchain)
  obtain ⟨n, hn, hdist⟩ := h.near a ha
  obtain ⟨first, hfirst, hchain⟩ := hdist.chain
  have hnext := hchain.concat ((mem_neighbours hg).1 hb)
  obtain rfl : n = k := Nat.le_antisymm hn (Nat.le_of_succ_le_succ (hfar _ first hfirst hnext))
  exact ⟨⟨first, hfirst, hnext⟩, hfar⟩

theorem neighbours_congr (d : Direction) (g : CallGraph) {a b : Symbol} (h : a.id = b.id) :
    d.neighbours g a = d.neighbours g b := by
  cases d with
  | callees => simp only [neighbours, CallGraph.calleesOf, h]
  | callers => simp only [neighbours, CallGraph.callersOf, h]

theorem Layered.expand (hg : g.Finalised) {k : Nat} {members : Members}
    (h : d.Layered g start k members.toList) :
    d.Layered g start (k + 1) (d.expand g members).toList := by
  obtain ⟨new, hnew⟩ := d.prefix_expand g members
  have hfar : ∀ b ∈ new, d.DistanceFrom g start b (k + 1) := by
    intro b hb
    have hout : b.id ∉ members.toList.map Symbol.id := d.id_not_mem_of_expand hnew hb
    obtain ⟨a, ha, hab⟩ := d.exists_neighbour_of_expand hnew hb
    exact h.distance_of_unlisted hg ha hab hout
  refine ⟨?_, ?_, ?_⟩
  · rw [← hnew]
    intro b hb
    rcases List.mem_append.1 hb with hb | hb
    · obtain ⟨n, hn, hdist⟩ := h.near b hb
      exact ⟨n, Nat.le_succ_of_le hn, hdist⟩
    · exact ⟨k + 1, Nat.le_refl _, hfar b hb⟩
  · rw [← hnew, List.pairwise_append]
    refine ⟨h.ascending, ?_, ?_⟩
    · exact List.pairwise_of_forall_mem_list fun a ha b hb =>
        nearer_of_distance (hfar a ha) (hfar b hb) (Nat.le_refl _)
    · intro a ha b hb
      obtain ⟨n, hn, hdist⟩ := h.near a ha
      exact nearer_of_distance hdist (hfar b hb) (Nat.le_succ_of_le hn)
  · intro m hm a ha b hchain
    rcases Nat.le_succ_iff.1 hm with hm | rfl
    · rw [← hnew, List.map_append]
      exact List.mem_append_left _ (h.complete m hm a ha b hchain)
    · -- the last symbol but one may be listed as another of its identity
      obtain ⟨c, hc, hlast⟩ := hchain.exists_last
      obtain ⟨c', hc', hid⟩ := List.mem_map.1 (h.complete k (Nat.le_refl k) a ha c hc)
      refine id_mem_expand hc' ?_
      rw [d.neighbours_congr g hid]
      exact (mem_neighbours hg).2 hlast

theorem layered_iterate (hg : g.Finalised) (members : Members) (k : Nat) :
    d.Layered g members.toList k ((d.expand g)^[k] members).toList := by
  induction k with
  | zero => exact d.layered_start g members.toList
  | succ k ih =>
    rw [Function.iterate_succ_apply']
    exact ih.expand hg

/-- The closure in a direction that has the set itself. -/
def closure : Direction → Relation
  | .callees => .reflexiveCallees
  | .callers => .reflexiveCallers

end Direction

namespace SymbolSet

theorem apply_closure (d : Direction) (s : SymbolSet) :
    (d.closure.apply s).image = grow d.ask (s.graph.symbolCount + 1) s.clone := by
  cases d with
  | callees =>
    show (Relation.reflexiveCallees.apply s).image = s.reflexiveClosure callees
    simp only [Relation.apply]
  | callers =>
    show (Relation.reflexiveCallers.apply s).image = s.reflexiveClosure callers
    simp only [Relation.apply]

/-- A reflexive closure lists symbols as a search with a queue does that starts from the members in
their order: in the order of the least number of calls that lead to them from a member, or from
them to a member; and what answers the set keeps does not matter. -/
theorem closure_breadth_first (d : Direction) {s : SymbolSet} (hg : s.graph.Finalised) :
    let listed := (d.closure.apply s).image.toList
    listed = d.search s.graph s.toList s.toList ∧
    (∀ b ∈ listed, ∃ n, d.DistanceFrom s.graph s.toList b n) ∧
    listed.Pairwise (d.Nearer s.graph s.toList) ∧
    ∀ callees callers : Option Members,
      let asked := { s with calleesCache := callees, callersCache := callers }
      (d.closure.apply asked).image.toList = listed := by
  intro listed
  have hnone : d.kept s.clone = none := by
    cases d with
    | callees => rfl
    | callers => rfl
  have hrounds : Direction.outside s.graph s.clone.toList < s.graph.symbolCount + 1 :=
    Nat.lt_succ_of_le (Direction.outside_le s.graph s.toList)
  obtain ⟨k, hk, hrest⟩ := exists_iterate_eq_grow hnone hrounds
  have hlisted : listed = ((d.expand s.graph)^[k] s.members).toList := by
    show (d.closure.apply s).image.toList = _
    rw [apply_closure]
    exact congrArg OrderedSet.toList hk
  have hlayered := Direction.layered_iterate (d := d) hg s.members k
  rw [← hlisted] at hlayered
  refine ⟨?_, ?_, hlayered.ascending, ?_⟩
  · rw [hlisted]
    exact (Direction.search_eq_of_expand_eq hrest).symm
  · intro b hb
    obtain ⟨n, -, hdist⟩ := hlayered.near b hb
    exact ⟨n, hdist⟩
  · intro callees callers asked
    show (d.closure.apply asked).image.toList = (d.closure.apply s).image.toList
    rw [apply_closure, apply_closure]
    rfl

/-- Of two functions that call each other, from the second. -/
theorem closure_breadth_first_mutualPair :
    let s := probe (.mutualPair .standard) CallGraph.pong
    s.graph.Finalised ∧
      (Relation.reflexiveCallers.apply s).image.toList = [CallGraph.pong, CallGraph.ping] := by
  intro s
  have hg : s.graph.Finalised := CallGraph.finalised_mutualPair .standard
  have hpong : Direction.unlisted [CallGraph.pong]
      (Direction.callers.neighbours s.graph CallGraph.pong) = [CallGraph.ping] := by
    decide +kernel
  have hping : Direction.unlisted [CallGraph.pong, CallGraph.ping]
      (Direction.callers.neighbours s.graph CallGraph.ping) = [] := by
    decide +kernel
  refine ⟨hg, (closure_breadth_first .callers hg).1.trans ?_⟩
  show Direction.callers.search s.graph [CallGraph.pong] [CallGraph.pong] = _
  rw [Direction.search, hpong]
  show Direction.callers.search s.graph [CallGraph.pong, CallGraph.ping] [CallGraph.ping] = _
  rw [Direction.search, hping]
  exact Direction.search_nil ..

end SymbolSet

end CallAtlas
