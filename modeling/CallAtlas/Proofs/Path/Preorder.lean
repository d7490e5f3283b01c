/-
# `CallAtlas.Proofs.Path.Preorder` — the order in which a search finds paths

`CallGraph.preorder` lists paths by a recursion that knows neither a stack nor a
bound: a path comes before what goes on from it, and what goes on through an
earlier callee before what goes on through a later one.  A search lists what the
recursion lists, in the same order, less the paths that are too long
(`listing_eq_filter_preorder`): where it stops at the bound all that it leaves
out would go on from a path that is as long as paths may be.

A search puts its findings into a set, and that changes nothing: a listed path
goes on from its trail, so trails that part at some symbol have no path in
common, and no path is listed twice (`nodup_preorder`).  The induction is along
the recursion itself, by what a trail has not visited.
-/
import CallAtlas.Proofs.Path.Simple

namespace CallAtlas

namespace CallGraph

open Search (fresh fresh_iff unvisited length_unvisited_lt)

/-- The paths that go on from a trail to a target, in preorder: the trail itself, if its
current symbol is a target, and then what goes on through the callees of that symbol, in the
order of the calls.  Symbols that are on the trail already are skipped. -/
def preorder (g : CallGraph) (targets : Members) : List Symbol → List CallPath
  | [] => []
  | a :: trail =>
      (if targets.contains a then [⟨(a :: trail).reverse⟩] else []) ++
        ((g.calleesOf a).filter (fresh (a :: trail))).attach.flatMap fun ⟨b, _⟩ =>
          g.preorder targets (b :: a :: trail)
termination_by trail => (unvisited g trail).length
decreasing_by
  rename_i hb
  rw [List.mem_filter] at hb
  exact length_unvisited_lt (id_lt_of_mem_calleesOf hb.1) hb.2

variable (g : CallGraph) (targets : Members)

theorem preorder_cons (a : Symbol) (trail : List Symbol) :
    g.preorder targets (a :: trail) =
      (if targets.contains a then [⟨(a :: trail).reverse⟩] else []) ++
        ((g.calleesOf a).filter (fresh (a :: trail))).flatMap fun b =>
          g.preorder targets (b :: a :: trail) := by
  have hattach := List.flatMap_subtype
    (l := ((g.calleesOf a).filter (fresh (a :: trail))).attach)
    (f := fun b => g.preorder targets (b.1 :: a :: trail))
    (g := fun b => g.preorder targets (b :: a :: trail)) fun _ _ => rfl
  rw [List.unattach_attach] at hattach
  rw [preorder]
  exact congrArg _ hattach

/-- What goes on from a trail begins with it. -/
theorem prefix_of_mem_preorder {trail : List Symbol} {p : CallPath}
    (hp : p ∈ g.preorder targets trail) : trail.reverse <+: p.symbols := by
  induction trail using preorder.induct g with
  | case1 => exact List.nil_prefix
  | case2 a trail ih =>
    rw [preorder_cons, List.mem_append] at hp
    rcases hp with hp | hp
    · split at hp
      · cases List.mem_singleton.1 hp
        exact List.prefix_refl _
      · exact absurd hp List.not_mem_nil
    · obtain ⟨b, hb, hp⟩ := List.mem_flatMap.1 hp
      have hlonger := ih b hb hp
      rw [List.reverse_cons] at hlonger
      exact (List.prefix_append _ _).trans hlonger

/-! ## No path is listed twice -/

/-- Lists of paths that part at a symbol have no path in common. -/
theorem nodup_ids_flatMap (trail : List Symbol) {bs : List Symbol}
    {paths : Symbol → List CallPath} (hbs : (bs.map Symbol.id).Nodup)
    (hbegins : ∀ b, ∀ p ∈ paths b, (b :: trail).reverse <+: p.symbols)
    (hnodup : ∀ b ∈ bs, ((paths b).map CallPath.ids).Nodup) :
    ((bs.flatMap paths).map CallPath.ids).Nodup := by
  rw [List.map_flatMap, List.nodup_flatMap]
  refine ⟨hnodup, (List.pairwise_map.1 hbs).imp ?_⟩
  intro b c hne ids hb hc
  obtain ⟨p, hp, rfl⟩ := List.mem_map.1 hb
  obtain ⟨q, hq, hids⟩ := List.mem_map.1 hc
  obtain ⟨after, hafter⟩ := hbegins b p hp
  obtain ⟨after', hafter'⟩ := hbegins c q hq
  rw [CallPath.ids, CallPath.ids, ← hafter, ← hafter', List.map_append, List.map_append,
    List.reverse_cons, List.reverse_cons, List.map_append, List.map_append] at hids
  have hsame := (List.append_inj hids (by simp)).1
  have hid := (List.append_inj hsame (by simp)).2
  exact hne (List.singleton_injective hid).symm

theorem nodup_preorder (trail : List Symbol) :
    ((g.preorder targets trail).map CallPath.ids).Nodup := by
  induction trail using preorder.induct g with
  | case1 =>
    rw [preorder]
    exact List.nodup_nil
  | case2 a trail ih =>
    have hthrough : ((((g.calleesOf a).filter (fresh (a :: trail))).flatMap fun b =>
        g.preorder targets (b :: a :: trail)).map CallPath.ids).Nodup := by
      refine nodup_ids_flatMap (a :: trail) ?_
        (fun b p hp => prefix_of_mem_preorder g targets hp) ih
      exact (g.nodup_listed g.callees a.id).sublist (List.filter_sublist.map Symbol.id)
    rw [preorder_cons, List.map_append, List.nodup_append]
    refine ⟨?_, hthrough, ?_⟩
    · split
      · exact List.nodup_singleton _
      · exact List.nodup_nil
    · -- the trail itself is shorter than all that goes on from it
      intro ids hown ids' hlonger heq
      subst heq
      split at hown
      · obtain ⟨p, hp, hids⟩ := List.mem_map.1 hlonger
        obtain ⟨b, -, hp⟩ := List.mem_flatMap.1 hp
        have hlength := (prefix_of_mem_preorder g targets hp).length_le
        rw [List.map_singleton, List.mem_singleton, ← hids] at hown
        have hsame := congrArg List.length hown
        simp only [CallPath.ids, List.length_map, List.length_reverse, List.length_cons]
          at hsame hlength
        omega
      · exact absurd hown List.not_mem_nil

end CallGraph

/-! ## A search under a bound -/

namespace Search

theorem kept_cons (search : Search) (a : Symbol) (trail : List Symbol) :
    search.kept (a :: trail) =
      (if search.targets.contains a then [⟨(a :: trail).reverse⟩] else [] : List CallPath).filter
        fun p => search.admits p.length := by
  have hlength : CallPath.length ⟨(a :: trail).reverse⟩ = (a :: trail).length :=
    List.length_reverse
  unfold kept
  rw [List.head?_cons, Option.any_some]
  cases search.targets.contains a with
  | false => rw [Bool.and_false]; rfl
  | true => simp only [Bool.and_true, ↓reduceIte, List.filter_singleton, hlength, cond_eq_ite]

/-- What a search lists under its bound is what the recursion lists, less the paths that are
too long. -/
theorem listing_eq_filter_preorder (search : Search) (trail : List Symbol) :
    search.listing trail =
      (search.graph.preorder search.targets trail).filter fun p => search.admits p.length := by
  induction trail using CallGraph.preorder.induct search.graph with
  | case1 => rw [listing, CallGraph.preorder, List.filter_nil]
  | case2 a trail ih =>
    rw [listing_cons, CallGraph.preorder_cons, List.filter_append]
    congr 1
    · exact search.kept_cons a trail
    · split
      · rw [through, List.filter_flatMap]
        exact List.flatMap_congr ih
      · rename_i hstop
        rw [eq_comm, List.filter_eq_nil_iff]
        intro p hp hadmits
        obtain ⟨b, -, hp⟩ := List.mem_flatMap.1 hp
        have hlength := (CallGraph.prefix_of_mem_preorder _ _ hp).length_le
        rw [List.length_reverse, List.length_cons] at hlength
        exact hstop (search.mayGrow_of_admits hadmits hlength)

/-- The set of what is found has all that is listed, as it comes. -/
theorem toList_pathsFrom (search : Search) {starts : List Symbol}
    (hstarts : (starts.map Symbol.id).Nodup) :
    (search.pathsFrom starts).toList = starts.flatMap fun a => search.listing [a] := by
  have hnodup : ((starts.flatMap fun a => search.graph.preorder search.targets [a]).map
      CallPath.ids).Nodup :=
    CallGraph.nodup_ids_flatMap [] hstarts
      (fun _ _ hp => CallGraph.prefix_of_mem_preorder _ _ hp)
      fun b _ => CallGraph.nodup_preorder _ _ [b]
  rw [pathsFrom_eq_ofList]
  apply OrderedSet.toList_ofList_of_nodup
  simp only [listing_eq_filter_preorder, ← List.filter_flatMap]
  exact hnodup.sublist (List.filter_sublist.map CallPath.ids)

end Search

/-- The graph under settings with another bound on the length of paths. -/
def CallGraph.withBound (g : CallGraph) (bound : Option Nat) : CallGraph :=
  { g with config := { g.config with maxPathLength := bound } }

/-- The bound has no part in what is listed without one. -/
theorem CallGraph.preorder_withBound (g : CallGraph) (bound : Option Nat) (targets : Members)
    (trail : List Symbol) :
    (g.withBound bound).preorder targets trail = g.preorder targets trail := by
  induction trail using preorder.induct g with
  | case1 => rw [preorder, preorder]
  | case2 a trail ih =>
    rw [preorder_cons, preorder_cons]
    exact congrArg _ (List.flatMap_congr ih)

namespace SymbolSet

/-- The set in the graph under another bound. -/
def withBound (s : SymbolSet) (bound : Option Nat) : SymbolSet :=
  { s with graph := s.graph.withBound bound }

theorem toList_paths (s t : SymbolSet) :
    (s.paths t).toList =
      (s.toList.flatMap fun a => s.graph.preorder t.members [a]).filter fun p =>
        s.graph.config.maxPathLength.all (p.length ≤ ·) := by
  let search : Search := ⟨s.graph, t.members, s.graph.config.maxPathLength⟩
  have hadmits : ∀ n, search.admits n = s.graph.config.maxPathLength.all (n ≤ ·) := by
    intro n
    unfold Search.admits
    cases hbound : s.graph.config.maxPathLength <;> simp [search, hbound]
  have hlisted := search.toList_pathsFrom s.members.nodup_toList
  simp only [Search.listing_eq_filter_preorder, ← List.filter_flatMap, hadmits] at hlisted
  exact hlisted

/-- The paths between two sets come in preorder, one start after the other, less those that
are too long.  So a bound leaves of the paths found without one those that it admits, in their
order. -/
theorem paths_in_preorder (s t : SymbolSet) :
    (s.paths t).toList =
        (s.toList.flatMap fun a => s.graph.preorder t.members [a]).filter (fun p =>
          s.graph.config.maxPathLength.all (p.length ≤ ·)) ∧
      ∀ bound : Nat, ((s.withBound (some bound)).paths t).toList =
        ((s.withBound none).paths t).toList.filter fun p => p.length ≤ bound := by
  refine ⟨toList_paths s t, fun bound => ?_⟩
  have hany : ∀ b, (s.toList.flatMap fun a => (s.withBound b).graph.preorder t.members [a]) =
      s.toList.flatMap fun a => s.graph.preorder t.members [a] :=
    fun b => List.flatMap_congr fun a _ => s.graph.preorder_withBound b t.members [a]
  have hfree : ((s.withBound none).paths t).toList =
      s.toList.flatMap fun a => s.graph.preorder t.members [a] := by
    rw [toList_paths]
    exact (List.filter_eq_self.2 fun _ _ => rfl).trans (hany none)
  rw [toList_paths, hfree]
  exact congrArg _ (hany (some bound))

end SymbolSet

end CallAtlas
