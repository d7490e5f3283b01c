/-
# `CallAtlas.Proofs.Path.Simple` — a search finds the simple call paths

`CallPath.Simple g p` says what a simple call path of a graph is, without a
search: symbols of the graph, at least one and none twice, each calling the
next.  A search lists exactly those of them that begin at a start, end at a
target and are not too long (`SymbolSet.mem_paths`).

Soundness is an induction on what a trail has not visited, as the listing
itself; completeness is one on what a path has left to go.
-/
import CallAtlas.Proofs.Graph.Chain
import CallAtlas.Proofs.Path.Listing

namespace CallAtlas

/-! ## Within a graph -/

/-- The set is of the graph, and so are its members. -/
structure SymbolSet.Within (g : CallGraph) (s : SymbolSet) : Prop where
  graph : s.graph = g
  members : ∀ a ∈ s.toList, g.Has a

/-- Symbols of the graph, at least one and none twice, each calling the next. -/
structure CallPath.Simple (g : CallGraph) (p : CallPath) : Prop where
  nonempty : p.symbols ≠ []
  inGraph : ∀ a ∈ p.symbols, g.Has a
  linked : p.symbols.IsChain fun a b => g.hasCall a.id b.id = true
  nodup : p.ids.Nodup

theorem CallPath.Simple.isChain_calls {g : CallGraph} {p : CallPath} (h : p.Simple g) :
    p.symbols.IsChain g.Calls := by
  apply h.linked.imp_of_mem_imp
  intro a b ha hb hcall
  exact ⟨h.inGraph a ha, h.inGraph b hb, hcall⟩

/-- The settings put no smaller bound on the number of symbols of a path. -/
def QueryConfig.Allows (c : QueryConfig) (length : Nat) : Prop :=
  ∀ bound, c.maxPathLength = some bound → length ≤ bound

/-- A path of a graph is known by its identities. -/
theorem CallPath.eq_of_ids_eq {g : CallGraph} (p q : CallPath) (hp : ∀ a ∈ p.symbols, g.Has a)
    (hq : ∀ a ∈ q.symbols, g.Has a) (h : p.ids = q.ids) : p = q := by
  obtain ⟨l⟩ := p
  obtain ⟨m⟩ := q
  simp only [CallPath.ids] at hp hq h
  induction l generalizing m with
  | nil => rw [List.map_nil, eq_comm, List.map_eq_nil_iff] at h; rw [h]
  | cons a l ih =>
    cases m with
    | nil => simp at h
    | cons b m =>
      rw [List.map_cons, List.map_cons, List.cons.injEq] at h
      have hab : a = b := (hp a List.mem_cons_self).eq_of_id_eq (hq b List.mem_cons_self) h.1
      have hlm := ih (fun c hc => hp c (List.mem_cons_of_mem a hc)) m
        (fun c hc => hq c (List.mem_cons_of_mem b hc)) h.2
      rw [hab, CallPath.mk.inj hlm]

/-- To follow callees from a symbol of the graph is to stay in the graph and to follow calls. -/
theorem CallGraph.isChain_calleesOf_iff {g : CallGraph} {a : Symbol} (ha : g.Has a)
    (l : List Symbol) :
    (a :: l).IsChain (fun x y => y ∈ g.calleesOf x) ↔
      (∀ b ∈ a :: l, g.Has b) ∧ (a :: l).IsChain fun x y => g.hasCall x.id y.id = true := by
  induction l generalizing a with
  | nil => simp [ha]
  | cons b l ih =>
    rw [List.isChain_cons_cons, List.isChain_cons_cons, mem_calleesOf, List.forall_mem_cons]
    constructor
    · rintro ⟨⟨hb, hcall⟩, hchain⟩
      obtain ⟨hall, hcalls⟩ := (ih hb).1 hchain
      exact ⟨⟨ha, hall⟩, hcall, hcalls⟩
    · rintro ⟨⟨-, hall⟩, hcall, hcalls⟩
      have hb := hall b List.mem_cons_self
      exact ⟨⟨hb, hcall⟩, (ih hb).2 ⟨hall, hcalls⟩⟩

namespace Search

/-! ## What is listed from a trail -/

theorem admits_iff (search : Search) (n : Nat) :
    search.admits n = true ↔ ∀ bound, search.limit = some bound → n ≤ bound := by
  unfold admits
  cases search.limit with
  | none => simp
  | some limit => simp

theorem mayGrow_of_admits (search : Search) {m n : Nat} (h : search.admits m = true) (hlt : n < m) :
    search.mayGrow n = true := by
  unfold admits at h
  unfold mayGrow
  cases hlimit : search.limit with
  | none => rfl
  | some limit =>
    rw [hlimit] at h
    simp only [decide_eq_true_eq] at h ⊢
    omega

theorem mem_kept {search : Search} {trail : List Symbol} {p : CallPath} :
    p ∈ search.kept trail ↔ p.symbols = trail.reverse ∧ search.admits p.length = true ∧
      p.last?.any search.targets.contains = true := by
  obtain ⟨l⟩ := p
  unfold kept
  split
  · rename_i h
    rw [Bool.and_eq_true] at h
    rw [List.mem_singleton, CallPath.mk.injEq]
    constructor
    · rintro rfl
      simpa [CallPath.length, CallPath.last?] using h
    · exact And.left
  · rename_i h
    simp only [List.not_mem_nil, false_iff]
    rintro ⟨rfl, hlength, hlast⟩
    apply h
    rw [Bool.and_eq_true]
    simpa [CallPath.length, CallPath.last?] using And.intro hlength hlast

/-- A path that is listed from a trail goes on from it along callees, visits nothing twice,
ends at a target and is not too long. -/
theorem exists_of_mem_listing (search : Search) (a : Symbol) (trail : List Symbol)
    (htrail : ((a :: trail).map Symbol.id).Nodup) {p : CallPath}
    (hp : p ∈ search.listing (a :: trail)) :
    ∃ rest, p.symbols = (a :: trail).reverse ++ rest ∧
      (a :: rest).IsChain (fun x y => y ∈ search.graph.calleesOf x) ∧ p.ids.Nodup ∧
      search.admits p.length = true ∧ p.last?.any search.targets.contains = true := by
  rw [listing_cons, List.mem_append] at hp
  rcases hp with hp | hp
  · obtain ⟨hsymbols, hlength, hlast⟩ := mem_kept.1 hp
    refine ⟨[], by rw [hsymbols, List.append_nil], .singleton a, ?_, hlength, hlast⟩
    rw [CallPath.ids, hsymbols, List.map_reverse]
    exact List.nodup_reverse.2 htrail
  · split at hp
    · obtain ⟨b, hb, hp⟩ := List.mem_flatMap.1 hp
      obtain ⟨hcallee, hnew⟩ := List.mem_filter.1 hb
      obtain ⟨rest, hsymbols, hchain, hends⟩ := exists_of_mem_listing search b (a :: trail)
        (List.nodup_cons.2 ⟨fresh_iff.1 hnew, htrail⟩) hp
      exact ⟨b :: rest, by simpa using hsymbols, List.isChain_cons_cons.2 ⟨hcallee, hchain⟩, hends⟩
    · exact absurd hp List.not_mem_nil
termination_by (unvisited search.graph (a :: trail)).length
decreasing_by exact length_unvisited_lt (CallGraph.id_lt_of_mem_calleesOf hcallee) hnew

/-- Every such path is listed. -/
theorem mem_listing_of_isChain (search : Search) {p : CallPath} (hnodup : p.ids.Nodup)
    (hlength : search.admits p.length = true) (hlast : p.last?.any search.targets.contains = true)
    {rest : List Symbol} {a : Symbol} {trail : List Symbol}
    (hsymbols : p.symbols = (a :: trail).reverse ++ rest)
    (hchain : (a :: rest).IsChain fun x y => y ∈ search.graph.calleesOf x) :
    p ∈ search.listing (a :: trail) := by
  induction rest generalizing a trail with
  | nil =>
    rw [List.append_nil] at hsymbols
    rw [listing_cons, List.mem_append]
    exact Or.inl (mem_kept.2 ⟨hsymbols, hlength, hlast⟩)
  | cons b rest ih =>
    rw [List.isChain_cons_cons] at hchain
    have hnew : fresh (a :: trail) b = true := by
      rw [fresh_iff]
      rw [CallPath.ids, hsymbols, List.map_append, List.nodup_append] at hnodup
      intro hmem
      rw [← List.mem_reverse, ← List.map_reverse] at hmem
      exact hnodup.2.2 b.id hmem b.id (by simp) rfl
    have hgrow : search.mayGrow (a :: trail).length = true := by
      apply search.mayGrow_of_admits hlength
      rw [CallPath.length, hsymbols]
      simp
    have hthrough : p ∈ search.listing (b :: a :: trail) := ih (by simpa using hsymbols) hchain.2
    rw [listing_cons, List.mem_append, if_pos hgrow]
    exact Or.inr (List.mem_flatMap.2 ⟨b, List.mem_filter.2 ⟨hchain.1, hnew⟩, hthrough⟩)

/-- What is listed from a symbol of the graph. -/
theorem mem_listing_iff (search : Search) {a : Symbol} (ha : search.graph.Has a) {p : CallPath} :
    p ∈ search.listing [a] ↔ p.Simple search.graph ∧ p.first? = some a ∧
      search.admits p.length = true ∧ p.last?.any search.targets.contains = true := by
  constructor
  · intro hp
    obtain ⟨rest, hsymbols, hchain, hnodup, hends⟩ :=
      search.exists_of_mem_listing a [] (List.pairwise_singleton _ a.id) hp
    have hcons : p.symbols = a :: rest := hsymbols
    obtain ⟨hall, hcalls⟩ := (CallGraph.isChain_calleesOf_iff ha rest).1 hchain
    refine ⟨⟨?_, ?_, ?_, hnodup⟩, ?_, hends⟩
    · rw [hcons]
      exact List.cons_ne_nil a rest
    · rw [hcons]
      exact hall
    · rw [hcons]
      exact hcalls
    · rw [CallPath.first?, hcons, List.head?_cons]
  · rintro ⟨hsimple, hfirst, hlength, hlast⟩
    obtain ⟨rest, hcons⟩ := List.head?_eq_some_iff.1 hfirst
    have hall := hsimple.inGraph
    have hcalls := hsimple.linked
    rw [hcons] at hall hcalls
    exact search.mem_listing_of_isChain hsimple.nodup hlength hlast hcons
      ((CallGraph.isChain_calleesOf_iff ha rest).2 ⟨hall, hcalls⟩)

end Search

/-! ## The paths between two sets -/

namespace SymbolSet

variable {g : CallGraph} {s t : SymbolSet}

theorem contains_iff_mem (ht : ∀ b ∈ t.toList, g.Has b) {b : Symbol} (hb : g.Has b) :
    t.contains b = true ↔ b ∈ t.toList :=
  OrderedSet.contains_iff_mem (fun _ _ => CallGraph.Has.eq_of_id_eq) ht hb

/-- Between two sets within a graph a search finds the simple call paths from the one to the
other, as far as the settings allow. -/
theorem mem_paths (hs : s.Within g) (ht : t.Within g) {p : CallPath} :
    p ∈ (s.paths t).toList ↔ p.Simple g ∧ (∃ a ∈ s.toList, p.first? = some a) ∧
      (∃ b ∈ t.toList, p.last? = some b) ∧ g.config.Allows p.length := by
  obtain ⟨hgraph, hmembers⟩ := hs
  subst hgraph
  let search : Search := ⟨s.graph, t.members, s.graph.config.maxPathLength⟩
  have hfrom : ∀ a ∈ s.toList, ∀ q ∈ search.listing [a], ∀ b ∈ q.symbols, s.graph.Has b :=
    fun a ha q hq => ((search.mem_listing_iff (hmembers a ha)).1 hq).1.inGraph
  have hlisted : p ∈ (s.paths t).toList ↔ ∃ a ∈ s.toList, p ∈ search.listing [a] := by
    show p ∈ (search.pathsFrom s.toList).toList ↔ _
    rw [Search.pathsFrom_eq_ofList, OrderedSet.mem_ofList_iff
      (P := fun q : CallPath => ∀ b ∈ q.symbols, s.graph.Has b) CallPath.eq_of_ids_eq, List.mem_flatMap]
    intro q hq
    obtain ⟨a, ha, hq⟩ := List.mem_flatMap.1 hq
    exact hfrom a ha q hq
  have htarget : ∀ {q : CallPath}, q.Simple s.graph →
      (q.last?.any search.targets.contains = true ↔ ∃ b ∈ t.toList, q.last? = some b) := by
    intro q hq
    rw [Option.any_eq_true]
    constructor
    · rintro ⟨b, hlast, hb⟩
      have hhas : s.graph.Has b := hq.inGraph b (List.mem_of_getLast? hlast)
      exact ⟨b, (contains_iff_mem ht.members hhas).1 hb, hlast⟩
    · rintro ⟨b, hb, hlast⟩
      exact ⟨b, hlast, (contains_iff_mem ht.members (ht.members b hb)).2 hb⟩
  rw [hlisted]
  constructor
  · rintro ⟨a, ha, hp⟩
    obtain ⟨hsimple, hfirst, hlength, hlast⟩ := (search.mem_listing_iff (hmembers a ha)).1 hp
    exact ⟨hsimple, ⟨a, ha, hfirst⟩, (htarget hsimple).1 hlast, (search.admits_iff p.length).1 hlength⟩
  · rintro ⟨hsimple, ⟨a, ha, hfirst⟩, hlast, hlength⟩
    exact ⟨a, ha, (search.mem_listing_iff (hmembers a ha)).2
      ⟨hsimple, hfirst, (search.admits_iff p.length).2 hlength, (htarget hsimple).2 hlast⟩⟩

end SymbolSet

end CallAtlas
