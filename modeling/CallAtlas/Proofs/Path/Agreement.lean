/-
# `CallAtlas.Proofs.Path.Agreement` — path searches agree with closures

A simple call path is a chain of calls, and where a chain leads a simple path
leads that is no longer.  So a path search, which lists simple paths, and a
closure, which adds callees until nothing is new, find the same pairs of symbols
(`SymbolSet.exists_path_iff`): a pair has a path if it has a distance and the
settings allow a path of that length.

The shortest path that is kept for a pair is as long as its distance says,
because a path of that length is among those that were found.
-/
import CallAtlas.Proofs.Path.Complete
import CallAtlas.Proofs.SymbolSet.Reachability

namespace CallAtlas

variable {g : CallGraph}

/-! ## Paths and chains -/

/-- A path leads from one symbol to another. -/
def CallPath.Leads (p : CallPath) (a b : Symbol) : Prop :=
  p.first? = some a ∧ p.last? = some b

/-- Along a simple path each symbol calls the next, and one symbol more is visited than calls
are made. -/
theorem CallPath.Simple.chain {p : CallPath} (h : p.Simple g) {a b : Symbol} (hp : p.Leads a b) :
    ∃ n, p.length = n + 1 ∧ Chain g.Calls n a b := by
  obtain ⟨hfirst, hlast⟩ := hp
  obtain ⟨rest, hcons⟩ := List.head?_eq_some_iff.1 hfirst
  have hchain := h.isChain_calls
  unfold last? at hlast
  rw [hcons] at hchain hlast
  refine ⟨rest.length, ?_, Chain.of_isChain hchain hlast⟩
  rw [length, hcons, List.length_cons]

/-- Where a chain of calls leads, a simple path leads that is no longer. -/
theorem Chain.exists_simple {n : Nat} {a b : Symbol} (h : Chain g.Calls n a b) (ha : g.Has a) :
    ∃ p : CallPath, p.Simple g ∧ p.Leads a b ∧ p.length ≤ n + 1 := by
  obtain ⟨rest, hchain, hlast, hnodup, hlength⟩ := h.exists_nodup
  have hcallees : (a :: rest).IsChain fun x y => y ∈ g.calleesOf x := by
    apply hchain.imp
    intro x y hcall
    exact (CallGraph.calls_iff hcall.1).1 hcall
  obtain ⟨hall, hcalls⟩ := (CallGraph.isChain_calleesOf_iff ha rest).1 hcallees
  refine ⟨⟨a :: rest⟩, ⟨List.cons_ne_nil a rest, hall, hcalls, ?_⟩, ⟨rfl, hlast⟩, ?_⟩
  · exact List.Nodup.map_on (fun x hx y hy => (hall x hx).eq_of_id_eq (hall y hy)) hnodup
  · exact Nat.succ_le_succ hlength

/-- A simple path is longer than the distance between its ends. -/
theorem CallPath.Simple.distance_lt {p : CallPath} (h : p.Simple g) {a b : Symbol}
    (hp : p.Leads a b) {d : Nat} (hd : g.Distance a b d) : d + 1 ≤ p.length := by
  obtain ⟨n, hlength, hchain⟩ := h.chain hp
  have := hd.2 n hchain
  omega

/-- In a graph, paths with the same ends in writing lead from and to the same symbols. -/
theorem CallPath.Simple.leads_of_ends_eq {p q : CallPath} (hp : p.Simple g) (hq : q.Simple g)
    {a b : Symbol} (hleads : p.Leads a b) (hends : q.ends = p.ends) : q.Leads a b := by
  obtain ⟨hfirst, hlast⟩ := hleads
  obtain ⟨c, hc⟩ := Option.isSome_iff_exists.1 (List.isSome_head?.2 hq.nonempty)
  obtain ⟨d, hd⟩ := Option.isSome_iff_exists.1 (List.getLast?_isSome.2 hq.nonempty)
  rw [ends_of_first_last hc hd, ends_of_first_last hfirst hlast] at hends
  obtain ⟨hca, hdb⟩ : c.id = a.id ∧ d.id = b.id := by simpa using hends
  have hc' := hq.inGraph c (List.mem_of_head? hc)
  have hd' := hq.inGraph d (List.mem_of_getLast? hd)
  have ha := hp.inGraph a (List.mem_of_head? hfirst)
  have hb := hp.inGraph b (List.mem_of_getLast? hlast)
  exact ⟨hc.trans (congrArg some (hc'.eq_of_id_eq ha hca)),
    hd.trans (congrArg some (hd'.eq_of_id_eq hb hdb))⟩

namespace SymbolSet

variable {s t : SymbolSet}

/-! ## Pairs with a path -/

/-- A pair has a path if it has a distance and a path of that length is allowed. -/
theorem exists_path_iff (hs : s.Within g) (ht : t.Within g) {a b : Symbol} :
    (∃ p ∈ (s.paths t).toList, p.Leads a b) ↔
      a ∈ s.toList ∧ b ∈ t.toList ∧ ∃ d, g.Distance a b d ∧ g.config.Allows (d + 1) := by
  constructor
  · rintro ⟨p, hp, hleads⟩
    obtain ⟨hsimple, ⟨c, hc, hfirst⟩, ⟨d, hd, hlast⟩, hallows⟩ := (mem_paths hs ht).1 hp
    obtain rfl : a = c := Option.some.inj (hleads.1.symm.trans hfirst)
    obtain rfl : b = d := Option.some.inj (hleads.2.symm.trans hlast)
    obtain ⟨n, hlength, hchain⟩ := hsimple.chain hleads
    obtain ⟨k, hk, hle⟩ := CallGraph.exists_distance hchain
    exact ⟨hc, hd, k, hk, hallows.mono (by omega)⟩
  · rintro ⟨ha, hb, d, hd, hallows⟩
    obtain ⟨p, hsimple, hleads, hlength⟩ := hd.1.exists_simple (hs.members a ha)
    refine ⟨p, (mem_paths hs ht).2 ⟨hsimple, ⟨a, ha, hleads.1⟩, ⟨b, hb, hleads.2⟩, ?_⟩, hleads⟩
    exact hallows.mono hlength

theorem mem_imageOf_reflexiveCallees {a b : Symbol} (ha : g.Has a) :
    b ∈ (Relation.reflexiveCallees.imageOf g a).toList ↔ ∃ d, g.Distance a b d := by
  have hprobe : (probe g a).toList = [a] := OrderedSet.toList_ofList_of_nodup [a] (by simp)
  unfold Relation.imageOf
  rw [mem_reflexiveCallees (probe_sound ha), hprobe]
  simp only [List.mem_singleton, exists_eq_left]
  constructor
  · rintro ⟨n, hchain⟩
    obtain ⟨d, hd, -⟩ := CallGraph.exists_distance hchain
    exact ⟨d, hd⟩
  · rintro ⟨d, hd⟩
    exact ⟨d, hd.1⟩

/-! ## The shortest paths -/

/-- For a pair with a path there is one shortest path, and the distance says how long. -/
theorem exists_unique_path (hs : s.Within g) (ht : t.Within g) {a b : Symbol}
    (h : ∃ p ∈ (s.paths t).toList, p.Leads a b) :
    ∃ q ∈ (s.paths t).unique.toList, q.Leads a b ∧
      (∃ d, g.Distance a b d ∧ q.length = d + 1) ∧
      ∀ r ∈ (s.paths t).unique.toList, r.Leads a b → r = q := by
  obtain ⟨ha, hb, d, hd, hallows⟩ := (exists_path_iff hs ht).1 h
  obtain ⟨p, hp, hleads⟩ := h
  have hsimple : ∀ r ∈ (s.paths t).toList, r.Simple g := fun r hr => ((mem_paths hs ht).1 hr).1
  have hends : ∀ r : CallPath, r.Leads a b → r.ends = p.ends := fun r hr =>
    (CallPath.ends_of_first_last hr.1 hr.2).trans
      (CallPath.ends_of_first_last hleads.1 hleads.2).symm
  obtain ⟨q, hq, hqends, hleast, hone⟩ :=
    PathSet.exists_mem_unique hp (hsimple p hp).nonempty
  have hqsimple := hsimple q (PathSet.mem_of_mem_unique hq)
  have hqleads := (hsimple p hp).leads_of_ends_eq hqsimple hleads hqends
  -- a simple path as long as the distance says competes for the place of `q`
  obtain ⟨r, hrsimple, hrleads, hrlength⟩ := hd.1.exists_simple (hs.members a ha)
  have hr : r ∈ (s.paths t).toList := (mem_paths hs ht).2
    ⟨hrsimple, ⟨a, ha, hrleads.1⟩, ⟨b, hb, hrleads.2⟩, hallows.mono hrlength⟩
  have hle := hleast r hr hrsimple.nonempty (hends r hrleads)
  have hge := hqsimple.distance_lt hqleads hd
  refine ⟨q, hq, hqleads, ⟨d, hd, by omega⟩, ?_⟩
  intro r' hr' hleads'
  exact hone r' hr' (hends r' hleads')

/-! ## The symbols on paths -/

/-- A symbol on a path between two sets is reached from the first and reaches the second. -/
theorem exists_chains_of_mem_symbols (hs : s.Within g) (ht : t.Within g) {c : Symbol}
    (hc : c ∈ (s.paths t).symbols.toList) :
    (∃ a ∈ s.toList, ∃ n, Chain g.Calls n a c) ∧ ∃ b ∈ t.toList, ∃ n, Chain g.Calls n c b := by
  obtain ⟨p, hp, hcp⟩ := (PathSet.mem_symbols_of_within (paths_within hs ht)).1 hc
  obtain ⟨hsimple, ⟨a, ha, hfirst⟩, ⟨b, hb, hlast⟩, -⟩ := (mem_paths hs ht).1 hp
  obtain ⟨before, after, hsplit⟩ := List.append_of_mem hcp
  have hto : CallPath.Simple g ⟨before ++ [c]⟩ := by
    refine hsimple.part ⟨[], after, ?_⟩ (by simp)
    rw [hsplit]
    simp
  have hfrom : CallPath.Simple g ⟨c :: after⟩ := by
    refine hsimple.part ⟨before, [], ?_⟩ (List.cons_ne_nil c after)
    rw [hsplit]
    simp
  unfold CallPath.first? at hfirst
  unfold CallPath.last? at hlast
  rw [hsplit] at hfirst hlast
  constructor
  · obtain ⟨n, -, hchain⟩ := hto.chain (a := a) (b := c)
      ⟨by simpa [CallPath.first?, List.head?_append] using hfirst, List.getLast?_concat⟩
    exact ⟨a, ha, n, hchain⟩
  · obtain ⟨n, -, hchain⟩ := hfrom.chain (a := c) (b := b)
      ⟨rfl, by simpa [CallPath.last?, List.getLast?_append] using hlast⟩
    exact ⟨b, hb, n, hchain⟩

/-! ## Agreement -/

/-- Between two sets drawn from a finalised graph, paths, shortest paths and closures agree.

Without a bound the pairs with a path are those of a start and a target among what the start
reaches; with a bound those whose distance leaves room for a path.  The shortest paths are
paths that were found, and for each pair with a path there is one, as long as the distance
says.  What lies on a path is reached from the starts and reaches the targets. -/
theorem paths_agree_with_closures (hg : g.Finalised) (hs : s.DrawnFrom g) (ht : t.DrawnFrom g) :
    (g.config.maxPathLength = none → ∀ a b,
      (∃ p ∈ (s.paths t).toList, p.Leads a b) ↔
        a ∈ s.toList ∧ b ∈ t.toList ∧ b ∈ (Relation.reflexiveCallees.imageOf g a).toList) ∧
    (∀ bound, g.config.maxPathLength = some bound → ∀ a b,
      (∃ p ∈ (s.paths t).toList, p.Leads a b) ↔
        a ∈ s.toList ∧ b ∈ t.toList ∧ ∃ d, g.Distance a b d ∧ d + 1 ≤ bound) ∧
    (∀ q ∈ (s.paths t).unique.toList, q ∈ (s.paths t).toList) ∧
    (∀ a b, (∃ p ∈ (s.paths t).toList, p.Leads a b) →
      ∃ q ∈ (s.paths t).unique.toList, q.Leads a b ∧
        (∃ d, g.Distance a b d ∧ q.length = d + 1) ∧
        ∀ r ∈ (s.paths t).unique.toList, r.Leads a b → r = q) ∧
    ∀ c ∈ (s.paths t).symbols.toList,
      c ∈ (Relation.reflexiveCallees.apply s).image.toList ∧
        c ∈ (Relation.reflexiveCallers.apply t).image.toList := by
  refine ⟨?_, ?_, ?_, ?_, ?_⟩
  · intro hnone a b
    have hallows : ∀ n, g.config.Allows n := by
      intro n bound hbound
      rw [hnone] at hbound
      cases hbound
    rw [exists_path_iff hs.within ht.within]
    refine and_congr_right fun ha => and_congr_right fun _ => ?_
    rw [mem_imageOf_reflexiveCallees (hs.within.members a ha)]
    exact exists_congr fun d => and_iff_left (hallows (d + 1))
  · intro bound hbound a b
    have hallows : ∀ n, g.config.Allows n ↔ n ≤ bound := by
      intro n
      unfold QueryConfig.Allows
      rw [hbound]
      simp
    rw [exists_path_iff hs.within ht.within]
    simp only [hallows]
  · exact fun q => PathSet.mem_of_mem_unique
  · exact fun a b => exists_unique_path hs.within ht.within
  · intro c hc
    obtain ⟨hfrom, hto⟩ := exists_chains_of_mem_symbols hs.within ht.within hc
    exact ⟨(mem_reflexiveCallees hs.sound).2 hfrom, (mem_reflexiveCallers hg ht.sound).2 hto⟩

/-- Where two functions call each other, the one is among what the other reaches, and so there
is a path. -/
theorem paths_agree_with_closures_mutualPair :
    (CallGraph.mutualPair .standard).Finalised ∧
      (whole (.mutualPair .standard)).DrawnFrom (.mutualPair .standard) ∧
        ∃ p ∈ ((whole (.mutualPair .standard)).paths (whole (.mutualPair .standard))).toList,
          p.Leads CallGraph.ping CallGraph.pong := by
  have hg := CallGraph.finalised_mutualPair .standard
  have hping : CallGraph.ping ∈ (whole (.mutualPair .standard)).toList := by decide +kernel
  have hpong : CallGraph.pong ∈ (whole (.mutualPair .standard)).toList := by decide +kernel
  have hreach : CallGraph.pong ∈ (Relation.reflexiveCallees.imageOf (.mutualPair .standard)
      CallGraph.ping).toList := by
    decide +kernel
  exact ⟨hg, .whole, ((paths_agree_with_closures hg .whole .whole).1 rfl _ _).2
    ⟨hping, hpong, hreach⟩⟩

end SymbolSet

end CallAtlas
