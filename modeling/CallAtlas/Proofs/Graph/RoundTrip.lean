/-
# `CallAtlas.Proofs.Graph.RoundTrip` — snapshots and graphs

A graph without symbols that takes in a snapshot gives each of its declarations
the position it has there as its identity, so the calls are entered as they are, and
the row of a symbol comes to hold what it calls in the snapshot, each callee where it
is called first (`Vacant.idsAt_includeSnapshot`).  Read back row after row, the
calls are those of the snapshot without repetitions, grouped by the caller.

The calls of a graph are in that form already: those of one caller are its row
(`calleesIn_calls`), and rows have no repetitions.  That is why the snapshot of a
graph makes the same graph again.
-/
import CallAtlas.Proofs.Graph.Bookkeeping
import CallAtlas.Proofs.Graph.Inclusion

namespace CallAtlas

namespace CallGraph

variable {g : CallGraph}

/-! ## Graphs without symbols -/

/-- A graph that was built without any symbols so far. -/
structure Vacant (e : CallGraph) : Prop where
  built : e.Built
  none : e.symbolCount = 0

theorem vacant_new (number : Nat) (config : QueryConfig) : (new number config).Vacant :=
  ⟨⟨number, config, [], rfl⟩, rfl⟩

section Vacant

variable {e : CallGraph} (he : e.Vacant)
include he

theorem Vacant.decls : e.decls.toList = [] :=
  List.eq_nil_of_length_eq_zero (Array.length_toList.trans he.none)

variable {s : GraphSnapshot} (hs : s.InRange)
include hs

/-- A graph without symbols takes in every snapshot whose calls are between its symbols. -/
theorem Vacant.includeSnapshot_eq :
    e.includeSnapshot s =
      ((e.addSymbols s.symbols).1.enterCalls s.calls, .ok (List.range s.symbols.length)) := by
  rw [he.built.includeSnapshot_eq hs, he.none, map_moved_zero, List.range_eq_range']

theorem Vacant.size_callees_includeSnapshot :
    (e.includeSnapshot s).1.callees.size = s.symbols.length := by
  rw [he.includeSnapshot_eq hs, size_callees_enterCalls, he.built.size_callees_addSymbols, he.none,
    Nat.zero_add]

/-- The row of a symbol comes to hold what the symbol calls in the snapshot, each callee where
it is called first. -/
theorem Vacant.idsAt_includeSnapshot (i : Nat) :
    idsAt (e.includeSnapshot s).1.callees i = (calleesIn s.calls i).eraseDups := by
  have hrow := he.built.idsAt_includeSnapshot_add hs i
  simp only [he.none, Nat.zero_add, List.map_id'] at hrow
  exact hrow

end Vacant

/-! ## Reading the calls back -/

theorem calls_eq_flatMap (g : CallGraph) :
    g.calls = (List.range g.callees.size).flatMap fun i => (idsAt g.callees i).map (i, ·) := by
  unfold calls idsAt
  refine List.flatMap_congr fun i _ => ?_
  cases g.callees[i]? with
  | none => rfl
  | some row => rfl

theorem map_calleesIn (calls : List (Nat × Nat)) (i : Nat) :
    (calleesIn calls i).map (i, ·) = calls.filter fun c => c.1 = i := by
  unfold calleesIn
  rw [List.map_map]
  refine (List.map_congr_left ?_).trans (List.map_id _)
  intro c hc
  have hcaller : c.1 = i := of_decide_eq_true (List.mem_filter.1 hc).2
  exact Prod.ext hcaller.symm rfl

/-- The calls that were taken in are read back grouped by the caller, and each once. -/
theorem Vacant.calls_includeSnapshot {e : CallGraph} (he : e.Vacant) {s : GraphSnapshot}
    (hs : s.InRange) :
    (e.includeSnapshot s).1.calls = s.calls.eraseDups.mergeSort fun c d => c.1 ≤ d.1 := by
  have hbound : ∀ c ∈ s.calls.eraseDups, c.1 < s.symbols.length :=
    fun c hc => (hs c (List.mem_eraseDups.1 hc)).1
  rw [calls_eq_flatMap, he.size_callees_includeSnapshot hs,
    Grouping.mergeSort_eq_flatMap Prod.fst hbound]
  refine List.flatMap_congr fun i _ => ?_
  calc (idsAt (e.includeSnapshot s).1.callees i).map (i, ·)
      = (calleesIn s.calls i).eraseDups.map (i, ·) := by rw [he.idsAt_includeSnapshot hs]
    _ = ((calleesIn s.calls i).map (i, ·)).eraseDups :=
        (Grouping.eraseDups_map (fun _ _ h => (Prod.mk.inj h).2) _).symm
    _ = s.calls.eraseDups.filter fun c => c.1 = i := by
        rw [map_calleesIn, Grouping.eraseDups_filter]

/-- Of rows that are read out one after the other the calls of one caller are its row. -/
theorem calleesIn_flatMap (row : Nat → List Nat) (n i : Nat) :
    calleesIn ((List.range n).flatMap fun k => (row k).map (k, ·)) i =
      if i < n then row i else [] := by
  induction n with
  | zero => rfl
  | succ n ih =>
    have hlast : calleesIn ((row n).map (n, ·)) i = if n = i then row i else [] := by
      unfold calleesIn
      rw [List.filter_map, List.map_map]
      by_cases hi : n = i
      · subst hi
        simp [Function.comp_def]
      · simp [Function.comp_def, hi]
    rw [List.range_succ, List.flatMap_append, List.flatMap_singleton]
    unfold calleesIn at ih hlast ⊢
    rw [List.filter_append, List.map_append, ih, hlast]
    rcases Nat.lt_trichotomy i n with hi | rfl | hi
    · simp [hi, Nat.lt_succ_of_lt hi, Nat.ne_of_gt hi]
    · simp
    · simp [Nat.not_lt.2 (Nat.le_of_lt hi), Nat.ne_of_lt hi, Nat.not_lt.2 (Nat.succ_le_of_lt hi)]

/-- Of the calls of a graph those of one caller are its row. -/
theorem calleesIn_calls (g : CallGraph) (i : Nat) : calleesIn g.calls i = idsAt g.callees i := by
  rw [calls_eq_flatMap, calleesIn_flatMap]
  split
  · rfl
  · rename_i hi
    unfold idsAt
    rw [Array.getElem?_eq_none (Nat.not_lt.1 hi)]
    rfl

theorem Built.callCount_eq (hg : g.Built) : g.callCount = g.calls.length := by
  obtain ⟨number, config, steps, rfl⟩ := hg
  have hcounted : ((new number config).run steps).Counted := kept_counted.after_run steps rfl
  rw [← List.length_map Prod.snd, map_snd_calls]
  exact hcounted

theorem Built.inRange_toSnapshot (hg : g.Built) : g.toSnapshot.InRange := by
  intro c hc
  have hmem : c.2 ∈ idsAt g.callees c.1 := mem_calls.1 hc
  have hcaller := hg.coherent.rows ▸ lt_size_of_mem_idsAt hmem
  have hcallee := hg.coherent.known c.1 c.2 hmem
  exact ⟨hcaller, hcallee⟩

/-! ## Round trips -/

/-- The second graph has the symbols of the first with the same identities, their callees in the
same order, as many calls, and the same snapshot. -/
structure Reproduced (g h : CallGraph) : Prop where
  symbol? : ∀ id, h.symbol? id = g.symbol? id
  symbols : h.symbols = g.symbols
  calleesOf : ∀ a, h.calleesOf a = g.calleesOf a
  callCount : h.callCount = g.callCount
  toSnapshot : h.toSnapshot = g.toSnapshot

/-- Declarations and rows determine what is asked of a reproduction. -/
theorem Built.reproduced {h : CallGraph} (hg : g.Built) (hh : h.Built) (hdecls : h.decls = g.decls)
    (hrows : ∀ i, idsAt h.callees i = idsAt g.callees i) : g.Reproduced h := by
  have hsymbol? : h.symbol? = g.symbol? := by
    funext id
    unfold CallGraph.symbol?
    rw [hdecls]
  have hcount : h.symbolCount = g.symbolCount := congrArg Array.size hdecls
  have hcalls : h.calls = g.calls := by
    rw [calls_eq_flatMap, calls_eq_flatMap, hh.coherent.rows, hg.coherent.rows, hcount]
    simp only [hrows]
  refine ⟨congrFun hsymbol?, ?_, ?_, ?_, ?_⟩
  · unfold CallGraph.symbols
    rw [hcount, hsymbol?]
  · intro a
    rw [calleesOf_eq, calleesOf_eq, hrows, hsymbol?]
  · rw [hh.callCount_eq, hg.callCount_eq, hcalls]
  · exact congrArg₂ GraphSnapshot.mk (congrArg Array.toList hdecls) hcalls

theorem Vacant.reproduced {e : CallGraph} (he : e.Vacant) (hg : g.Built) :
    g.Reproduced (e.includeSnapshot g.toSnapshot).1 := by
  refine hg.reproduced (he.built.includeSnapshot g.toSnapshot) ?_ ?_
  · rw [← Array.toList_inj, decls_includeSnapshot, he.decls]
    rfl
  · intro i
    rw [he.idsAt_includeSnapshot hg.inRange_toSnapshot]
    exact (congrArg List.eraseDups (g.calleesIn_calls i)).trans
      (Grouping.eraseDups_of_nodup (nodup_idsAt g.callees i))

/-- A graph comes back from its snapshot: taken in by a graph without symbols, the snapshot makes
the graph again.  And whatever snapshot such a graph takes in, it gives it back with each call
once, grouped by the caller, and otherwise in its order. -/
theorem snapshot_round_trip {e : CallGraph} (he : e.Vacant) :
    (∀ g : CallGraph, g.Built →
      ∃ h, e.includeSnapshot g.toSnapshot = (h, .ok (List.range g.symbolCount)) ∧
        g.Reproduced h) ∧
    ∀ s : GraphSnapshot, s.InRange →
      ∃ h, e.includeSnapshot s = (h, .ok (List.range s.symbols.length)) ∧
        h.toSnapshot = ⟨s.symbols, s.calls.eraseDups.mergeSort fun c d => c.1 ≤ d.1⟩ := by
  have hresult : ∀ s : GraphSnapshot, s.InRange →
      e.includeSnapshot s = ((e.includeSnapshot s).1, .ok (List.range s.symbols.length)) := by
    intro s hs
    rw [he.includeSnapshot_eq hs]
  refine ⟨?_, ?_⟩
  · exact fun g hg => ⟨_, hresult g.toSnapshot hg.inRange_toSnapshot, he.reproduced hg⟩
  · intro s hs
    have hdecls : (e.includeSnapshot s).1.decls.toList = s.symbols := by
      rw [decls_includeSnapshot, he.decls, List.nil_append]
    exact ⟨_, hresult s hs, congrArg₂ GraphSnapshot.mk hdecls (he.calls_includeSnapshot hs)⟩

/-- Three declarations, and calls that come back to the first caller, repeat one another, and go
from a symbol to itself. -/
def tangle : GraphSnapshot where
  symbols := [ping.toSymbolDecl, pong.toSymbolDecl, ping.toSymbolDecl]
  calls := [(2, 1), (0, 2), (2, 1), (1, 1), (0, 1), (2, 0), (0, 2)]

/-- A new graph takes in the snapshot of two functions that call each other, and tangled calls. -/
theorem snapshot_round_trip_tangle :
    (new 1 .standard).Vacant ∧ (mutualPair .standard).Built ∧ tangle.InRange ∧
      (∃ h, (new 1 .standard).includeSnapshot (mutualPair .standard).toSnapshot =
          (h, .ok [0, 1]) ∧ (mutualPair .standard).Reproduced h) ∧
        ∃ h, (new 1 .standard).includeSnapshot tangle = (h, .ok [0, 1, 2]) ∧
          h.toSnapshot = ⟨tangle.symbols, [(0, 2), (0, 1), (1, 1), (2, 1), (2, 0)]⟩ := by
  have hbuilt : (mutualPair .standard).Built := (finalised_mutualPair .standard).built
  have hrange : tangle.InRange := by
    unfold GraphSnapshot.InRange
    decide
  have hsorted : (tangle.calls.eraseDups.mergeSort fun c d => c.1 ≤ d.1) =
      [(0, 2), (0, 1), (1, 1), (2, 1), (2, 0)] := by
    have hkeys : ∀ c ∈ tangle.calls.eraseDups, c.1 < 3 := by decide
    rw [Grouping.mergeSort_eq_flatMap Prod.fst hkeys]
    rfl
  have hnew := vacant_new 1 .standard
  have htangle := (snapshot_round_trip hnew).2 tangle hrange
  rw [hsorted] at htangle
  exact ⟨hnew, hbuilt, hrange, (snapshot_round_trip hnew).1 (mutualPair .standard) hbuilt, htangle⟩

end CallGraph

end CallAtlas
