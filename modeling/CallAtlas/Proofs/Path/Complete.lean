/-
# `CallAtlas.Proofs.Path.Complete` — what a path search answers

The sets that a path search starts from and leads to are drawn from a graph, so
they are within it, and its answer is the set of the simple call paths between
them (`SymbolSet.mem_paths`).  The search is not over at a target: what is found
there is the beginning of what is found behind it.
-/
import CallAtlas.Proofs.Graph.Building
import CallAtlas.Proofs.SymbolSet.Drawn

namespace CallAtlas

/-- The one symbol of the graph is a simple path. -/
theorem CallPath.simple_singleton {g : CallGraph} {a : Symbol} (ha : g.Has a) :
    CallPath.Simple g ⟨[a]⟩ where
  nonempty := List.cons_ne_nil a []
  inGraph _ hb := (List.mem_singleton.1 hb) ▸ ha
  linked := .singleton a
  nodup := List.nodup_singleton a.id

namespace SymbolSet

variable {g : CallGraph} {s t : SymbolSet}

/-- A symbol of both sets is a path between them. -/
theorem singleton_mem_paths (hs : s.Within g) (ht : t.Within g) {a : Symbol} (has : a ∈ s.toList)
    (hat : a ∈ t.toList) (hallows : g.config.Allows 1) : ⟨[a]⟩ ∈ (s.paths t).toList :=
  (mem_paths hs ht).2
    ⟨CallPath.simple_singleton (hs.members a has), ⟨a, has, rfl⟩, ⟨a, hat, rfl⟩, hallows⟩

/-- A path between the sets that goes on to another target is a path between them. -/
theorem append_mem_paths (hs : s.Within g) (ht : t.Within g) {before after : List Symbol}
    {b c : Symbol} (hp : ⟨before ++ [b]⟩ ∈ (s.paths t).toList)
    (hsimple : CallPath.Simple g ⟨before ++ b :: after⟩) (hc : c ∈ t.toList)
    (hlast : (b :: after).getLast? = some c)
    (hallows : g.config.Allows (before ++ b :: after).length) :
    ⟨before ++ b :: after⟩ ∈ (s.paths t).toList := by
  obtain ⟨-, ⟨a, ha, hfirst⟩, -, -⟩ := (mem_paths hs ht).1 hp
  refine (mem_paths hs ht).2 ⟨hsimple, ⟨a, ha, ?_⟩, ⟨c, hc, ?_⟩, hallows⟩
  · cases before with
    | nil => exact hfirst
    | cons d before => exact hfirst
  · show (before ++ b :: after).getLast? = some c
    rw [List.getLast?_append, hlast]
    rfl

/-- Between two sets drawn from a graph a search finds the simple call paths from the one to
the other that are not too long, each once; a symbol of both sets is one of them, and so is a
path that runs through one target to another. -/
theorem paths_exactly_simple (hs : s.DrawnFrom g) (ht : t.DrawnFrom g) :
    (∀ p : CallPath, p ∈ (s.paths t).toList ↔
      p.Simple g ∧ (∃ a ∈ s.toList, p.first? = some a) ∧ (∃ b ∈ t.toList, p.last? = some b) ∧
        ∀ bound, g.config.maxPathLength = some bound → p.length ≤ bound) ∧
    ((s.paths t).toList.map CallPath.ids).Nodup ∧
    (∀ a ∈ s.toList, a ∈ t.toList → g.config.Allows 1 → ⟨[a]⟩ ∈ (s.paths t).toList) ∧
    ∀ (before after : List Symbol) (b c : Symbol),
      ⟨before ++ [b]⟩ ∈ (s.paths t).toList → CallPath.Simple g ⟨before ++ b :: after⟩ →
        c ∈ t.toList → (b :: after).getLast? = some c →
          g.config.Allows (before ++ b :: after).length →
            ⟨before ++ b :: after⟩ ∈ (s.paths t).toList := by
  refine ⟨?_, ?_, ?_, ?_⟩
  · intro p
    exact mem_paths hs.within ht.within
  · exact (s.paths t).paths.nodup_toList
  · intro a has hat hallows
    exact singleton_mem_paths hs.within ht.within has hat hallows
  · intro before after b c hp hsimple hc hlast hallows
    exact append_mem_paths hs.within ht.within hp hsimple hc hlast hallows

/-- Where two functions call each other, there is a path from the first to the second. -/
theorem paths_exactly_simple_mutualPair :
    (whole (.mutualPair .standard)).DrawnFrom (.mutualPair .standard) ∧
      ⟨[CallGraph.ping, CallGraph.pong]⟩ ∈
        ((whole (.mutualPair .standard)).paths (whole (.mutualPair .standard))).toList := by
  have hsimple : CallPath.Simple (.mutualPair .standard) ⟨[CallGraph.ping, CallGraph.pong]⟩ :=
    ⟨by decide, by decide +kernel, by decide +kernel, by decide⟩
  have hping : CallGraph.ping ∈ (whole (.mutualPair .standard)).toList := by decide +kernel
  have hpong : CallGraph.pong ∈ (whole (.mutualPair .standard)).toList := by decide +kernel
  exact ⟨.whole, ((paths_exactly_simple .whole .whole).1 _).2
    ⟨hsimple, ⟨_, hping, rfl⟩, ⟨_, hpong, rfl⟩, fun _ hbound => nomatch hbound⟩⟩

end SymbolSet

end CallAtlas
