/-
# `CallAtlas.Path.Search` — all simple paths between two sets of symbols

The search goes depth first and keeps its place on a stack of its own: the
path to the current symbol, the identities on it, and for each symbol of the
path the callees that are still to be tried.  A symbol that is on the path
already is not entered again, so every path found is simple and the search
ends on cycles as well.

`Search.step` is one round.  `Place.Sound` is what every round keeps, and with
it `Place.weight`, the callees still to be tried, counted the heavier the
nearer to the start they are, goes down with every round: a path visits each
symbol of the graph at most once, so it has at most one symbol more than the
graph.
-/
import CallAtlas.Graph.Lemmas
import CallAtlas.Path.Basic
import CallAtlas.SymbolSet.Basic

namespace CallAtlas

/-- What is searched, and for what. -/
structure Search where
  graph : CallGraph
  targets : Members
  /-- the greatest number of symbols of a path, if there is one -/
  limit : Option Nat

/-- Where a search stands. -/
structure Place where
  /-- the path to the current symbol, the current symbol first -/
  trail : List Symbol
  /-- the identities on the path -/
  onTrail : Std.TreeSet Nat
  /-- for each symbol of the path the callees still to be tried, the current symbol's first -/
  frames : List (List Symbol)
  found : Paths

namespace Search

/-- Whether a path may be kept, by its length. -/
def admits (search : Search) (length : Nat) : Bool :=
  match search.limit with
  | some limit => length ≤ limit
  | none => true

/-- Whether a path may become longer, by its length. -/
def mayGrow (search : Search) (length : Nat) : Bool :=
  match search.limit with
  | some limit => length < limit
  | none => true

/-- Keeps the path if its last symbol is a target. -/
def record (search : Search) (trail : List Symbol) (found : Paths) : Paths :=
  if search.admits trail.length && trail.head?.any search.targets.contains then
    found.insert ⟨trail.reverse⟩
  else found

/-- One round: the next callee of the current symbol is skipped if it is on the path, and
else recorded, and entered if the path may become longer.  With no callee left the current
symbol is left. -/
def step (search : Search) (p : Place) : Place :=
  match p.frames with
  | [] => p
  | [] :: frames =>
      match p.trail with
      | [] => { p with frames := frames }
      | done :: trail =>
          { p with trail := trail, onTrail := p.onTrail.erase done.id, frames := frames }
  | (next :: callees) :: frames =>
      if p.onTrail.contains next.id then { p with frames := callees :: frames }
      else
        let trail := next :: p.trail
        let found := search.record trail p.found
        if search.mayGrow trail.length then
          { trail := trail
            onTrail := p.onTrail.insert next.id
            frames := search.graph.calleesOf next :: callees :: frames
            found := found }
        else { p with frames := callees :: frames, found := found }

/-- Where a search from a symbol begins, once the symbol itself has been recorded. -/
def start (search : Search) (s : Symbol) (found : Paths) : Place :=
  { trail := [s]
    onTrail := (∅ : Std.TreeSet Nat).insert s.id
    frames := [search.graph.calleesOf s]
    found := search.record [s] found }

end Search

namespace Place

/-- What every round of a search in a graph keeps. -/
structure Sound (g : CallGraph) (p : Place) : Prop where
  /-- no symbol is twice on the path -/
  nodup : (p.trail.map Symbol.id).Nodup
  /-- the identities noted are those of the path -/
  onTrail : ∀ id, id ∈ p.onTrail ↔ id ∈ p.trail.map Symbol.id
  /-- each symbol of the path has its callees still to be tried -/
  frames : p.frames.length = p.trail.length
  /-- the path goes through the graph, its start perhaps excepted -/
  inGraph : ∀ s ∈ p.trail.dropLast, s.id < g.symbolCount
  /-- the callees still to be tried are symbols of the graph -/
  callees : ∀ f ∈ p.frames, ∀ s ∈ f, s.id < g.symbolCount

/-- The callees still to be tried, each counted with a power that is the higher the nearer
to the start it is. -/
def weight (g : CallGraph) : List (List Symbol) → Nat
  | [] => 0
  | f :: fs =>
      (f.length + 1) * Nat.pow (g.symbolCount + 2) (g.symbolCount - fs.length) + weight g fs

/-- A path has at most one symbol more than the graph. -/
theorem Sound.length_trail_le {g : CallGraph} {p : Place} (h : p.Sound g) :
    p.trail.length ≤ g.symbolCount + 1 := by
  have hsub : (p.trail.dropLast.map Symbol.id).Nodup :=
    h.nodup.sublist ((List.dropLast_sublist p.trail).map Symbol.id)
  have := length_le_of_nodup_of_lt (n := g.symbolCount) hsub (by
    intro x hx
    obtain ⟨s, hs, rfl⟩ := List.mem_map.1 hx
    exact h.inGraph s hs)
  simp only [List.length_map, List.length_dropLast] at this
  omega

end Place

namespace Search

open Place

theorem start_sound (search : Search) (s : Symbol) (found : Paths) :
    (search.start s found).Sound search.graph where
  nodup := by simp [start]
  onTrail := by
    intro id
    simp only [start, Std.TreeSet.mem_insert, Std.LawfulEqOrd.compare_eq_iff_eq]
    simp [eq_comm]
  frames := by simp [start]
  inGraph := by simp [start]
  callees := by
    intro f hf t ht
    simp only [start, List.mem_singleton] at hf
    subst hf
    exact CallGraph.id_lt_of_mem_calleesOf ht

theorem step_sound (search : Search) {p : Place} (h : p.Sound search.graph) :
    (search.step p).Sound search.graph := by
  obtain ⟨trail, onTrail, frames, found⟩ := p
  obtain ⟨hnodup, hon, hframes, hin, hcallees⟩ := h
  simp only at hnodup hon hframes hin hcallees
  match frames with
  | [] => exact ⟨hnodup, hon, hframes, hin, hcallees⟩
  | [] :: frames =>
    match trail with
    | [] => simp at hframes
    | done :: trail =>
      refine ⟨?_, ?_, ?_, ?_, ?_⟩
      · exact (List.nodup_cons.1 hnodup).2
      · intro id
        simp only [step, Std.TreeSet.mem_erase, hon, List.map_cons, List.mem_cons]
        have hnot := (List.nodup_cons.1 hnodup).1
        constructor
        · rintro ⟨hne, rfl | hmem⟩
          · simp at hne
          · exact hmem
        · intro hmem
          refine ⟨?_, Or.inr hmem⟩
          intro heq
          rw [Std.LawfulEqOrd.compare_eq_iff_eq] at heq
          subst heq
          exact hnot hmem
      · simpa [step] using hframes
      · intro s hs
        simp only [step] at hs
        apply hin s
        cases trail with
        | nil => simp at hs
        | cons t trail => exact List.mem_cons_of_mem done hs
      · intro f hf
        exact hcallees f (List.mem_cons_of_mem [] hf)
  | (next :: rest) :: frames =>
    have hnext : next.id < search.graph.symbolCount :=
      hcallees (next :: rest) (by simp) next (by simp)
    have hrest : ∀ f ∈ rest :: frames, ∀ s ∈ f, s.id < search.graph.symbolCount := by
      intro f hf s hs
      rcases List.mem_cons.1 hf with rfl | hf
      · exact hcallees (next :: f) (by simp) s (List.mem_cons_of_mem next hs)
      · exact hcallees f (List.mem_cons_of_mem _ hf) s hs
    simp only [step]
    split
    · exact ⟨hnodup, hon, by simpa using hframes, hin, hrest⟩
    · rename_i hnew
      have hnot : next.id ∉ trail.map Symbol.id := by
        intro hmem
        exact hnew (Std.TreeSet.mem_iff_contains.1 ((hon next.id).2 hmem))
      split
      · refine ⟨?_, ?_, ?_, ?_, ?_⟩
        · exact List.nodup_cons.2 ⟨hnot, hnodup⟩
        · intro id
          simp only [Std.TreeSet.mem_insert, Std.LawfulEqOrd.compare_eq_iff_eq, hon,
            List.map_cons, List.mem_cons]
          constructor
          · rintro (rfl | hmem)
            · exact Or.inl rfl
            · exact Or.inr hmem
          · rintro (rfl | hmem)
            · exact Or.inl rfl
            · exact Or.inr hmem
        · simpa using hframes
        · intro s hs
          cases trail with
          | nil => simp at hs
          | cons t trail =>
            rcases List.mem_cons.1 hs with rfl | hs
            · exact hnext
            · exact hin s hs
        · intro f hf s hs
          rcases List.mem_cons.1 hf with rfl | hf
          · exact CallGraph.id_lt_of_mem_calleesOf hs
          · exact hrest f hf s hs
      · exact ⟨hnodup, hon, by simpa using hframes, hin, hrest⟩

/-- Every round of a search that is not over makes the weight smaller. -/
theorem weight_step_lt (search : Search) {p : Place} (h : p.Sound search.graph)
    (hf : p.frames ≠ []) :
    weight search.graph (search.step p).frames < weight search.graph p.frames := by
  have hlen := h.length_trail_le
  have hnext := (search.step_sound h).length_trail_le
  have hnextFrames := (search.step_sound h).frames
  obtain ⟨trail, onTrail, frames, found⟩ := p
  obtain ⟨hnodup, hon, hframes, hin, hcallees⟩ := h
  simp only at hnodup hon hframes hin hcallees hf hlen
  have hpos : ∀ k, 0 < Nat.pow (search.graph.symbolCount + 2) k :=
    fun k => Nat.pow_pos (by omega)
  have hsucc : ∀ k, Nat.pow (search.graph.symbolCount + 2) (k + 1) =
      Nat.pow (search.graph.symbolCount + 2) k * (search.graph.symbolCount + 2) := fun _ => rfl
  match frames with
  | [] => exact absurd rfl hf
  | [] :: frames =>
    match trail with
    | [] => simp at hframes
    | done :: trail =>
      simp only [step, weight, List.length_nil]
      have := hpos (search.graph.symbolCount - frames.length)
      omega
  | (next :: rest) :: frames =>
    have hless : weight search.graph (rest :: frames) <
        weight search.graph ((next :: rest) :: frames) := by
      simp only [weight, List.length_cons]
      have := hpos (search.graph.symbolCount - frames.length)
      rw [Nat.add_mul (rest.length + 1) 1]
      omega
    revert hnext hnextFrames
    simp only [step]
    split
    · intro _ _
      exact hless
    · split
      · intro hnext hnextFrames
        simp only [List.length_cons] at hnext hnextFrames
        have hcalls := CallGraph.length_calleesOf_le search.graph next
        have hexp : search.graph.symbolCount - frames.length =
            search.graph.symbolCount - (frames.length + 1) + 1 := by omega
        simp only [weight, List.length_cons]
        rw [hexp, hsucc]
        have := hpos (search.graph.symbolCount - (frames.length + 1))
        generalize Nat.pow (search.graph.symbolCount + 2)
          (search.graph.symbolCount - (frames.length + 1)) = w at this ⊢
        have h1 : ((search.graph.calleesOf next).length + 1) * w ≤
            (search.graph.symbolCount + 1) * w := Nat.mul_le_mul_right w (by omega)
        have h2 : (search.graph.symbolCount + 1) * w < w * (search.graph.symbolCount + 2) := by
          rw [Nat.mul_comm w]
          exact Nat.mul_lt_mul_of_pos_right (by omega) this
        have h3 : (rest.length + 1 + 1) * (w * (search.graph.symbolCount + 2)) =
            (rest.length + 1) * (w * (search.graph.symbolCount + 2)) +
              w * (search.graph.symbolCount + 2) := by
          rw [Nat.add_mul (rest.length + 1) 1, Nat.one_mul]
        omega
      · intro _ _
        exact hless

/-- Goes on until no callee is left to be tried. -/
def run (search : Search) (p : Place) (h : p.Sound search.graph) : Paths :=
  if _hf : p.frames = [] then p.found
  else search.run (search.step p) (search.step_sound h)
termination_by weight search.graph p.frames
decreasing_by exact search.weight_step_lt h _hf

/-- Adds the paths from one symbol to those found before. -/
def searchFrom (search : Search) (found : Paths) (s : Symbol) : Paths :=
  if search.mayGrow 1 then search.run (search.start s found) (search.start_sound s found)
  else search.record [s] found

/-- The paths from some symbols, in the order in which they are found. -/
def pathsFrom (search : Search) (starts : List Symbol) : Paths :=
  starts.foldl search.searchFrom .empty

end Search

end CallAtlas
