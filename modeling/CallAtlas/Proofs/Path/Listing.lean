/-
# `CallAtlas.Proofs.Path.Listing` — the search as a recursive listing

`Search.listing` says what a search finds without a stack: the paths that go on
from a trail are the trail itself, if it is kept, and then what goes on from it
through each callee of its last symbol that it has not visited.  A trail has
its current symbol first, as in a `Place`.

At any place of a search the trails that its frames still offer make up what is
`pending`.  A round of the search takes the first part of it into `found` and
leaves the rest pending (`extend_pending_step`), and so a search finds the
listing, in its order (`pathsFrom_eq_ofList`).
-/
import CallAtlas.Path.PathSet
import CallAtlas.Proofs.OrderedSet

namespace CallAtlas

namespace Search

/-- Whether a symbol is not on the trail. -/
def fresh (trail : List Symbol) (b : Symbol) : Bool := !(trail.map Symbol.id).contains b.id

theorem fresh_iff {trail : List Symbol} {b : Symbol} :
    fresh trail b = true ↔ b.id ∉ trail.map Symbol.id := by
  simp [fresh]

/-- The identities of the graph that are not on the trail. -/
def unvisited (g : CallGraph) (trail : List Symbol) : List Nat :=
  (List.range g.symbolCount).filter fun id => !(trail.map Symbol.id).contains id

/-- Entering a symbol of the graph leaves less to be visited. -/
theorem length_unvisited_lt {g : CallGraph} {trail : List Symbol} {b : Symbol}
    (hb : b.id < g.symbolCount) (hnew : fresh trail b = true) :
    (unvisited g (b :: trail)).length < (unvisited g trail).length := by
  have hfilter : unvisited g (b :: trail) = (unvisited g trail).filter (· ≠ b.id) := by
    unfold unvisited
    rw [List.filter_filter]
    refine List.filter_congr fun id _ => ?_
    by_cases h : id = b.id <;> simp [h]
  have hmem : b.id ∈ unvisited g trail := by
    rw [unvisited, List.mem_filter]
    exact ⟨List.mem_range.2 hb, hnew⟩
  rw [hfilter]
  exact List.length_filter_lt_length_iff_exists.2 ⟨b.id, hmem, by simp⟩

/-- The trail as a path, if it is one that the search keeps. -/
def kept (search : Search) (trail : List Symbol) : List CallPath :=
  if search.admits trail.length && trail.head?.any search.targets.contains then [⟨trail.reverse⟩]
  else []

theorem record_eq_extend (search : Search) (trail : List Symbol) (found : Paths) :
    search.record trail found = found.extend (search.kept trail) := by
  unfold record kept
  split
  · rfl
  · rfl

/-- The paths that go on from a trail, the shorter before the longer and the earlier callee
before the later. -/
def listing (search : Search) : List Symbol → List CallPath
  | [] => []
  | a :: trail =>
      search.kept (a :: trail) ++
        if search.mayGrow (a :: trail).length then
          ((search.graph.calleesOf a).filter (fresh (a :: trail))).attach.flatMap fun ⟨b, _⟩ =>
            search.listing (b :: a :: trail)
        else []
termination_by trail => (unvisited search.graph trail).length
decreasing_by
  rename_i hb
  rw [List.mem_filter] at hb
  exact length_unvisited_lt (CallGraph.id_lt_of_mem_calleesOf hb.1) hb.2

/-- The paths that go on from a trail through some callees of its current symbol. -/
def through (search : Search) (trail callees : List Symbol) : List CallPath :=
  (callees.filter (fresh trail)).flatMap fun b => search.listing (b :: trail)

theorem listing_cons (search : Search) (a : Symbol) (trail : List Symbol) :
    search.listing (a :: trail) =
      search.kept (a :: trail) ++
        if search.mayGrow (a :: trail).length then
          search.through (a :: trail) (search.graph.calleesOf a)
        else [] := by
  have hattach := List.flatMap_subtype
    (l := ((search.graph.calleesOf a).filter (fresh (a :: trail))).attach)
    (f := fun b => search.listing (b.1 :: a :: trail)) (g := fun b => search.listing (b :: a :: trail))
    fun _ _ => rfl
  rw [List.unattach_attach] at hattach
  unfold listing through
  exact congrArg (search.kept (a :: trail) ++ ·) (ite_congr rfl (fun _ => hattach) fun _ => rfl)

theorem through_cons_of_fresh (search : Search) {trail callees : List Symbol} {b : Symbol}
    (h : fresh trail b = true) :
    search.through trail (b :: callees) = search.listing (b :: trail) ++ search.through trail callees := by
  simp [through, h]

theorem through_cons_of_not_fresh (search : Search) {trail callees : List Symbol} {b : Symbol}
    (h : ¬ fresh trail b = true) : search.through trail (b :: callees) = search.through trail callees := by
  simp [through, h]

/-- What the frames of a place still offer: first what goes on from the whole trail, then
what goes on from the trail without its current symbol, and so on. -/
def pending (search : Search) : List Symbol → List (List Symbol) → List CallPath
  | a :: trail, callees :: frames => search.through (a :: trail) callees ++ search.pending trail frames
  | _, _ => []

/-! ## The stack machine lists the listing -/

/-- A round takes the first part of what is pending into what is found. -/
theorem extend_pending_step (search : Search) {p : Place} (h : p.Sound search.graph) :
    (search.step p).found.extend (search.pending (search.step p).trail (search.step p).frames) =
      p.found.extend (search.pending p.trail p.frames) := by
  obtain ⟨trail, onTrail, frames, found⟩ := p
  obtain ⟨-, hon, hframes, -, -⟩ := h
  simp only at hon hframes
  match frames, trail with
  | [], _ => rfl
  | [] :: frames, [] => simp at hframes
  | _ :: _, [] => simp at hframes
  | [] :: frames, a :: trail => simp [step, pending, through]
  | (b :: callees) :: frames, a :: trail =>
    have hfresh : fresh (a :: trail) b = true ↔ ¬ onTrail.contains b.id = true := by
      rw [fresh_iff, ← hon, Std.TreeSet.mem_iff_contains]
    simp only [step]
    split
    · -- a symbol on the path is skipped
      rename_i hseen
      simp only [pending]
      rw [through_cons_of_not_fresh search (by rw [hfresh]; exact not_not_intro hseen)]
    · rename_i hnew
      simp only [pending]
      rw [through_cons_of_fresh search (hfresh.2 hnew), listing_cons, record_eq_extend]
      split
      · simp only [pending, List.append_assoc, OrderedSet.extend_append]
      · simp only [List.append_nil, List.append_assoc, OrderedSet.extend_append, pending]

theorem run_eq_extend (search : Search) (p : Place) (h : p.Sound search.graph) :
    search.run p h = p.found.extend (search.pending p.trail p.frames) := by
  fun_induction Search.run search p h with
  | case1 p h hover =>
    rw [hover]
    cases p.trail <;> rfl
  | case2 p h hgoing ih => rw [ih, search.extend_pending_step h]

theorem searchFrom_eq_extend (search : Search) (found : Paths) (a : Symbol) :
    search.searchFrom found a = found.extend (search.listing [a]) := by
  unfold searchFrom
  rw [listing_cons]
  split
  · rename_i hgrow
    rw [run_eq_extend, List.length_singleton, if_pos hgrow, OrderedSet.extend_append, ← record_eq_extend]
    simp [start, pending]
  · rename_i hstop
    rw [record_eq_extend, List.length_singleton, if_neg hstop, List.append_nil]

/-- A search finds the listings of its starts, one after the other. -/
theorem pathsFrom_eq_ofList (search : Search) (starts : List Symbol) :
    search.pathsFrom starts = OrderedSet.ofList (starts.flatMap fun a => search.listing [a]) := by
  have hfold : ∀ found : Paths, starts.foldl search.searchFrom found =
      found.extend (starts.flatMap fun a => search.listing [a]) := by
    induction starts with
    | nil =>
      intro found
      rfl
    | cons a starts ih =>
      intro found
      rw [List.foldl_cons, ih, searchFrom_eq_extend, List.flatMap_cons, OrderedSet.extend_append]
  exact hfold OrderedSet.empty

end Search

end CallAtlas
