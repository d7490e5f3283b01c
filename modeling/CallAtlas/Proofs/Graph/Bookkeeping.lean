/-
# `CallAtlas.Proofs.Graph.Bookkeeping` — a graph agrees with itself and with its history

A graph keeps the same facts in several places: the symbols as a list, the calls
as rows of callees, their number as a counter, and, once computed, the calls
again as rows of callers.  Steps change some of these places and drop others,
and a step that fails changes them halfway.  `Balanced` says that the places
agree nevertheless, and that the symbols are those that the steps added, in
their order.

Agreement of the rows is `Coherent`, which every change keeps.  What is added
here is the history of the symbols, which no single change sees, and the
counter.  The counter goes with the lengths of the rows: only a new call changes
one, by one (`length_flatMap_modify`).
-/
import CallAtlas.Proofs.Graph.Failure

namespace CallAtlas

/-! ## The history of the symbols -/

/-- The declarations that a text adds to a graph: those of its snapshot, if it is one. -/
def GraphSnapshot.declsOf (text : String) : List SymbolDecl :=
  match ofText text with
  | .ok s => s.symbols
  | .error _ => []

/-- The declarations that a step adds to a graph, whether the step succeeds or fails. -/
def GraphStep.added : GraphStep → List SymbolDecl
  | .addSymbol d => [d]
  | .includeSnapshot s => s.symbols
  | .includeText text => GraphSnapshot.declsOf text
  | .includeFile folder name =>
      match folder.read name with
      | .ok text => GraphSnapshot.declsOf text
      | .error _ => []
  | .addCall _ _ | .addCalls _ | .computeCallers | .queryCallers _ => []

namespace CallGraph

variable {g : CallGraph}

theorem decls_addCalls (g : CallGraph) (pairs : List (Nat × Nat)) :
    (g.addCalls pairs).1.decls = g.decls := by
  rcases g.addCalls_outcome pairs with hall | ⟨before, _, _, _, -, -, -, hleft⟩
  · rw [hall]
    exact g.decls_enterCalls pairs
  · rw [hleft]
    exact g.decls_enterCalls before

theorem decls_includeText (g : CallGraph) (text : String) :
    (g.includeText text).1.decls.toList = g.decls.toList ++ GraphSnapshot.declsOf text := by
  unfold includeText GraphSnapshot.declsOf
  cases GraphSnapshot.ofText text with
  | ok s => exact g.decls_includeSnapshot s
  | error e => exact (List.append_nil _).symm

theorem decls_noteCallerQuery (g : CallGraph) (a : Symbol) :
    (g.noteCallerQuery a).1.decls = g.decls := by
  unfold noteCallerQuery
  split <;> rfl

/-- A step adds its declarations at the end. -/
theorem decls_after (g : CallGraph) (step : GraphStep) :
    (step.after g).decls.toList = g.decls.toList ++ step.added := by
  have hnone : ∀ {h : CallGraph}, h.decls = g.decls → h.decls.toList = g.decls.toList ++ [] := by
    intro h heq
    rw [heq, List.append_nil]
  cases step with
  | addSymbol d => exact Array.toList_push
  | addCall caller callee => exact hnone (g.decls_addCall caller callee)
  | addCalls pairs => exact hnone (g.decls_addCalls pairs)
  | includeSnapshot s => exact g.decls_includeSnapshot s
  | includeText text => exact g.decls_includeText text
  | includeFile folder name =>
    simp only [GraphStep.after, GraphStep.added, includeFile]
    cases folder.read name with
    | ok text => exact g.decls_includeText text
    | error e => exact hnone rfl
  | computeCallers => exact hnone rfl
  | queryCallers a => exact hnone (g.decls_noteCallerQuery a)

theorem decls_run (g : CallGraph) (steps : List GraphStep) :
    (g.run steps).decls.toList = g.decls.toList ++ steps.flatMap GraphStep.added := by
  induction steps generalizing g with
  | nil => exact (List.append_nil _).symm
  | cons step steps ih =>
    refine (ih (step.after g)).trans ?_
    rw [decls_after, List.append_assoc, List.flatMap_cons]

/-! ## The number of calls -/

/-- The callees of all symbols, row after row. -/
def allCallees (g : CallGraph) : List Nat := g.callees.toList.flatMap OrderedSet.toList

/-- Of some rows one gets longer by one, and so do all together. -/
theorem length_flatMap_modify {rows : List IdSet} {i : Nat} {f : IdSet → IdSet}
    (hi : i < rows.length) (hf : (f rows[i]).toList.length = rows[i].toList.length + 1) :
    ((rows.modify i f).flatMap OrderedSet.toList).length =
      (rows.flatMap OrderedSet.toList).length + 1 := by
  induction rows generalizing i with
  | nil => exact absurd hi (Nat.not_lt_zero i)
  | cons row rows ih =>
    cases i with
    | zero =>
      have hhead : (f row).toList.length = row.toList.length + 1 := hf
      simp only [List.modify_zero_cons, List.flatMap_cons, List.length_append, hhead]
      omega
    | succ i =>
      have htail := ih (Nat.lt_of_succ_lt_succ hi) hf
      simp only [List.modify_succ_cons, List.flatMap_cons, List.length_append, htail]
      omega

theorem length_insert_of_not_hasKey {row : IdSet} {a : Nat} (h : row.hasKey a = false) :
    (row.insert a).toList.length = row.toList.length + 1 := by
  have hnew : row.contains a = false := h
  rw [OrderedSet.toList_insert, hnew]
  exact List.length_append

theorem flatMap_range_getElem? (rows : List IdSet) :
    ((List.range rows.length).flatMap fun i => rows[i]?.elim [] OrderedSet.toList) =
      rows.flatMap OrderedSet.toList := by
  induction rows with
  | nil => rfl
  | cons row rows ih =>
    rw [List.length_cons, List.range_succ_eq_map, List.flatMap_cons, List.flatMap_cons,
      List.flatMap_map, ← ih]
    rfl

/-- The listed calls are those of the rows. -/
theorem map_snd_calls (g : CallGraph) : g.calls.map Prod.snd = g.allCallees := by
  unfold calls allCallees
  rw [List.map_flatMap, ← flatMap_range_getElem?, Array.length_toList]
  congr 1
  funext i
  rw [Array.getElem?_toList]
  cases g.callees[i]? with
  | none => rfl
  | some row => exact List.map_map.trans (List.map_id row.toList)

/-- The counter shows how many callees the rows have. -/
def Counted (g : CallGraph) : Prop := g.callCount = g.allCallees.length

theorem Counted.addSymbol (h : g.Counted) (d : SymbolDecl) : (g.addSymbol d).1.Counted := by
  have hrow : (g.addSymbol d).1.callees.toList = g.callees.toList ++ [.empty] := Array.toList_push
  unfold Counted allCallees at h ⊢
  rw [hrow, List.flatMap_append, List.length_append, ← h]
  rfl

theorem Counted.addCall (h : g.Counted) (caller callee : Nat) :
    (g.addCall caller callee).1.Counted := by
  rcases g.addCall_outcome caller callee with
    ⟨-, heq⟩ | ⟨-, -, heq⟩ | ⟨-, -, -, heq⟩ | ⟨-, hcaller, hnew, heq⟩
  · exact heq ▸ h
  · exact heq ▸ h
  · exact heq ▸ h
  · rw [heq]
    unfold Counted allCallees at h ⊢
    unfold hasCall at hnew
    rw [Array.getElem?_eq_getElem hcaller] at hnew
    rw [Array.toList_modify, length_flatMap_modify hcaller (length_insert_of_not_hasKey hnew), ← h]

theorem kept_counted : Kept Counted where
  addSymbol _ d h := h.addSymbol d
  addCall _ caller callee h := h.addCall caller callee
  computeCallers _ h := h
  noteCallerQuery g a h := by
    unfold CallGraph.noteCallerQuery
    split <;> exact h

/-! ## The balance -/

/-- There is a row for each symbol of the graph; it has no duplicates, and mentions symbols of
the graph only. -/
structure RowsFit (g : CallGraph) (rows : Array IdSet) : Prop where
  size : rows.size = g.symbolCount
  nodup : ∀ i, (idsAt rows i).Nodup
  known : ∀ i, ∀ j ∈ idsAt rows i, j < g.symbolCount

/-- The callers of a graph are its calls read backwards, row by row and symbol by symbol. -/
structure Transposed (g : CallGraph) (rows : Array IdSet) : Prop where
  fit : g.RowsFit rows
  ids : ∀ i j, i ∈ idsAt rows j ↔ j ∈ idsAt g.callees i
  symbols : ∀ a b, g.Has a → g.Has b →
    (a ∈ g.callersOf b ↔ b ∈ g.calleesOf a) ∧ (b ∈ g.calleesOf a ↔ g.hasCall a.id b.id = true)

/-- The places of a graph agree with each other, and its symbols are the given ones. -/
structure Balanced (added : List SymbolDecl) (g : CallGraph) : Prop where
  /-- the symbol of an identity is the one that was added at that place -/
  symbols : ∀ i, g.symbol? i = added[i]?.map fun d => { toSymbolDecl := d, id := i }
  /-- the next symbol gets the next identity -/
  next : ∀ d, (g.addSymbol d).2 = added.length
  callees : g.RowsFit g.callees
  callCount : g.callCount = g.allCallees.length
  calls : g.callCount = g.calls.length
  callers : g.callersComputed = true → ∃ rows, g.callers = some rows ∧ g.Transposed rows
  /-- when callers are computed, each call is entered in a row that is there -/
  entered : ∀ before call after, g.calls = before ++ call :: after →
    call.1 < g.symbolCount ∧
      call.2 < (before.foldl enterCaller (Array.replicate g.symbolCount .empty)).size

theorem nodup_idsAt (rows : Array IdSet) (i : Nat) : (idsAt rows i).Nodup := by
  unfold idsAt
  cases rows[i]? with
  | none => exact List.nodup_nil
  | some row =>
    have h := row.nodup_toList
    rw [List.map_id'] at h
    exact h

theorem lt_size_of_mem_idsAt {rows : Array IdSet} {i j : Nat} (h : j ∈ idsAt rows i) :
    i < rows.size := by
  by_contra hge
  unfold idsAt at h
  rw [Array.getElem?_eq_none (Nat.not_lt.1 hge)] at h
  exact List.not_mem_nil h

theorem Coherent.rowsFit_callees (h : g.Coherent) : g.RowsFit g.callees where
  size := h.rows
  nodup := nodup_idsAt g.callees
  known := h.known

theorem Coherent.transposed_callers (h : g.Coherent) {rows : Array IdSet}
    (hrows : g.callers = some rows) : g.Transposed rows := by
  have hids := h.transposed rows hrows
  refine ⟨⟨h.callerRows rows hrows, nodup_idsAt rows, ?_⟩, hids, ?_⟩
  · intro j i hi
    exact h.rows ▸ lt_size_of_mem_idsAt ((hids i j).1 hi)
  · intro a b ha hb
    have hcallees : b ∈ g.calleesOf a ↔ g.hasCall a.id b.id = true :=
      mem_calleesOf.trans (and_iff_right hb)
    refine ⟨?_, hcallees⟩
    unfold callersOf
    rw [hrows, mem_listed, hids, hcallees, hasCall_iff]
    exact and_iff_right ha

/-- Each call is entered in a row of the callers that is there. -/
theorem Coherent.lt_of_calls (h : g.Coherent) {before after : List (Nat × Nat)} {call : Nat × Nat}
    (hcalls : g.calls = before ++ call :: after) :
    call.1 < g.symbolCount ∧
      call.2 < (before.foldl enterCaller (Array.replicate g.symbolCount .empty)).size := by
  have hmem : (call.1, call.2) ∈ g.calls := by
    rw [hcalls]
    exact List.mem_append_right before List.mem_cons_self
  rw [mem_calls] at hmem
  rw [size_foldl_enterCaller, Array.size_replicate]
  exact ⟨h.rows ▸ lt_size_of_mem_idsAt hmem, h.known _ _ hmem⟩

/-- Whatever steps lead to a graph, failing ones among them, the graph agrees with itself and
with the symbols that the steps added. -/
theorem balanced_run (number : Nat) (config : QueryConfig) (steps : List GraphStep) :
    Balanced (steps.flatMap GraphStep.added) ((new number config).run steps) := by
  have hcoherent := kept_coherent.after_run steps (coherent_new number config)
  have hcounted : ((new number config).run steps).Counted := kept_counted.after_run steps rfl
  have hdecls : ((new number config).run steps).decls.toList = steps.flatMap GraphStep.added :=
    (decls_run (new number config) steps).trans (List.nil_append _)
  refine ⟨?_, ?_, hcoherent.rowsFit_callees, hcounted, ?_, ?_, fun _ _ _ => hcoherent.lt_of_calls⟩
  · intro i
    unfold symbol?
    rw [← hdecls, Array.getElem?_toList]
  · intro d
    rw [← hdecls, Array.length_toList]
    rfl
  · rw [← List.length_map Prod.snd, map_snd_calls]
    exact hcounted
  · intro hcomputed
    obtain ⟨rows, hrows⟩ := Option.isSome_iff_exists.1 hcomputed
    exact ⟨rows, hrows, hcoherent.transposed_callers hrows⟩

end CallGraph

end CallAtlas
