/-
# `CallAtlas.Proofs.Graph.Inclusion` — what taking in a snapshot comes to

A graph takes in a snapshot by adding its symbols behind those it has, so the symbol
at a position of the snapshot gets the number of earlier symbols and the position for
its identity, and a call of the snapshot is a call between positions moved up by that
number (`moved`).  If all positions are in the snapshot nothing is refused
(`addLocalCalls_eq`); a position outside is refused before anything is added for it.

Entering a call appends to one row of callees unless the row has it.  So the rows of
earlier symbols stay as they are, and the row of a new one comes to hold what it
calls in the snapshot, each callee where it is called first.
-/
import CallAtlas.Proofs.Graph.Failure
import CallAtlas.Proofs.Grouping

namespace CallAtlas

/-- The calls of a snapshot are between symbols that it lists. -/
def GraphSnapshot.InRange (s : GraphSnapshot) : Prop :=
  ∀ c ∈ s.calls, c.1 < s.symbols.length ∧ c.2 < s.symbols.length

namespace CallGraph

variable {g : CallGraph}

/-! ## Entering calls -/

theorem size_callees_addCall (g : CallGraph) (caller callee : Nat) :
    (g.addCall caller callee).1.callees.size = g.callees.size := by
  rcases g.addCall_cases caller callee with heq | ⟨-, -, heq⟩
  · rw [heq]
  · rw [heq]
    exact Array.size_modify

theorem symbolCount_addCall (g : CallGraph) (caller callee : Nat) :
    (g.addCall caller callee).1.symbolCount = g.symbolCount :=
  congrArg Array.size (g.decls_addCall caller callee)

theorem size_callees_enterCalls (g : CallGraph) (calls : List (Nat × Nat)) :
    (g.enterCalls calls).callees.size = g.callees.size := by
  induction calls generalizing g with
  | nil => rfl
  | cons call calls ih => exact (ih _).trans (g.size_callees_addCall call.1 call.2)

theorem insert_of_hasKey {row : IdSet} {a : Nat} (h : row.hasKey a = true) : row.insert a = row :=
  dif_pos h

/-- A call between symbols of the graph is added to the row of its caller. -/
theorem getElem?_callees_addCall {caller callee : Nat} (hcallee : callee < g.symbolCount)
    (hcaller : caller < g.callees.size) (i : Nat) :
    (g.addCall caller callee).1.callees[i]? =
      g.callees[i]?.map fun row => if caller = i then row.insert callee else row := by
  rcases g.addCall_outcome caller callee with
    ⟨hno, -⟩ | ⟨-, hno, -⟩ | ⟨-, -, hcall, heq⟩ | ⟨-, -, -, heq⟩
  · exact absurd hcallee hno
  · exact absurd hcaller hno
  · rw [heq]
    unfold hasCall at hcall
    by_cases hi : caller = i
    · subst hi
      rw [Array.getElem?_eq_getElem hcaller] at hcall ⊢
      simp only [if_true, Option.map_some, insert_of_hasKey hcall]
    · simp only [if_neg hi, Option.map_id']
  · rw [heq]
    refine Array.getElem?_modify.trans ?_
    split
    · rfl
    · exact Option.map_id'.symm

theorem addCall_ok {caller callee : Nat} (hcallee : callee < g.symbolCount)
    (hcaller : caller < g.callees.size) : (g.addCall caller callee).2 = .ok () := by
  rcases g.addCall_outcome caller callee with
    ⟨hno, -⟩ | ⟨-, hno, -⟩ | ⟨-, -, -, heq⟩ | ⟨-, -, -, heq⟩
  · exact absurd hcallee hno
  · exact absurd hcaller hno
  · rw [heq]
  · rw [heq]

/-- The callees that some calls give a caller, in the order of the calls. -/
def calleesIn (calls : List (Nat × Nat)) (i : Nat) : List Nat :=
  (calls.filter fun c => c.1 = i).map Prod.snd

section InRange

variable {n : Nat} {calls : List (Nat × Nat)} (hcount : g.symbolCount = n)
  (hrows : g.callees.size = n) (hcalls : ∀ c ∈ calls, c.1 < n ∧ c.2 < n)
include hcount hrows hcalls

/-- Entered calls extend each row by those that its symbol makes. -/
theorem getElem?_callees_enterCalls (i : Nat) :
    (g.enterCalls calls).callees[i]? =
      g.callees[i]?.map fun row => row.extend (calleesIn calls i) := by
  induction calls generalizing g with
  | nil => exact Option.map_id'.symm
  | cons call calls ih =>
    obtain ⟨hcaller, hcallee⟩ := hcalls call List.mem_cons_self
    have hcount' := (g.symbolCount_addCall call.1 call.2).trans hcount
    have hrows' := (g.size_callees_addCall call.1 call.2).trans hrows
    rw [enterCalls_cons, ih hcount' hrows' fun c hc => hcalls c (List.mem_cons_of_mem call hc),
      getElem?_callees_addCall (hcount ▸ hcallee) (hrows ▸ hcaller), Option.map_map]
    congr 1
    funext row
    unfold calleesIn
    by_cases hi : call.1 = i
    · simp [hi]
    · simp [hi]

end InRange

/-- A call between positions that are moved up. -/
def moved (n : Nat) (c : Nat × Nat) : Nat × Nat := (n + c.1, n + c.2)

theorem map_moved_zero (calls : List (Nat × Nat)) : calls.map (moved 0) = calls := by
  refine (List.map_congr_left fun c _ => ?_).trans (List.map_id calls)
  exact Prod.ext (Nat.zero_add c.1) (Nat.zero_add c.2)

theorem calleesIn_map_moved (n : Nat) (calls : List (Nat × Nat)) (i : Nat) :
    calleesIn (calls.map (moved n)) (n + i) = (calleesIn calls i).map (n + ·) := by
  unfold calleesIn
  rw [List.filter_map, List.map_map, List.map_map]
  have hcaller : ((fun c : Nat × Nat => decide (c.1 = n + i)) ∘ moved n) =
      fun c : Nat × Nat => decide (c.1 = i) := by
    funext c
    simp [moved]
  rw [hcaller]
  rfl

theorem calleesIn_map_moved_of_lt {n i : Nat} (hi : i < n) (calls : List (Nat × Nat)) :
    calleesIn (calls.map (moved n)) i = [] := by
  unfold calleesIn
  rw [List.map_eq_nil_iff, List.filter_eq_nil_iff]
  intro c hc
  obtain ⟨d, -, rfl⟩ := List.mem_map.1 hc
  have hcaller : n + d.1 ≠ i := by omega
  exact fun h => hcaller (of_decide_eq_true h)

theorem resolve_range' (n k i : Nat) :
    resolve (List.range' n k) i = if i < k then .ok (n + i) else .error (outside i) := by
  unfold resolve
  split
  · rename_i id hid
    obtain ⟨hi, hget⟩ := List.getElem?_eq_some_iff.1 hid
    rw [List.length_range'] at hi
    rw [List.getElem_range', Nat.one_mul] at hget
    rw [if_pos hi, hget]
  · rename_i hnone
    rw [List.getElem?_eq_none_iff, List.length_range'] at hnone
    rw [if_neg (Nat.not_lt.2 hnone)]

section Local

variable {n k : Nat} (hcount : g.symbolCount = n + k) (hrows : g.callees.size = n + k)
include hcount hrows

/-- A call between positions in the snapshot is added, and the next one comes to a graph of the
same size. -/
theorem addLocalCalls_cons {caller callee : Nat} (hcaller : caller < k) (hcallee : callee < k)
    (calls : List (Nat × Nat)) :
    g.addLocalCalls (List.range' n k) ((caller, callee) :: calls) =
      (g.addCall (n + caller) (n + callee)).1.addLocalCalls (List.range' n k) calls := by
  have hok : (g.addCall (n + caller) (n + callee)).2 = .ok () :=
    addCall_ok (by omega) (by omega)
  rw [addLocalCalls, resolve_range', resolve_range', if_pos hcaller, if_pos hcallee]
  simp only
  cases hresult : g.addCall (n + caller) (n + callee) with
  | mk added result =>
    rw [hresult] at hok
    obtain rfl : result = .ok () := hok
    rfl

/-- Calls between positions in the snapshot are entered between the symbols there. -/
theorem addLocalCalls_eq {calls : List (Nat × Nat)} (hcalls : ∀ c ∈ calls, c.1 < k ∧ c.2 < k) :
    g.addLocalCalls (List.range' n k) calls = (g.enterCalls (calls.map (moved n)), .ok ()) := by
  induction calls generalizing g with
  | nil => rfl
  | cons call calls ih =>
    obtain ⟨caller, callee⟩ := call
    obtain ⟨hcaller, hcallee⟩ := hcalls (caller, callee) List.mem_cons_self
    rw [addLocalCalls_cons hcount hrows hcaller hcallee,
      ih ((g.symbolCount_addCall _ _).trans hcount) ((g.size_callees_addCall _ _).trans hrows)
        fun c hc => hcalls c (List.mem_cons_of_mem _ hc)]
    rfl

/-- A position outside the snapshot is refused. -/
theorem inRange_of_addLocalCalls {calls : List (Nat × Nat)}
    (hok : (g.addLocalCalls (List.range' n k) calls).2 = .ok ()) :
    ∀ c ∈ calls, c.1 < k ∧ c.2 < k := by
  induction calls generalizing g with
  | nil => exact fun c hc => absurd hc List.not_mem_nil
  | cons call calls ih =>
    obtain ⟨caller, callee⟩ := call
    by_cases hcaller : caller < k
    · by_cases hcallee : callee < k
      · rw [addLocalCalls_cons hcount hrows hcaller hcallee] at hok
        intro c hc
        rcases List.mem_cons.1 hc with rfl | hc
        · exact ⟨hcaller, hcallee⟩
        · exact ih ((g.symbolCount_addCall _ _).trans hcount)
            ((g.size_callees_addCall _ _).trans hrows) hok c hc
      · rw [addLocalCalls, resolve_range', resolve_range', if_pos hcaller, if_neg hcallee] at hok
        cases hok
    · rw [addLocalCalls, resolve_range', if_neg hcaller] at hok
      cases hok

end Local

/-! ## Taking in a snapshot -/

theorem callees_addSymbols (g : CallGraph) (ds : List SymbolDecl) :
    (g.addSymbols ds).1.callees.toList = g.callees.toList ++ List.replicate ds.length .empty := by
  induction ds generalizing g with
  | nil => exact (List.append_nil _).symm
  | cons d ds ih =>
    have hone : (g.addSymbol d).1.callees.toList = g.callees.toList ++ [.empty] :=
      Array.toList_push
    refine (ih (g.addSymbol d).1).trans ?_
    rw [hone, List.append_assoc, List.singleton_append]
    rfl

theorem ids_addSymbols (g : CallGraph) (ds : List SymbolDecl) :
    (g.addSymbols ds).2 = List.range' g.symbolCount ds.length := by
  induction ds generalizing g with
  | nil => rfl
  | cons d ds ih =>
    have hcount : (g.addSymbol d).1.symbolCount = g.symbolCount + 1 := Array.size_push d
    have hrest := ih (g.addSymbol d).1
    rw [hcount] at hrest
    exact congrArg (g.symbolCount :: ·) hrest

theorem Built.includeSnapshot (hg : g.Built) (s : GraphSnapshot) :
    (g.includeSnapshot s).1.Built := by
  obtain ⟨number, config, steps, rfl⟩ := hg
  exact ⟨number, config, steps ++ [.includeSnapshot s], run_append _ _ _⟩

theorem symbolCount_addSymbols (g : CallGraph) (ds : List SymbolDecl) :
    (g.addSymbols ds).1.symbolCount = g.symbolCount + ds.length := by
  unfold symbolCount
  rw [← Array.length_toList, decls_addSymbols, List.length_append, Array.length_toList]

theorem symbolCount_includeSnapshot (g : CallGraph) (s : GraphSnapshot) :
    (g.includeSnapshot s).1.symbolCount = g.symbolCount + s.symbols.length := by
  unfold symbolCount
  rw [← Array.length_toList, decls_includeSnapshot, List.length_append, Array.length_toList]

theorem symbol?_eq (g : CallGraph) (id : Nat) :
    g.symbol? id = g.decls.toList[id]?.map fun d => { toSymbolDecl := d, id := id } := by
  rw [Array.getElem?_toList]
  rfl

/-- Earlier symbols stay as they are. -/
theorem symbol?_includeSnapshot {id : Nat} (hid : id < g.symbolCount) (s : GraphSnapshot) :
    (g.includeSnapshot s).1.symbol? id = g.symbol? id := by
  rw [symbol?_eq, symbol?_eq, decls_includeSnapshot, List.getElem?_append_left]
  rw [Array.length_toList]
  exact hid

/-- New symbols have the attributes that the snapshot gives them. -/
theorem symbol?_includeSnapshot_add (g : CallGraph) (s : GraphSnapshot) (i : Nat) :
    (g.includeSnapshot s).1.symbol? (g.symbolCount + i) =
      s.symbols[i]?.map fun d => { toSymbolDecl := d, id := g.symbolCount + i } := by
  have hlength : g.decls.toList.length = g.symbolCount := Array.length_toList
  rw [symbol?_eq, decls_includeSnapshot, ← hlength, List.getElem?_append_right (Nat.le_add_right _ i),
    Nat.add_sub_cancel_left]

section Built

variable (hg : g.Built)
include hg

theorem Built.size_callees_addSymbols (ds : List SymbolDecl) :
    (g.addSymbols ds).1.callees.size = g.symbolCount + ds.length := by
  rw [← Array.length_toList, callees_addSymbols, List.length_append, List.length_replicate,
    Array.length_toList, hg.coherent.rows]

/-- What the calls of a snapshot come to, once its symbols have been added. -/
theorem Built.addLocalCalls_eq {s : GraphSnapshot} (hs : s.InRange) :
    (g.addSymbols s.symbols).1.addLocalCalls (g.addSymbols s.symbols).2 s.calls =
      ((g.addSymbols s.symbols).1.enterCalls (s.calls.map (moved g.symbolCount)), .ok ()) := by
  rw [ids_addSymbols]
  exact CallGraph.addLocalCalls_eq (g.symbolCount_addSymbols s.symbols)
    (hg.size_callees_addSymbols s.symbols) hs

/-- A snapshot whose calls are between its symbols is taken in. -/
theorem Built.includeSnapshot_eq {s : GraphSnapshot} (hs : s.InRange) :
    g.includeSnapshot s =
      ((g.addSymbols s.symbols).1.enterCalls (s.calls.map (moved g.symbolCount)),
        .ok (List.range' g.symbolCount s.symbols.length)) := by
  unfold CallGraph.includeSnapshot
  simp only
  rw [hg.addLocalCalls_eq hs, ids_addSymbols]

/-- No other snapshot is. -/
theorem Built.inRange_of_includeSnapshot {s : GraphSnapshot} {ids : List Nat}
    (hok : (g.includeSnapshot s).2 = .ok ids) : s.InRange := by
  have hlocal : ((g.addSymbols s.symbols).1.addLocalCalls
      (List.range' g.symbolCount s.symbols.length) s.calls).2 = .ok () := by
    rw [← ids_addSymbols]
    unfold CallGraph.includeSnapshot at hok
    simp only at hok
    split at hok
    · rename_i heq
      rw [heq]
    · cases hok
  exact inRange_of_addLocalCalls (g.symbolCount_addSymbols s.symbols)
    (hg.size_callees_addSymbols s.symbols) hlocal

/-- The rows after a snapshot was taken in. -/
theorem Built.getElem?_callees_includeSnapshot {s : GraphSnapshot} (hs : s.InRange) (i : Nat) :
    (g.includeSnapshot s).1.callees[i]? =
      (g.callees.toList ++ List.replicate s.symbols.length .empty)[i]?.map fun row =>
        row.extend (calleesIn (s.calls.map (moved g.symbolCount)) i) := by
  have hcalls : ∀ c ∈ s.calls.map (moved g.symbolCount),
      c.1 < g.symbolCount + s.symbols.length ∧ c.2 < g.symbolCount + s.symbols.length := by
    intro c hc
    obtain ⟨d, hd, rfl⟩ := List.mem_map.1 hc
    obtain ⟨hcaller, hcallee⟩ := hs d hd
    exact ⟨Nat.add_lt_add_left hcaller _, Nat.add_lt_add_left hcallee _⟩
  rw [hg.includeSnapshot_eq hs, getElem?_callees_enterCalls (g.symbolCount_addSymbols s.symbols)
    (hg.size_callees_addSymbols s.symbols) hcalls, ← Array.getElem?_toList, callees_addSymbols]

/-- Earlier symbols call what they called. -/
theorem Built.idsAt_includeSnapshot {s : GraphSnapshot} (hs : s.InRange) {i : Nat}
    (hi : i < g.symbolCount) : idsAt (g.includeSnapshot s).1.callees i = idsAt g.callees i := by
  have hrow : i < g.callees.toList.length := by rwa [Array.length_toList, hg.coherent.rows]
  unfold idsAt
  rw [hg.getElem?_callees_includeSnapshot hs, List.getElem?_append_left hrow,
    calleesIn_map_moved_of_lt hi, Array.getElem?_toList]
  simp only [OrderedSet.extend_nil, Option.map_id']

/-- A new symbol calls what it calls in the snapshot, each callee where it is called first. -/
theorem Built.idsAt_includeSnapshot_add {s : GraphSnapshot} (hs : s.InRange) (i : Nat) :
    idsAt (g.includeSnapshot s).1.callees (g.symbolCount + i) =
      (calleesIn s.calls i).eraseDups.map (g.symbolCount + ·) := by
  have hlength : g.callees.toList.length = g.symbolCount := by
    rw [Array.length_toList, hg.coherent.rows]
  unfold idsAt
  rw [hg.getElem?_callees_includeSnapshot hs,
    List.getElem?_append_right (hlength ▸ Nat.le_add_right _ i), hlength, Nat.add_sub_cancel_left,
    calleesIn_map_moved, List.getElem?_replicate]
  split
  · refine (Grouping.toList_ofList _).trans ?_
    exact Grouping.eraseDups_map (fun _ _ h => Nat.add_left_cancel h) _
  · rename_i hi
    have hnone : calleesIn s.calls i = [] := by
      unfold calleesIn
      rw [List.map_eq_nil_iff, List.filter_eq_nil_iff]
      intro c hc
      have := (hs c hc).1
      simp only [decide_eq_true_eq]
      omega
    rw [hnone]
    rfl

end Built

theorem calleesOf_eq (g : CallGraph) (a : Symbol) :
    g.calleesOf a = (idsAt g.callees a.id).filterMap g.symbol? := by
  unfold calleesOf listed idsAt
  cases g.callees[a.id]? with
  | none => rfl
  | some row => rfl

end CallGraph

end CallAtlas
