/-
# `CallAtlas.Proofs.Graph.Building` — what building keeps of a graph

A graph comes about by steps, some of which fail and leave a part of their
work.  All of them add symbols, add calls, compute callers or ask for callers
in the end, so a property that these four keep holds after every run of steps
(`Kept.after_run`).

Here it is used for `Coherent`: the rows of a graph mention its symbols only,
and callers that are up to date are the calls read backwards.  The property
asks nothing of callers that are not computed.
-/
import CallAtlas.Graph.Snapshot
import CallAtlas.Proofs.Graph.Chain
import CallAtlas.Proofs.OrderedSet
import CallAtlas.Proofs.Outcome

namespace CallAtlas

/-! ## Runs -/

/-- A step that may change a graph. -/
inductive GraphStep
  | addSymbol (d : SymbolDecl)
  | addCall (caller callee : Nat)
  | addCalls (pairs : List (Nat × Nat))
  | includeSnapshot (s : GraphSnapshot)
  | includeText (text : String)
  | includeFile (folder : Folder) (name : String)
  | computeCallers
  | queryCallers (a : Symbol)

/-- The graph after a step, whether the step succeeds or fails. -/
def GraphStep.after (g : CallGraph) : GraphStep → CallGraph
  | .addSymbol d => (g.addSymbol d).1
  | .addCall caller callee => (g.addCall caller callee).1
  | .addCalls pairs => (g.addCalls pairs).1
  | .includeSnapshot s => (g.includeSnapshot s).1
  | .includeText text => (g.includeText text).1
  | .includeFile folder name => (g.includeFile folder name).1
  | .computeCallers => g.computeCallers
  | .queryCallers a => (g.queryCallers a).1

namespace CallGraph

/-- The graph after some steps. -/
def run (g : CallGraph) (steps : List GraphStep) : CallGraph := steps.foldl GraphStep.after g

/-- Some run of steps from a graph without symbols leads to the graph. -/
def Built (g : CallGraph) : Prop :=
  ∃ (number : Nat) (config : QueryConfig) (steps : List GraphStep), (new number config).run steps = g

/-- The graph was built, and its callers are up to date. -/
structure Finalised (g : CallGraph) : Prop where
  built : g.Built
  computed : g.callersComputed = true

/-- Building keeps a property if it survives each of the four changes that steps are made of. -/
structure Kept (I : CallGraph → Prop) : Prop where
  addSymbol : ∀ g d, I g → I (g.addSymbol d).1
  addCall : ∀ g caller callee, I g → I (g.addCall caller callee).1
  computeCallers : ∀ g, I g → I g.computeCallers
  noteCallerQuery : ∀ g a, I g → I (g.noteCallerQuery a).1

namespace Kept

variable {I : CallGraph → Prop}

theorem addSymbols (hI : Kept I) (ds : List SymbolDecl) {g : CallGraph} (h : I g) :
    I (g.addSymbols ds).1 := by
  induction ds generalizing g with
  | nil => exact h
  | cons d ds ih => exact ih (hI.addSymbol g d h)

theorem addCalls (hI : Kept I) (pairs : List (Nat × Nat)) {g : CallGraph} (h : I g) :
    I (g.addCalls pairs).1 := by
  induction pairs generalizing g with
  | nil => exact h
  | cons pair pairs ih =>
    obtain ⟨caller, callee⟩ := pair
    have hcall := hI.addCall g caller callee h
    unfold CallGraph.addCalls
    cases hresult : g.addCall caller callee with
    | mk after result =>
      rw [hresult] at hcall
      cases result with
      | error e => exact hcall
      | ok u => exact ih hcall

theorem addLocalCalls (hI : Kept I) (ids : List Nat) (pairs : List (Nat × Nat)) {g : CallGraph}
    (h : I g) : I (g.addLocalCalls ids pairs).1 := by
  induction pairs generalizing g with
  | nil => exact h
  | cons pair pairs ih =>
    obtain ⟨first, second⟩ := pair
    unfold CallGraph.addLocalCalls
    cases resolve ids first with
    | error e => exact h
    | ok caller =>
      cases resolve ids second with
      | error e => exact h
      | ok callee =>
        have hcall := hI.addCall g caller callee h
        simp only
        cases hresult : g.addCall caller callee with
        | mk after result =>
          rw [hresult] at hcall
          cases result with
          | error e => exact hcall
          | ok u => exact ih hcall

theorem includeSnapshot (hI : Kept I) (s : GraphSnapshot) {g : CallGraph} (h : I g) :
    I (g.includeSnapshot s).1 := by
  have hsymbols := hI.addSymbols s.symbols h
  unfold CallGraph.includeSnapshot
  cases hadded : g.addSymbols s.symbols with
  | mk middle ids =>
    rw [hadded] at hsymbols
    have hcalls := hI.addLocalCalls ids s.calls hsymbols
    simp only
    cases hresult : middle.addLocalCalls ids s.calls with
    | mk after result =>
      rw [hresult] at hcalls
      cases result with
      | error e => exact hcalls
      | ok u => exact hcalls

theorem includeText (hI : Kept I) (text : String) {g : CallGraph} (h : I g) :
    I (g.includeText text).1 := by
  unfold CallGraph.includeText
  cases GraphSnapshot.ofText text with
  | error e => exact h
  | ok s => exact hI.includeSnapshot s h

theorem after (hI : Kept I) (step : GraphStep) {g : CallGraph} (h : I g) : I (step.after g) := by
  cases step with
  | addSymbol d => exact hI.addSymbol g d h
  | addCall caller callee => exact hI.addCall g caller callee h
  | addCalls pairs => exact hI.addCalls pairs h
  | includeSnapshot s => exact hI.includeSnapshot s h
  | includeText text => exact hI.includeText text h
  | includeFile folder name =>
    simp only [GraphStep.after, CallGraph.includeFile]
    cases folder.read name with
    | error e => exact h
    | ok text => exact hI.includeText text h
  | computeCallers => exact hI.computeCallers g h
  | queryCallers a => exact hI.noteCallerQuery g a h

theorem after_run (hI : Kept I) (steps : List GraphStep) {g : CallGraph} (h : I g) :
    I (g.run steps) := by
  induction steps generalizing g with
  | nil => exact h
  | cons step steps ih => exact ih (hI.after step h)

end Kept

/-! ## The four changes, row by row -/

theorem idsAt_push_empty (rows : Array IdSet) (i : Nat) : idsAt (rows.push .empty) i = idsAt rows i := by
  unfold idsAt
  rw [Array.getElem?_push]
  split
  · rename_i h
    rw [Array.getElem?_eq_none (by omega)]
    rfl
  · rfl

theorem mem_insert_id (row : IdSet) (a j : Nat) :
    j ∈ (row.insert a).toList ↔ j ∈ row.toList ∨ j = a := by
  simpa using OrderedSet.mem_keys_insert row a j

theorem mem_idsAt_modify (rows : Array IdSet) (k a i j : Nat) :
    j ∈ idsAt (rows.modify k (·.insert a)) i ↔
      j ∈ idsAt rows i ∨ (i = k ∧ j = a ∧ i < rows.size) := by
  unfold idsAt
  rw [Array.getElem?_modify]
  by_cases hk : k = i
  · subst hk
    by_cases hi : k < rows.size
    · simp only [if_true, Array.getElem?_eq_getElem hi, Option.map_some, Option.elim_some]
      rw [mem_insert_id]
      simp [hi]
    · simp [hi]
  · rw [if_neg hk]
    simp [Ne.symm hk]

/-- What adding a call comes to: the callee is looked up before the caller, a call that is there
already changes nothing, and a new one makes the callers out of date. -/
theorem addCall_outcome (g : CallGraph) (caller callee : Nat) :
    (¬callee < g.symbolCount ∧ g.addCall caller callee = (g, .error (unknown callee))) ∨
    (callee < g.symbolCount ∧ ¬caller < g.callees.size ∧
      g.addCall caller callee = (g, .error (unknown caller))) ∨
    (callee < g.symbolCount ∧ caller < g.callees.size ∧ g.hasCall caller callee = true ∧
      g.addCall caller callee = (g, .ok ())) ∨
    (callee < g.symbolCount ∧ caller < g.callees.size ∧ g.hasCall caller callee = false ∧
      g.addCall caller callee =
        ({ g with
            callees := g.callees.modify caller (·.insert callee)
            callers := none
            callCount := g.callCount + 1 }, .ok ())) := by
  unfold addCall hasCall
  cases hcallee : g.symbol? callee with
  | none =>
    have hno : ¬callee < g.symbolCount := by
      rw [← symbol?_isSome_iff, hcallee]
      exact Bool.false_ne_true
    exact Or.inl ⟨hno, rfl⟩
  | some b =>
    have hlt := lt_of_symbol? hcallee
    cases hrow : g.callees[caller]? with
    | none => exact Or.inr (Or.inl ⟨hlt, Nat.not_lt.2 (Array.getElem?_eq_none_iff.1 hrow), rfl⟩)
    | some row =>
      have hcaller : caller < g.callees.size := (Array.getElem?_eq_some_iff.1 hrow).1
      cases hkey : row.hasKey callee with
      | true => exact Or.inr (Or.inr (Or.inl ⟨hlt, hcaller, hkey, if_pos hkey⟩))
      | false =>
        have hnot : ¬row.hasKey callee = true := by
          rw [hkey]
          exact Bool.false_ne_true
        exact Or.inr (Or.inr (Or.inr ⟨hlt, hcaller, hkey, if_neg hnot⟩))

/-- An added call leaves the graph as it is, or is new and makes the callers out of date. -/
theorem addCall_cases (g : CallGraph) (caller callee : Nat) :
    (g.addCall caller callee).1 = g ∨
      (callee < g.symbolCount ∧ caller < g.callees.size ∧
        (g.addCall caller callee).1 =
          { g with
              callees := g.callees.modify caller (·.insert callee)
              callers := none
              callCount := g.callCount + 1 }) := by
  rcases g.addCall_outcome caller callee with
    ⟨-, h⟩ | ⟨-, -, h⟩ | ⟨-, -, -, h⟩ | ⟨hcallee, hcaller, -, h⟩
  · exact Or.inl (congrArg Prod.fst h)
  · exact Or.inl (congrArg Prod.fst h)
  · exact Or.inl (congrArg Prod.fst h)
  · exact Or.inr ⟨hcallee, hcaller, congrArg Prod.fst h⟩

theorem mem_calls {g : CallGraph} {i j : Nat} : (i, j) ∈ g.calls ↔ j ∈ idsAt g.callees i := by
  unfold calls idsAt
  simp only [List.mem_flatMap, List.mem_range]
  constructor
  · rintro ⟨k, -, hmem⟩
    cases hrow : g.callees[k]? with
    | none => simp [hrow] at hmem
    | some row =>
      rw [hrow] at hmem
      obtain ⟨l, hl, heq⟩ := List.mem_map.1 hmem
      obtain ⟨rfl, rfl⟩ := Prod.mk.inj heq
      rw [hrow]
      exact hl
  · intro h
    cases hrow : g.callees[i]? with
    | none => simp [hrow] at h
    | some row =>
      rw [hrow] at h
      refine ⟨i, (Array.getElem?_eq_some_iff.1 hrow).1, ?_⟩
      rw [hrow]
      exact List.mem_map.2 ⟨j, h, rfl⟩

theorem size_foldl_enterCaller (calls : List (Nat × Nat)) (rows : Array IdSet) :
    (calls.foldl enterCaller rows).size = rows.size := by
  induction calls generalizing rows with
  | nil => rfl
  | cons call calls ih =>
    rw [List.foldl_cons, ih]
    exact Array.size_modify

theorem mem_idsAt_foldl_enterCaller (calls : List (Nat × Nat)) (rows : Array IdSet) (i j : Nat) :
    i ∈ idsAt (calls.foldl enterCaller rows) j ↔
      i ∈ idsAt rows j ∨ ((i, j) ∈ calls ∧ j < rows.size) := by
  induction calls generalizing rows with
  | nil => simp
  | cons call calls ih =>
    obtain ⟨a, b⟩ := call
    have hsize : (enterCaller rows (a, b)).size = rows.size := Array.size_modify
    rw [List.foldl_cons, ih, hsize]
    unfold enterCaller
    rw [mem_idsAt_modify, List.mem_cons, Prod.mk.injEq, or_assoc]
    refine or_congr_right ?_
    constructor
    · rintro (⟨rfl, rfl, hlt⟩ | ⟨hmem, hlt⟩)
      · exact ⟨Or.inl ⟨rfl, rfl⟩, hlt⟩
      · exact ⟨Or.inr hmem, hlt⟩
    · rintro ⟨⟨rfl, rfl⟩ | hmem, hlt⟩
      · exact Or.inl ⟨rfl, rfl, hlt⟩
      · exact Or.inr ⟨hmem, hlt⟩

theorem size_callerRows (g : CallGraph) : g.callerRows.size = g.symbolCount := by
  unfold callerRows
  rw [size_foldl_enterCaller, Array.size_replicate]

theorem mem_idsAt_callerRows (g : CallGraph) (i j : Nat) :
    i ∈ idsAt g.callerRows j ↔ j ∈ idsAt g.callees i ∧ j < g.symbolCount := by
  have hempty : i ∉ idsAt (Array.replicate g.symbolCount .empty) j := by
    unfold idsAt
    rw [Array.getElem?_replicate]
    split <;> simp
  unfold callerRows
  rw [mem_idsAt_foldl_enterCaller, mem_calls, Array.size_replicate]
  simp [hempty]

/-! ## Coherence -/

/-- The rows of a graph fit its symbols, and callers that are up to date are the calls read
backwards. -/
structure Coherent (g : CallGraph) : Prop where
  /-- each symbol has a row of callees -/
  rows : g.callees.size = g.symbolCount
  /-- rows mention symbols of the graph only -/
  known : ∀ i j, j ∈ idsAt g.callees i → j < g.symbolCount
  /-- callers that are computed have a row for each symbol -/
  callerRows : ∀ rows, g.callers = some rows → rows.size = g.symbolCount
  /-- and are the calls read backwards -/
  transposed : ∀ rows, g.callers = some rows →
    ∀ i j, i ∈ idsAt rows j ↔ j ∈ idsAt g.callees i

theorem coherent_new (number : Nat) (config : QueryConfig) : (new number config).Coherent where
  rows := rfl
  known := by simp [new, idsAt]
  callerRows := by simp [new]
  transposed := by simp [new]

theorem Coherent.addSymbol {g : CallGraph} (h : g.Coherent) (d : SymbolDecl) :
    (g.addSymbol d).1.Coherent := by
  have hcount : (g.addSymbol d).1.symbolCount = g.symbolCount + 1 := Array.size_push d
  have hcallees : ∀ i, idsAt (g.addSymbol d).1.callees i = idsAt g.callees i :=
    idsAt_push_empty g.callees
  have hcallers : ∀ rows, (g.addSymbol d).1.callers = some rows →
      ∃ before, g.callers = some before ∧ rows = before.push .empty := by
    intro rows hrows
    obtain ⟨before, hbefore, rfl⟩ := Option.map_eq_some_iff.1 hrows
    exact ⟨before, hbefore, rfl⟩
  refine ⟨?_, ?_, ?_, ?_⟩
  · rw [hcount, ← h.rows]
    exact Array.size_push OrderedSet.empty
  · intro i j hj
    rw [hcallees] at hj
    have := h.known i j hj
    omega
  · intro rows hrows
    obtain ⟨before, hbefore, rfl⟩ := hcallers rows hrows
    rw [hcount, ← h.callerRows before hbefore]
    exact Array.size_push OrderedSet.empty
  · intro rows hrows i j
    obtain ⟨before, hbefore, rfl⟩ := hcallers rows hrows
    rw [idsAt_push_empty, hcallees]
    exact h.transposed before hbefore i j

theorem Coherent.addCall {g : CallGraph} (h : g.Coherent) (caller callee : Nat) :
    (g.addCall caller callee).1.Coherent := by
  rcases addCall_cases g caller callee with heq | ⟨hcallee, -, heq⟩
  · rw [heq]
    exact h
  · rw [heq]
    refine ⟨?_, ?_, ?_, ?_⟩
    · exact Array.size_modify.trans h.rows
    · intro i j hj
      rcases (mem_idsAt_modify g.callees caller callee i j).1 hj with hj | ⟨-, rfl, -⟩
      · exact h.known i j hj
      · exact hcallee
    · intro rows hrows
      cases hrows
    · intro rows hrows
      cases hrows

theorem Coherent.computeCallers {g : CallGraph} (h : g.Coherent) : g.computeCallers.Coherent := by
  refine ⟨h.rows, h.known, ?_, ?_⟩
  · intro rows hrows
    obtain rfl : g.callerRows = rows := Option.some.inj hrows
    exact size_callerRows g
  · intro rows hrows i j
    obtain rfl : g.callerRows = rows := Option.some.inj hrows
    rw [mem_idsAt_callerRows]
    exact and_iff_left_of_imp (h.known i j)

theorem Coherent.noteCallerQuery {g : CallGraph} (h : g.Coherent) (a : Symbol) :
    (g.noteCallerQuery a).1.Coherent := by
  unfold CallGraph.noteCallerQuery
  split
  · exact ⟨h.rows, h.known, h.callerRows, h.transposed⟩
  · exact h

theorem kept_coherent : Kept Coherent where
  addSymbol _ d h := h.addSymbol d
  addCall _ caller callee h := h.addCall caller callee
  computeCallers _ h := h.computeCallers
  noteCallerQuery _ a h := h.noteCallerQuery a

theorem Built.coherent {g : CallGraph} (h : g.Built) : g.Coherent := by
  obtain ⟨number, config, steps, rfl⟩ := h
  exact kept_coherent.after_run steps (coherent_new number config)

/-! ## Finalised graphs -/

/-- The callers of a symbol of a finalised graph are the symbols that call it. -/
theorem mem_callersOf {g : CallGraph} (h : g.Finalised) {a b : Symbol} :
    a ∈ g.callersOf b ↔ g.Has a ∧ g.hasCall a.id b.id = true := by
  obtain ⟨rows, hrows⟩ := Option.isSome_iff_exists.1 h.computed
  unfold callersOf
  rw [hrows, mem_listed, hasCall_iff, h.built.coherent.transposed rows hrows]

theorem run_append (g : CallGraph) (steps more : List GraphStep) :
    g.run (steps ++ more) = (g.run steps).run more :=
  List.foldl_append

/-- To take in files is to run the steps that take in one file each. -/
theorem exists_run_of_includeFiles {folder : Folder} {names : List String} {g h : CallGraph}
    (hok : g.includeFiles folder names = .ok h) : ∃ steps, g.run steps = h := by
  induction names generalizing g with
  | nil =>
    cases hok
    exact ⟨[], rfl⟩
  | cons name names ih =>
    unfold includeFiles at hok
    cases hfile : g.includeFile folder name with
    | mk after result =>
      rw [hfile] at hok
      cases result with
      | error e => cases hok
      | ok ids =>
        obtain ⟨steps, hsteps⟩ := ih hok
        refine ⟨.includeFile folder name :: steps, ?_⟩
        show ((g.includeFile folder name).1).run steps = h
        rw [hfile]
        exact hsteps

/-- A graph that was loaded is finalised. -/
theorem finalised_of_load {number : Nat} {folder : Folder} {names : List String} {g : CallGraph}
    (hok : load number folder names = .ok g) : g.Finalised := by
  obtain ⟨h, hincluded, hg⟩ := Outcome.bind_eq_ok.1 hok
  cases hg
  obtain ⟨steps, rfl⟩ := exists_run_of_includeFiles hincluded
  exact ⟨⟨number, .standard, steps ++ [.computeCallers], run_append _ _ _⟩, rfl⟩

/-- A function that calls `pong`. -/
def ping : Symbol := ⟨⟨"ping", "pair.c", 1, false, false, false⟩, 0⟩

/-- A function that calls `ping`. -/
def pong : Symbol := ⟨⟨"pong", "pair.c", 5, false, false, false⟩, 1⟩

/-- Two functions that call each other, callers computed. -/
def mutualPair (config : QueryConfig) : CallGraph :=
  (new 0 config).run [
    .addSymbol ping.toSymbolDecl,
    .addSymbol pong.toSymbolDecl,
    .addCalls [(0, 1), (1, 0)],
    .computeCallers]

theorem finalised_mutualPair (config : QueryConfig) : (mutualPair config).Finalised :=
  ⟨⟨0, config, _, rfl⟩, rfl⟩

/-- A function that calls `tack`. -/
def tick : Symbol := ⟨⟨"tick", "clock.c", 1, false, false, false⟩, 0⟩

/-- A function without calls. -/
def tock : Symbol := ⟨⟨"tock", "clock.c", 5, false, false, false⟩, 1⟩

/-- A function that `tick` calls. -/
def tack : Symbol := ⟨⟨"tack", "clock.c", 9, false, false, false⟩, 2⟩

/-- Another graph than `mutualPair`, with a function more, callers computed. -/
def clockwork : CallGraph :=
  (new 1 .standard).run [
    .addSymbol tick.toSymbolDecl,
    .addSymbol tock.toSymbolDecl,
    .addSymbol tack.toSymbolDecl,
    .addCalls [(0, 2)],
    .computeCallers]

theorem finalised_clockwork : clockwork.Finalised :=
  ⟨⟨1, .standard, _, rfl⟩, rfl⟩

end CallGraph

end CallAtlas
