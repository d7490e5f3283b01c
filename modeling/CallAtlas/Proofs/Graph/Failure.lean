/-
# `CallAtlas.Proofs.Graph.Failure` — what failing steps leave behind

A call that is refused leaves no trace.  Steps that add several things check
them one by one while they add them, and stop at the first that is refused: what
came before it stays.  So a batch of calls that fails has added those in front
of the refused one, and a snapshot that fails has added all its symbols.

`SameAs` is what it would mean to leave no trace.  A failing batch does so
exactly if the calls in front of the refused one were there already, and a
failing snapshot exactly if it has no symbols (`failure_traceless_iff`).  The
argument counts: an entered call that is new raises the number of calls, and
nothing lowers it again.
-/
import CallAtlas.Proofs.Graph.Building

namespace CallAtlas

namespace CallGraph

/-- The two graphs have the same symbols and calls, count the same calls, and agree on whether
their callers are computed. -/
structure SameAs (g h : CallGraph) : Prop where
  symbols : h.symbols = g.symbols
  calls : h.calls = g.calls
  callCount : h.callCount = g.callCount
  callersComputed : h.callersComputed = g.callersComputed

theorem SameAs.refl (g : CallGraph) : g.SameAs g := ⟨rfl, rfl, rfl, rfl⟩

variable {g : CallGraph}

/-! ## One call -/

theorem addCall_eq_of_error {caller callee : Nat} {e : QueryError}
    (h : (g.addCall caller callee).2 = .error e) : (g.addCall caller callee).1 = g := by
  rcases g.addCall_outcome caller callee with
    ⟨-, heq⟩ | ⟨-, -, heq⟩ | ⟨-, -, -, heq⟩ | ⟨-, -, -, heq⟩
  · exact congrArg Prod.fst heq
  · exact congrArg Prod.fst heq
  · exact congrArg Prod.fst heq
  · rw [heq] at h
    cases h

theorem addCall_eq_of_hasCall {caller callee : Nat} (h : g.hasCall caller callee = true) :
    (g.addCall caller callee).1 = g := by
  rcases g.addCall_outcome caller callee with
    ⟨-, heq⟩ | ⟨-, -, heq⟩ | ⟨-, -, -, heq⟩ | ⟨-, -, hnew, -⟩
  · exact congrArg Prod.fst heq
  · exact congrArg Prod.fst heq
  · exact congrArg Prod.fst heq
  · rw [hnew] at h
    cases h

theorem callCount_addCall_of_new {caller callee : Nat}
    (hok : (g.addCall caller callee).2 = .ok ()) (h : g.hasCall caller callee = false) :
    (g.addCall caller callee).1.callCount = g.callCount + 1 := by
  rcases g.addCall_outcome caller callee with
    ⟨-, heq⟩ | ⟨-, -, heq⟩ | ⟨-, -, hold, -⟩ | ⟨-, -, -, heq⟩
  · rw [heq] at hok
    cases hok
  · rw [heq] at hok
    cases hok
  · rw [hold] at h
    cases h
  · rw [heq]

theorem callCount_le_addCall (g : CallGraph) (caller callee : Nat) :
    g.callCount ≤ (g.addCall caller callee).1.callCount := by
  rcases g.addCall_cases caller callee with heq | ⟨-, -, heq⟩
  · exact Nat.le_of_eq (congrArg callCount heq.symm)
  · rw [heq]
    exact Nat.le_succ g.callCount

theorem decls_addCall (g : CallGraph) (caller callee : Nat) :
    (g.addCall caller callee).1.decls = g.decls := by
  rcases g.addCall_cases caller callee with heq | ⟨-, -, heq⟩
  · rw [heq]
  · rw [heq]

/-! ## Calls one after the other -/

/-- The graph with calls entered one after the other. -/
def enterCalls (g : CallGraph) (calls : List (Nat × Nat)) : CallGraph :=
  calls.foldl (fun h call => (h.addCall call.1 call.2).1) g

@[simp] theorem enterCalls_nil (g : CallGraph) : g.enterCalls [] = g := rfl

@[simp] theorem enterCalls_cons (g : CallGraph) (call : Nat × Nat) (calls : List (Nat × Nat)) :
    g.enterCalls (call :: calls) = (g.addCall call.1 call.2).1.enterCalls calls := rfl

theorem decls_enterCalls (g : CallGraph) (calls : List (Nat × Nat)) :
    (g.enterCalls calls).decls = g.decls := by
  induction calls generalizing g with
  | nil => rfl
  | cons call calls ih => exact (ih _).trans (g.decls_addCall call.1 call.2)

theorem callCount_le_enterCalls (g : CallGraph) (calls : List (Nat × Nat)) :
    g.callCount ≤ (g.enterCalls calls).callCount := by
  induction calls generalizing g with
  | nil => exact Nat.le_refl g.callCount
  | cons call calls ih => exact (g.callCount_le_addCall call.1 call.2).trans (ih _)

/-- Calls that are there already leave the graph as it is. -/
theorem enterCalls_eq_of_hasCall {calls : List (Nat × Nat)}
    (h : ∀ c ∈ calls, g.hasCall c.1 c.2 = true) : g.enterCalls calls = g := by
  induction calls with
  | nil => rfl
  | cons call calls ih =>
    rw [enterCalls_cons, addCall_eq_of_hasCall (h call List.mem_cons_self)]
    exact ih fun c hc => h c (List.mem_cons_of_mem call hc)

/-- What comes of adding calls: all are entered, or those in front of the first that is
refused. -/
theorem addCalls_outcome (g : CallGraph) (pairs : List (Nat × Nat)) :
    g.addCalls pairs = (g.enterCalls pairs, .ok ()) ∨
    ∃ before call after e, pairs = before ++ call :: after ∧
      g.addCalls before = (g.enterCalls before, .ok ()) ∧
      ((g.enterCalls before).addCall call.1 call.2).2 = .error e ∧
      g.addCalls pairs = (g.enterCalls before, .error e) := by
  induction pairs generalizing g with
  | nil => exact Or.inl rfl
  | cons call pairs ih =>
    obtain ⟨caller, callee⟩ := call
    cases hresult : g.addCall caller callee with
    | mk added result =>
      have hadded : (g.addCall caller callee).1 = added := congrArg Prod.fst hresult
      cases result with
      | error e =>
        have herror : (g.addCall caller callee).2 = .error e := congrArg Prod.snd hresult
        refine Or.inr ⟨[], (caller, callee), pairs, e, rfl, rfl, herror, ?_⟩
        rw [addCalls, hresult, ← hadded, addCall_eq_of_error herror]
        rfl
      | ok u =>
        have hstep : ∀ calls, g.addCalls ((caller, callee) :: calls) = added.addCalls calls := by
          intro calls
          rw [addCalls, hresult]
        have henter : ∀ calls, g.enterCalls ((caller, callee) :: calls) = added.enterCalls calls := by
          intro calls
          rw [enterCalls_cons, hadded]
        rcases ih added with hall | ⟨before, call, after, e, rfl, hbefore, herror, hleft⟩
        · exact Or.inl (by rw [hstep, henter, hall])
        · refine Or.inr ⟨(caller, callee) :: before, call, after, e, rfl, ?_, ?_, ?_⟩
          · rw [hstep, henter, hbefore]
          · rw [henter, herror]
          · rw [henter, ← hleft]
            exact hstep (before ++ call :: after)

/-- Calls that can all be added raise the number of calls, unless they were there already. -/
theorem hasCall_of_callCount_enterCalls {calls : List (Nat × Nat)}
    (hok : (g.addCalls calls).2 = .ok ())
    (hcount : (g.enterCalls calls).callCount = g.callCount) :
    ∀ c ∈ calls, g.hasCall c.1 c.2 = true := by
  induction calls with
  | nil => exact fun c hc => absurd hc List.not_mem_nil
  | cons call calls ih =>
    obtain ⟨caller, callee⟩ := call
    cases hresult : g.addCall caller callee with
    | mk added result =>
      have hadded : (g.addCall caller callee).1 = added := congrArg Prod.fst hresult
      rw [addCalls, hresult] at hok
      rw [enterCalls_cons, hadded] at hcount
      cases result with
      | error e => cases hok
      | ok u =>
        cases hcall : g.hasCall caller callee with
        | true =>
          obtain rfl : added = g := hadded.symm.trans (addCall_eq_of_hasCall hcall)
          intro c hc
          rcases List.mem_cons.1 hc with rfl | hc
          · exact hcall
          · exact ih hok hcount c hc
        | false =>
          have hmore : added.callCount = g.callCount + 1 :=
            hadded ▸ callCount_addCall_of_new (congrArg Prod.snd hresult) hcall
          have hle := added.callCount_le_enterCalls calls
          omega

/-- A snapshot's calls are entered up to the first that is refused. -/
theorem exists_enterCalls_of_addLocalCalls (g : CallGraph) (ids : List Nat)
    (pairs : List (Nat × Nat)) :
    ∃ entered, (g.addLocalCalls ids pairs).1 = g.enterCalls entered := by
  induction pairs generalizing g with
  | nil => exact ⟨[], rfl⟩
  | cons pair pairs ih =>
    obtain ⟨first, second⟩ := pair
    unfold addLocalCalls
    cases resolve ids first with
    | error e => exact ⟨[], rfl⟩
    | ok caller =>
      cases resolve ids second with
      | error e => exact ⟨[], rfl⟩
      | ok callee =>
        simp only
        cases hresult : g.addCall caller callee with
        | mk added result =>
          have hadded : (g.addCall caller callee).1 = added := congrArg Prod.fst hresult
          cases result with
          | error e => exact ⟨[(caller, callee)], hadded.symm⟩
          | ok u =>
            obtain ⟨entered, hentered⟩ := ih added
            refine ⟨(caller, callee) :: entered, ?_⟩
            rw [enterCalls_cons, hadded]
            exact hentered

/-! ## Snapshots -/

theorem decls_addSymbols (g : CallGraph) (ds : List SymbolDecl) :
    (g.addSymbols ds).1.decls.toList = g.decls.toList ++ ds := by
  induction ds generalizing g with
  | nil => exact (List.append_nil _).symm
  | cons d ds ih =>
    have hone : (g.addSymbol d).1.decls.toList = g.decls.toList ++ [d] := Array.toList_push
    refine (ih (g.addSymbol d).1).trans ?_
    rw [hone, List.append_assoc, List.singleton_append]

/-- A snapshot leaves its symbols in the graph, and some calls. -/
theorem exists_includeSnapshot_eq (g : CallGraph) (s : GraphSnapshot) :
    ∃ entered, (g.includeSnapshot s).1 = (g.addSymbols s.symbols).1.enterCalls entered := by
  obtain ⟨entered, hentered⟩ := (g.addSymbols s.symbols).1.exists_enterCalls_of_addLocalCalls
    (g.addSymbols s.symbols).2 s.calls
  refine ⟨entered, ?_⟩
  rw [← hentered]
  unfold includeSnapshot
  simp only
  split
  · rename_i heq
    rw [heq]
  · rename_i heq
    rw [heq]

theorem decls_includeSnapshot (g : CallGraph) (s : GraphSnapshot) :
    (g.includeSnapshot s).1.decls.toList = g.decls.toList ++ s.symbols := by
  obtain ⟨entered, hentered⟩ := g.exists_includeSnapshot_eq s
  rw [hentered, decls_enterCalls, decls_addSymbols]

theorem length_symbols (g : CallGraph) : g.symbols.length = g.symbolCount := by
  have hids := g.map_id_filterMap_symbol? (List.range g.symbolCount)
  rw [List.filter_eq_self.2 fun i hi => decide_eq_true (List.mem_range.1 hi)] at hids
  have hlength := congrArg List.length hids
  rw [List.length_map, List.length_range] at hlength
  exact hlength

/-- A snapshot without symbols can have no calls that are not refused. -/
theorem includeSnapshot_of_no_symbols {s : GraphSnapshot} (h : s.symbols = []) :
    (g.includeSnapshot s).1 = g := by
  obtain ⟨symbols, calls⟩ := s
  obtain rfl : symbols = [] := h
  cases calls with
  | nil => rfl
  | cons call calls => rfl

/-- A snapshot that leaves no trace has no symbols. -/
theorem sameAs_includeSnapshot_iff {s : GraphSnapshot} :
    g.SameAs (g.includeSnapshot s).1 ↔ s.symbols = [] := by
  constructor
  · intro hsame
    have hcount : (g.includeSnapshot s).1.symbolCount = g.symbolCount := by
      rw [← length_symbols, ← length_symbols, hsame.symbols]
    have hlength := congrArg List.length (g.decls_includeSnapshot s)
    rw [List.length_append, Array.length_toList, Array.length_toList] at hlength
    unfold symbolCount at hcount
    exact List.eq_nil_of_length_eq_zero (by omega)
  · intro hnone
    rw [includeSnapshot_of_no_symbols hnone]
    exact SameAs.refl g

/-! ## Failures -/

/-- What a failing step leaves.  A refused call leaves nothing.  A failing batch leaves what the
calls in front of the refused one come to, which is no trace exactly if all of them were there.
A failing snapshot leaves its symbols, so no trace exactly if it has none, also if it was read
from text; and a text that is no snapshot leaves nothing. -/
theorem failure_traceless_iff (g : CallGraph) :
    (∀ caller callee e, (g.addCall caller callee).2 = .error e →
      (g.addCall caller callee).1 = g) ∧
    (∀ pairs e, (g.addCalls pairs).2 = .error e →
      ∃ before call after, pairs = before ++ call :: after ∧
        (g.addCalls before).2 = .ok () ∧
        ((g.addCalls before).1.addCall call.1 call.2).2 = .error e ∧
        (g.addCalls pairs).1 = (g.addCalls before).1 ∧
        (g.SameAs (g.addCalls pairs).1 ↔ ∀ c ∈ before, g.hasCall c.1 c.2 = true)) ∧
    (∀ s e, (g.includeSnapshot s).2 = .error e →
      (g.includeSnapshot s).1.decls.toList = g.decls.toList ++ s.symbols ∧
        (g.SameAs (g.includeSnapshot s).1 ↔ s.symbols = [])) ∧
    ∀ text e, (g.includeText text).2 = .error e →
      (g.SameAs (g.includeText text).1 ↔
        ∀ s, GraphSnapshot.ofText text = .ok s → s.symbols = []) := by
  refine ⟨fun caller callee e => addCall_eq_of_error, ?_,
    fun s e _ => ⟨g.decls_includeSnapshot s, sameAs_includeSnapshot_iff⟩, ?_⟩
  · intro pairs e herror
    rcases g.addCalls_outcome pairs with hall | ⟨before, call, after, e', rfl, hbefore, hrefused, hleft⟩
    · rw [hall] at herror
      cases herror
    · rw [hleft] at herror
      cases herror
      refine ⟨before, call, after, rfl, congrArg Prod.snd hbefore, ?_, ?_, ?_⟩
      · rw [hbefore]
        exact hrefused
      · rw [hleft, hbefore]
      · rw [hleft]
        constructor
        · exact fun hsame =>
            hasCall_of_callCount_enterCalls (congrArg Prod.snd hbefore) hsame.callCount
        · intro hthere
          show g.SameAs (g.enterCalls before)
          rw [enterCalls_eq_of_hasCall hthere]
          exact SameAs.refl g
  · intro text e _
    unfold includeText
    cases GraphSnapshot.ofText text with
    | error e => exact iff_of_true (SameAs.refl g) fun s hs => nomatch hs
    | ok s =>
      refine sameAs_includeSnapshot_iff.trans ⟨?_, fun h => h s rfl⟩
      rintro hnone s' ⟨⟩
      exact hnone

/-- Two functions that do not call each other yet, callers computed. -/
def strangers : CallGraph :=
  (new 0 .standard).run [
    .addSymbol ping.toSymbolDecl,
    .addSymbol pong.toSymbolDecl,
    .computeCallers]

/-- A batch whose second call is refused leaves its first, and a snapshot whose call is refused
leaves its symbol. -/
theorem failure_leaves_trace :
    (strangers.addCalls [(0, 1), (0, 9)]).2 = .error (unknown 9) ∧
      ¬strangers.SameAs (strangers.addCalls [(0, 1), (0, 9)]).1 ∧
        (strangers.includeSnapshot ⟨[ping.toSymbolDecl], [(0, 4)]⟩).2 = .error (outside 4) ∧
          ¬strangers.SameAs (strangers.includeSnapshot ⟨[ping.toSymbolDecl], [(0, 4)]⟩).1 := by
  have hbatch : (strangers.addCalls [(0, 1), (0, 9)]).1.callCount ≠ strangers.callCount := by
    decide +kernel
  have hsnapshot : (strangers.includeSnapshot ⟨[ping.toSymbolDecl], [(0, 4)]⟩).1.symbols ≠
      strangers.symbols := by
    decide +kernel
  exact ⟨rfl, fun h => hbatch h.callCount, rfl, fun h => hsnapshot h.symbols⟩

end CallGraph

end CallAtlas
