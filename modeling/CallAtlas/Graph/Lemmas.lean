/-
# `CallAtlas.Graph.Lemmas` — what the rows of a graph list

The symbols that a row lists are symbols of the graph, each once and with
their own identity.  So a row lists at most as many symbols as the graph has.
-/
import CallAtlas.Graph.Basic

namespace CallAtlas

/-- Distinct numbers below a bound are at most as many as the bound. -/
theorem length_le_of_nodup_of_lt {n : Nat} {l : List Nat} (hd : l.Nodup) (hl : ∀ x ∈ l, x < n) :
    l.length ≤ n := by
  induction n generalizing l with
  | zero =>
    cases l with
    | nil => simp
    | cons a l => exact absurd (hl a (by simp)) (by omega)
  | succ n ih =>
    have hrest : (l.erase n).length ≤ n := by
      apply ih (hd.erase n)
      intro x hx
      have hne : x ≠ n := fun h => by
        subst h
        exact hd.not_mem_erase hx
      have := hl x (List.mem_of_mem_erase hx)
      omega
    by_cases hn : n ∈ l
    · have := List.length_erase_of_mem hn
      omega
    · rw [List.erase_of_not_mem hn] at hrest
      omega

namespace CallGraph

theorem symbol?_eq_some_iff {g : CallGraph} {id : Nat} {s : Symbol} :
    g.symbol? id = some s ↔ s.id = id ∧ g.decls[id]? = some s.toSymbolDecl := by
  unfold symbol?
  cases h : g.decls[id]? with
  | none => simp
  | some d =>
    simp only [Option.map_some, Option.some.injEq]
    constructor
    · rintro rfl
      exact ⟨rfl, rfl⟩
    · rintro ⟨rfl, hd⟩
      subst hd
      rfl

theorem id_of_symbol? {g : CallGraph} {id : Nat} {s : Symbol} (h : g.symbol? id = some s) :
    s.id = id :=
  (symbol?_eq_some_iff.1 h).1

theorem lt_of_symbol? {g : CallGraph} {id : Nat} {s : Symbol} (h : g.symbol? id = some s) :
    id < g.symbolCount := by
  have := (symbol?_eq_some_iff.1 h).2
  exact (Array.getElem?_eq_some_iff.1 this).1

theorem symbol?_isSome_iff {g : CallGraph} {id : Nat} :
    (g.symbol? id).isSome = true ↔ id < g.symbolCount := by
  simp [symbol?, symbolCount]

/-- The identities of looked-up symbols are those that the graph has. -/
theorem map_id_filterMap_symbol? (g : CallGraph) (ids : List Nat) :
    (ids.filterMap g.symbol?).map Symbol.id = ids.filter (· < g.symbolCount) := by
  induction ids with
  | nil => rfl
  | cons id ids ih =>
    cases h : g.symbol? id with
    | none =>
      have : ¬ id < g.symbolCount := by
        rw [← symbol?_isSome_iff]
        simp [h]
      simp [h, this, ih]
    | some s =>
      have hlt := lt_of_symbol? h
      have hid := id_of_symbol? h
      simp [h, hlt, hid, ih]

/-- The identities that a row lists. -/
theorem map_id_listed (g : CallGraph) (rows : Array IdSet) (id : Nat) :
    (g.listed rows id).map Symbol.id =
      (rows[id]?.elim [] OrderedSet.toList).filter (· < g.symbolCount) := by
  unfold listed
  cases rows[id]? with
  | none => rfl
  | some row => exact map_id_filterMap_symbol? g row.toList

theorem nodup_listed (g : CallGraph) (rows : Array IdSet) (id : Nat) :
    ((g.listed rows id).map Symbol.id).Nodup := by
  rw [map_id_listed]
  cases rows[id]? with
  | none => simp
  | some row =>
    have := row.nodup_toList
    simp only [List.map_id'] at this
    exact this.sublist List.filter_sublist

theorem id_lt_of_mem_listed {g : CallGraph} {rows : Array IdSet} {id : Nat} {s : Symbol}
    (h : s ∈ g.listed rows id) : s.id < g.symbolCount := by
  have : s.id ∈ (g.listed rows id).map Symbol.id := List.mem_map_of_mem h
  rw [map_id_listed] at this
  simpa using (List.mem_filter.1 this).2

/-- A row lists no more symbols than the graph has. -/
theorem length_listed_le (g : CallGraph) (rows : Array IdSet) (id : Nat) :
    (g.listed rows id).length ≤ g.symbolCount := by
  have := length_le_of_nodup_of_lt (n := g.symbolCount) (nodup_listed g rows id) (by
    intro x hx
    obtain ⟨s, hs, rfl⟩ := List.mem_map.1 hx
    exact id_lt_of_mem_listed hs)
  simpa using this

theorem id_lt_of_mem_calleesOf {g : CallGraph} {a b : Symbol} (h : b ∈ g.calleesOf a) :
    b.id < g.symbolCount :=
  id_lt_of_mem_listed h

theorem length_calleesOf_le (g : CallGraph) (a : Symbol) :
    (g.calleesOf a).length ≤ g.symbolCount :=
  length_listed_le g g.callees a.id

end CallGraph

end CallAtlas
