/-
# `CallAtlas.Proofs.Graph.Chain` — calls, chains of calls, distances

`CallGraph.Calls` is the relation that the rows of a graph stand for: both
symbols are the graph's own and the first calls the second.  `Chain next n a b`
says that `n` steps of a relation lead from `a` to `b`; with the calls for the
relation it is what closures and path searches are measured against.

A chain that comes back to a symbol can be cut short, so wherever a chain leads
there is one that visits no symbol twice and is no longer
(`Chain.exists_nodup`).
-/
import CallAtlas.Graph.Lemmas
import Mathlib.Data.List.Chain
import Mathlib.Data.List.Nodup
import Mathlib.Data.Nat.Find

namespace CallAtlas

/-! ## Chains of a relation -/

/-- `Chain next n a b`: `n` steps of `next` lead from `a` to `b`. -/
inductive Chain (next : Symbol → Symbol → Prop) : Nat → Symbol → Symbol → Prop
  | nil (a : Symbol) : Chain next 0 a a
  | cons {n : Nat} {a b c : Symbol} : next a b → Chain next n b c → Chain next (n + 1) a c

namespace Chain

variable {next : Symbol → Symbol → Prop}

theorem concat {n : Nat} {a b c : Symbol} (h : Chain next n a b) (hc : next b c) :
    Chain next (n + 1) a c := by
  induction h with
  | nil a => exact .cons hc (.nil c)
  | cons hab _ ih => exact .cons hab (ih hc)

theorem mono {next' : Symbol → Symbol → Prop} (hsub : ∀ a b, next a b → next' a b) {n : Nat}
    {a b : Symbol} (h : Chain next n a b) : Chain next' n a b := by
  induction h with
  | nil a => exact .nil a
  | cons hab _ ih => exact .cons (hsub _ _ hab) ih

/-- A chain read from its end is a chain of the converse relation. -/
theorem reverse {n : Nat} {a b : Symbol} (h : Chain next n a b) :
    Chain (fun x y => next y x) n b a := by
  induction h with
  | nil a => exact .nil a
  | cons hab _ ih => exact ih.concat hab

theorem reverse_iff {n : Nat} {a b : Symbol} :
    Chain (fun x y => next y x) n b a ↔ Chain next n a b :=
  ⟨reverse, reverse⟩

theorem exists_last {n : Nat} {a c : Symbol} (h : Chain next (n + 1) a c) :
    ∃ b, Chain next n a b ∧ next b c := by
  cases h.reverse with
  | cons hbc hrest => exact ⟨_, hrest.reverse, hbc⟩

/-- Symbols each related to the next are a chain from the first to the last. -/
theorem of_isChain {l : List Symbol} {a b : Symbol} (h : (a :: l).IsChain next)
    (hb : (a :: l).getLast? = some b) : Chain next l.length a b := by
  induction l generalizing a with
  | nil =>
    have hab : a = b := by simpa using hb
    exact hab ▸ .nil a
  | cons c l ih =>
    rw [List.isChain_cons_cons] at h
    rw [List.getLast?_cons_cons] at hb
    exact .cons h.1 (ih h.2 hb)

/-- Where a chain leads, symbols each related to the next lead without a repetition. -/
theorem exists_nodup {n : Nat} {a b : Symbol} (h : Chain next n a b) :
    ∃ l : List Symbol, (a :: l).IsChain next ∧ (a :: l).getLast? = some b ∧ (a :: l).Nodup ∧
      l.length ≤ n := by
  induction h with
  | nil a => exact ⟨[], .singleton a, rfl, List.nodup_singleton a, Nat.le_refl 0⟩
  | @cons n a b c hab _ ih =>
    obtain ⟨l, hchain, hlast, hnodup, hlen⟩ := ih
    by_cases ha : a ∈ b :: l
    · -- the chain comes back to `a`: go on from there
      obtain ⟨before, after, hsplit⟩ := List.append_of_mem ha
      rw [hsplit] at hchain hlast hnodup
      refine ⟨after, hchain.right_of_append, ?_, hnodup.of_append_right, ?_⟩
      · simpa [List.getLast?_append] using hlast
      · have := congrArg List.length hsplit
        simp only [List.length_cons, List.length_append] at this
        omega
    · refine ⟨b :: l, List.isChain_cons_cons.2 ⟨hab, hchain⟩, ?_, List.nodup_cons.2 ⟨ha, hnodup⟩, ?_⟩
      · rw [List.getLast?_cons_cons]
        exact hlast
      · simpa using hlen

end Chain

/-! ## Calls -/

namespace CallGraph

/-- The symbol is one of the graph. -/
def Has (g : CallGraph) (a : Symbol) : Prop := g.symbol? a.id = some a

/-- Both symbols are of the graph, and the first calls the second. -/
def Calls (g : CallGraph) (a b : Symbol) : Prop :=
  g.Has a ∧ g.Has b ∧ g.hasCall a.id b.id = true

instance (g : CallGraph) (a : Symbol) : Decidable (g.Has a) :=
  inferInstanceAs (Decidable (g.symbol? a.id = some a))

instance (g : CallGraph) (a b : Symbol) : Decidable (g.Calls a b) :=
  inferInstanceAs (Decidable (_ ∧ _ ∧ _))

/-- The least number of calls that lead from `a` to `b`. -/
def Distance (g : CallGraph) (a b : Symbol) (d : Nat) : Prop :=
  Chain g.Calls d a b ∧ ∀ n, Chain g.Calls n a b → d ≤ n

variable {g : CallGraph}

theorem has_of_symbol? {id : Nat} {a : Symbol} (h : g.symbol? id = some a) : g.Has a := by
  unfold Has
  rw [id_of_symbol? h, h]

theorem Has.eq_of_id_eq {a b : Symbol} (ha : g.Has a) (hb : g.Has b) (h : a.id = b.id) : a = b := by
  unfold Has at ha hb
  rw [h, hb] at ha
  exact (Option.some.inj ha).symm

theorem Has.id_lt {a : Symbol} (h : g.Has a) : a.id < g.symbolCount := lt_of_symbol? h

theorem mem_symbols {a : Symbol} : a ∈ g.symbols ↔ g.Has a := by
  unfold symbols
  rw [List.mem_filterMap]
  constructor
  · rintro ⟨id, -, h⟩
    exact has_of_symbol? h
  · intro h
    exact ⟨a.id, List.mem_range.2 h.id_lt, h⟩

/-- The identities in a row; none if there is no such row. -/
def idsAt (rows : Array IdSet) (id : Nat) : List Nat := rows[id]?.elim [] OrderedSet.toList

theorem mem_listed {rows : Array IdSet} {id : Nat} {b : Symbol} :
    b ∈ g.listed rows id ↔ g.Has b ∧ b.id ∈ idsAt rows id := by
  unfold listed idsAt
  cases rows[id]? with
  | none => simp
  | some row =>
    simp only [List.mem_filterMap, Option.elim_some]
    constructor
    · rintro ⟨j, hj, h⟩
      have hid : b.id = j := id_of_symbol? h
      exact ⟨has_of_symbol? h, hid ▸ hj⟩
    · rintro ⟨hb, hmem⟩
      exact ⟨b.id, hmem, hb⟩

theorem hasCall_iff {i j : Nat} : g.hasCall i j = true ↔ j ∈ idsAt g.callees i := by
  unfold hasCall idsAt
  cases g.callees[i]? with
  | none => simp
  | some row =>
    simp only [Option.elim_some]
    rw [OrderedSet.hasKey_iff]
    simp

theorem mem_calleesOf {a b : Symbol} :
    b ∈ g.calleesOf a ↔ g.Has b ∧ g.hasCall a.id b.id = true := by
  unfold calleesOf
  rw [mem_listed, hasCall_iff]

theorem calls_iff {a b : Symbol} (ha : g.Has a) : g.Calls a b ↔ b ∈ g.calleesOf a := by
  rw [mem_calleesOf]
  exact and_iff_right ha

theorem exists_distance {n : Nat} {a b : Symbol} (h : Chain g.Calls n a b) :
    ∃ d, g.Distance a b d ∧ d ≤ n := by
  classical
  have hex : ∃ n, Chain g.Calls n a b := ⟨n, h⟩
  exact ⟨Nat.find hex, ⟨Nat.find_spec hex, fun _ hm => Nat.find_min' hex hm⟩, Nat.find_min' hex h⟩

end CallGraph

end CallAtlas
