/-
# `CallAtlas.Proofs.Regex.Matching` — matching by sets of positions is matching

`Expr.isMatch` sends sets of positions through the plan of an expression;
`Expr.Spans` says which stretches the expression matches.  The image of a set
are the ends of the stretches that start in it (`carries_plan`), and so a text
matches exactly if some stretch of it does (`isMatch_iff`).

The operators of plans stop early, and the repetition without an upper bound
makes no more rounds than the text has positions.  Both are right since a
stretch never ends before it starts: of a repetition, the rounds that do not move
can be left out, and what is left moves at most once for each position
(`exists_iterate_le`).

A repetition must not ask for more rounds than it allows (`CountsFit`).  Of such
an expression no stretch is one, but the plan would give what the least number of
rounds leads to.
-/
import CallAtlas.Regex.Matcher
import Mathlib.Data.Nat.Bitwise

namespace CallAtlas.Regex

/-! ## Steps of relations -/

/-- A relation between the positions of a text of some length that does not lead back. -/
def Forward (length : Nat) (R : Nat → Nat → Prop) : Prop :=
  ∀ i j, R i j → i ≤ length → i ≤ j ∧ j ≤ length

section Iterate

variable {length : Nat} {R : Nat → Nat → Prop}

theorem iterate_add {m n i j : Nat} :
    Iterate R (m + n) i j ↔ ∃ k, Iterate R m i k ∧ Iterate R n k j := by
  induction m generalizing i with
  | zero =>
    rw [Nat.zero_add]
    constructor
    · exact fun h => ⟨i, rfl, h⟩
    · rintro ⟨k, rfl, h⟩
      exact h
  | succ m ih =>
    rw [Nat.succ_add]
    constructor
    · rintro ⟨k, hstep, hrest⟩
      obtain ⟨l, hfirst, hsecond⟩ := ih.1 hrest
      exact ⟨l, ⟨k, hstep, hfirst⟩, hsecond⟩
    · rintro ⟨l, ⟨k, hstep, hfirst⟩, hsecond⟩
      exact ⟨k, hstep, ih.2 ⟨l, hfirst, hsecond⟩⟩

theorem Forward.iterate (hR : Forward length R) (n : Nat) : Forward length (Iterate R n) := by
  induction n with
  | zero =>
    rintro i j rfl hi
    exact ⟨Nat.le_refl i, hi⟩
  | succ n ih =>
    rintro i j ⟨k, hstep, hrest⟩ hi
    obtain ⟨hik, hk⟩ := hR i k hstep hi
    obtain ⟨hkj, hj⟩ := ih k j hrest hk
    exact ⟨hik.trans hkj, hj⟩

/-- Steps that do not move can be left out, and each of the others moves by one position or
more. -/
theorem exists_iterate_le (hR : Forward length R) {n i j : Nat} (h : Iterate R n i j)
    (hi : i ≤ length) : ∃ m, m ≤ j - i ∧ Iterate R m i j := by
  induction n generalizing i with
  | zero =>
    obtain rfl : i = j := h
    exact ⟨0, Nat.zero_le _, rfl⟩
  | succ n ih =>
    obtain ⟨k, hstep, hrest⟩ := h
    obtain ⟨hik, hk⟩ := hR i k hstep hi
    obtain ⟨hkj, -⟩ := hR.iterate n k j hrest hk
    obtain ⟨m, hm, hshort⟩ := ih hrest hk
    rcases Nat.eq_or_lt_of_le hik with rfl | hlt
    · exact ⟨m, hm, hshort⟩
    · exact ⟨m + 1, by omega, k, hstep, hshort⟩

end Iterate

/-! ## Sets of positions -/

theorem testBit_positions (bs : List Bool) (i : Nat) :
    (positions bs).testBit i = bs[i]?.getD false := by
  induction bs generalizing i with
  | nil => simp [positions]
  | cons b bs ih =>
    cases i with
    | zero => cases b <;> simp [positions, Nat.testBit_zero, Nat.add_mod]
    | succ i =>
      have hhalf : (2 * positions bs + b.toNat) / 2 = positions bs := by
        have := b.toNat_le
        omega
      rw [positions, Nat.testBit_succ, hhalf, ih]
      rfl

/-- A set of positions of a text of some length. -/
def Positions (length s : Nat) : Prop := ∀ i, s.testBit i = true → i ≤ length

/-- A function on sets of positions gives what a relation leads to from the positions of the
set. -/
def Carries (length : Nat) (f : Nat → Nat) (R : Nat → Nat → Prop) : Prop :=
  ∀ s, Positions length s → ∀ j, (f s).testBit j = true ↔ ∃ i, s.testBit i = true ∧ R i j

section Rounds

variable {length : Nat} {f : Nat → Nat} {R : Nat → Nat → Prop} {s : Nat}
variable (hf : Carries length f R) (hR : Forward length R)
include hf

theorem Carries.positions (hR : Forward length R) (hs : Positions length s) :
    Positions length (f s) := by
  intro j hj
  obtain ⟨i, hi, hij⟩ := (hf s hs j).1 hj
  exact (hR i j hij (hs i hi)).2

/-- No number of steps leads out of a set that one step does not lead out of. -/
theorem Carries.mem_of_iterate (hs : Positions length s)
    (hclosed : ∀ j, (f s).testBit j = true → s.testBit j = true) {n i j : Nat}
    (hi : s.testBit i = true) (h : Iterate R n i j) : s.testBit j = true := by
  induction n generalizing i with
  | zero =>
    obtain rfl : i = j := h
    exact hi
  | succ n ih =>
    obtain ⟨k, hstep, hrest⟩ := h
    exact ih (hclosed k ((hf s hs k).2 ⟨i, hi, hstep⟩)) hrest

/-- From a set that is its own image every position is reached in any number of steps. -/
theorem Carries.exists_iterate (hs : Positions length s) (hfixed : f s = s) (n : Nat) {j : Nat}
    (hj : s.testBit j = true) : ∃ i, s.testBit i = true ∧ Iterate R n i j := by
  induction n generalizing j with
  | zero => exact ⟨j, hj, rfl⟩
  | succ n ih =>
    obtain ⟨k, hk, hrest⟩ := ih hj
    rw [← hfixed, hf s hs] at hk
    obtain ⟨i, hi, hstep⟩ := hk
    exact ⟨i, hi, k, hstep, hrest⟩

include hR

theorem Carries.repeated (n : Nat) : Carries length (repeated f n) (Iterate R n) := by
  intro s hs j
  induction n generalizing s with
  | zero => simp [Regex.repeated, Iterate]
  | succ n ih =>
    simp only [Regex.repeated]
    split
    · rename_i hfixed
      constructor
      · exact hf.exists_iterate hs hfixed (n + 1)
      · rintro ⟨i, hi, h⟩
        exact hf.mem_of_iterate hs (fun j hj => hfixed ▸ hj) hi h
    · rw [ih (f s) (hf.positions hR hs)]
      constructor
      · rintro ⟨k, hk, hrest⟩
        obtain ⟨i, hi, hstep⟩ := (hf s hs k).1 hk
        exact ⟨i, hi, k, hstep, hrest⟩
      · rintro ⟨i, hi, k, hstep, hrest⟩
        exact ⟨k, (hf s hs k).2 ⟨i, hi, hstep⟩, hrest⟩

theorem Carries.accumulated (n : Nat) :
    Carries length (accumulated f n) fun i j => ∃ m, m ≤ n ∧ Iterate R m i j := by
  intro s hs j
  induction n generalizing s with
  | zero =>
    simp only [Regex.accumulated, Nat.le_zero]
    constructor
    · exact fun hj => ⟨j, hj, 0, rfl, rfl⟩
    · rintro ⟨i, hi, m, rfl, rfl⟩
      exact hi
  | succ n ih =>
    have hunion : ∀ k,
        (s ||| f s).testBit k = true ↔ s.testBit k = true ∨ (f s).testBit k = true := by
      intro k
      rw [Nat.testBit_or, Bool.or_eq_true]
    simp only [Regex.accumulated]
    split
    · rename_i hclosed
      constructor
      · exact fun hj => ⟨j, hj, 0, Nat.zero_le _, rfl⟩
      · rintro ⟨i, hi, m, -, h⟩
        exact hf.mem_of_iterate hs (fun k hk => hclosed ▸ (hunion k).2 (Or.inr hk)) hi h
    · have hpositions : Positions length (s ||| f s) := by
        intro k hk
        rcases (hunion k).1 hk with hk | hk
        · exact hs k hk
        · exact hf.positions hR hs k hk
      rw [ih _ hpositions]
      constructor
      · rintro ⟨k, hk, m, hm, hrest⟩
        rcases (hunion k).1 hk with hk | hk
        · exact ⟨k, hk, m, Nat.le_succ_of_le hm, hrest⟩
        · obtain ⟨i, hi, hstep⟩ := (hf s hs k).1 hk
          exact ⟨i, hi, m + 1, Nat.succ_le_succ hm, k, hstep, hrest⟩
      · rintro ⟨i, hi, m, hm, h⟩
        cases m with
        | zero => exact ⟨i, (hunion i).2 (Or.inl hi), 0, Nat.zero_le n, h⟩
        | succ m =>
          obtain ⟨k, hstep, hrest⟩ := h
          have hk := (hf s hs k).2 ⟨i, hi, hstep⟩
          exact ⟨k, (hunion k).2 (Or.inr hk), m, Nat.le_of_succ_le_succ hm, hrest⟩

/-- The least number of rounds, and then any number of further ones up to a bound. -/
theorem Carries.rounds (least : Nat) (hs : Positions length s) (n : Nat) {j : Nat} :
    (Regex.accumulated f n (Regex.repeated f least s)).testBit j = true ↔
      ∃ i, s.testBit i = true ∧ ∃ m, m ≤ n ∧ Iterate R (least + m) i j := by
  have hfirst := hf.repeated hR least
  rw [hf.accumulated hR n _ (hfirst.positions (hR.iterate least) hs)]
  constructor
  · rintro ⟨k, hk, m, hm, hmore⟩
    obtain ⟨i, hi, hleast⟩ := (hfirst s hs k).1 hk
    exact ⟨i, hi, m, hm, iterate_add.2 ⟨k, hleast, hmore⟩⟩
  · rintro ⟨i, hi, m, hm, h⟩
    obtain ⟨k, hleast, hmore⟩ := iterate_add.1 h
    exact ⟨k, (hfirst s hs k).2 ⟨i, hi, hleast⟩, m, hm, hmore⟩

/-- Rounds between two numbers. -/
theorem Carries.atMost {least most : Nat} (hle : least ≤ most) :
    Carries length (fun s => Regex.accumulated f (most - least) (Regex.repeated f least s))
      fun i j => ∃ n, least ≤ n ∧ n ≤ most ∧ Iterate R n i j := by
  intro s hs j
  rw [hf.rounds hR least hs]
  refine exists_congr fun i => and_congr_right fun _ => ?_
  constructor
  · rintro ⟨m, hm, h⟩
    exact ⟨least + m, Nat.le_add_right least m, by omega, h⟩
  · rintro ⟨n, hn, hbound, h⟩
    obtain ⟨m, rfl⟩ := Nat.exists_eq_add_of_le hn
    exact ⟨m, by omega, h⟩

/-- Any number of rounds from some number on: of the further ones no more are needed than the
text has positions. -/
theorem Carries.atLeast (least : Nat) {size : Nat} (hsize : length ≤ size) :
    Carries length (fun s => Regex.accumulated f size (Regex.repeated f least s))
      fun i j => ∃ n, least ≤ n ∧ Iterate R n i j := by
  intro s hs j
  rw [hf.rounds hR least hs]
  refine exists_congr fun i => and_congr_right fun hi => ?_
  constructor
  · rintro ⟨m, -, h⟩
    exact ⟨least + m, Nat.le_add_right least m, h⟩
  · rintro ⟨n, hn, h⟩
    obtain ⟨m, rfl⟩ := Nat.exists_eq_add_of_le hn
    obtain ⟨k, hleast, hmore⟩ := iterate_add.1 h
    have hk := (hR.iterate least i k hleast (hs i hi)).2
    have hj := (hR.iterate m k j hmore hk).2
    obtain ⟨m', hm', hshort⟩ := exists_iterate_le hR hmore hk
    exact ⟨m', by omega, iterate_add.2 ⟨k, hleast, hshort⟩⟩

end Rounds

/-! ## Neighbours -/

theorem getElem?_neighbours (before : Option Char) (text : List Char) {i : Nat}
    (hi : i ≤ text.length) :
    (neighbours before text)[i]? =
      some (if i = 0 then before else charBefore text i, text[i]?) := by
  induction text generalizing before i with
  | nil =>
    obtain rfl : i = 0 := Nat.le_zero.1 hi
    rfl
  | cons c text ih =>
    cases i with
    | zero => rfl
    | succ i =>
      rw [neighbours, List.getElem?_cons_succ, ih (some c) (Nat.le_of_succ_le_succ hi)]
      cases i with
      | zero => rfl
      | succ i => rfl

namespace Expr

/-! ## Plans -/

/-- No repetition asks for more rounds than it allows. -/
def CountsFit : Expr → Prop
  | .empty | .chars _ | .look _ => True
  | .seq a b => CountsFit a ∧ CountsFit b
  | .alt a b => CountsFit a ∧ CountsFit b
  | .rep e least most _ => CountsFit e ∧ ∀ m, most = some m → least ≤ m
  | .group _ e => CountsFit e

/-- A stretch that starts in the text does not end before it starts, nor outside the text. -/
theorem forward_spans (text : List Char) (e : Expr) : Forward text.length (e.Spans text) := by
  induction e with
  | empty =>
    rintro i j rfl hi
    exact ⟨Nat.le_refl i, hi⟩
  | chars set =>
    rintro i j ⟨rfl, c, hc, -⟩ -
    exact ⟨Nat.le_succ i, (List.getElem?_eq_some_iff.1 hc).1⟩
  | look l =>
    rintro i j ⟨rfl, -⟩ hi
    exact ⟨Nat.le_refl i, hi⟩
  | seq a b iha ihb =>
    rintro i j ⟨k, ha, hb⟩ hi
    obtain ⟨hik, hk⟩ := iha i k ha hi
    obtain ⟨hkj, hj⟩ := ihb k j hb hk
    exact ⟨hik.trans hkj, hj⟩
  | alt a b iha ihb =>
    rintro i j (ha | hb) hi
    · exact iha i j ha hi
    · exact ihb i j hb hi
  | rep e least most greedy ih =>
    rintro i j ⟨n, -, -, h⟩ hi
    exact ih.iterate n i j h hi
  | group remembered e ih => exact ih

/-- The plan of an expression gives the ends of the stretches that the expression matches. -/
theorem carries_plan (text : List Char) {e : Expr} (he : e.CountsFit) :
    Carries text.length ((e.plan text).image (text.length + 1)) (e.Spans text) := by
  induction e with
  | empty =>
    intro s _ j
    simp [plan, Plan.image, Spans]
  | chars set =>
    intro s _ j
    have hmask : ∀ i, (positions (text.map set.contains)).testBit i = true ↔
        ∃ c, text[i]? = some c ∧ set.contains c = true := by
      intro i
      rw [testBit_positions, List.getElem?_map]
      cases text[i]? <;> simp
    simp only [plan, Plan.image, Spans, Nat.testBit_shiftLeft, Nat.testBit_and, Bool.and_eq_true,
      decide_eq_true_eq, hmask]
    constructor
    · rintro ⟨hj, hi, hc⟩
      exact ⟨j - 1, hi, by omega, hc⟩
    · rintro ⟨i, hi, rfl, hc⟩
      exact ⟨Nat.le_add_left 1 i, hi, hc⟩
  | look l =>
    intro s hs j
    have hmask : ∀ i, i ≤ text.length →
        ((positions ((neighbours none text).map fun p => l.holds p.1 p.2)).testBit i = true ↔
          l.holds (charBefore text i) text[i]? = true) := by
      intro i hi
      rw [testBit_positions, List.getElem?_map, getElem?_neighbours none text hi]
      cases i <;> simp [charBefore]
    simp only [plan, Plan.image, Spans, Nat.testBit_and, Bool.and_eq_true]
    constructor
    · rintro ⟨hj, hlook⟩
      exact ⟨j, hj, rfl, (hmask j (hs j hj)).1 hlook⟩
    · rintro ⟨i, hi, rfl, hlook⟩
      exact ⟨hi, (hmask i (hs i hi)).2 hlook⟩
  | seq a b iha ihb =>
    intro s hs j
    have hmiddle := (iha he.1).positions (forward_spans text a) hs
    simp only [plan, Plan.image, Spans]
    rw [ihb he.2 _ hmiddle]
    constructor
    · rintro ⟨k, hk, hb⟩
      obtain ⟨i, hi, ha⟩ := (iha he.1 s hs k).1 hk
      exact ⟨i, hi, k, ha, hb⟩
    · rintro ⟨i, hi, k, ha, hb⟩
      exact ⟨k, (iha he.1 s hs k).2 ⟨i, hi, ha⟩, hb⟩
  | alt a b iha ihb =>
    intro s hs j
    simp only [plan, Plan.image, Spans, Nat.testBit_or, Bool.or_eq_true]
    rw [iha he.1 s hs, ihb he.2 s hs]
    constructor
    · rintro (⟨i, hi, h⟩ | ⟨i, hi, h⟩)
      · exact ⟨i, hi, Or.inl h⟩
      · exact ⟨i, hi, Or.inr h⟩
    · rintro ⟨i, hi, h | h⟩
      · exact Or.inl ⟨i, hi, h⟩
      · exact Or.inr ⟨i, hi, h⟩
  | rep e least most greedy ih =>
    intro s hs j
    have hforward := forward_spans text e
    cases most with
    | some most =>
      simpa [plan, Plan.image, Spans] using
        (ih he.1).atMost hforward (he.2 most rfl) s hs j
    | none =>
      simpa [plan, Plan.image, Spans] using
        (ih he.1).atLeast hforward least (Nat.le_succ text.length) s hs j
  | group remembered e ih => exact ih he

theorem positions_replicate_true (length : Nat) (i : Nat) :
    (positions (List.replicate (length + 1) true)).testBit i = true ↔ i ≤ length := by
  rw [testBit_positions, List.getElem?_replicate]
  split <;> simp <;> omega

/-- An expression is found in a text exactly if it matches some stretch of it. -/
theorem isMatch_iff {e : Expr} (he : e.CountsFit) (text : List Char) :
    e.isMatch text = true ↔ e.MatchesSomewhere text := by
  have hall : Positions text.length (positions (List.replicate (text.length + 1) true)) :=
    fun i hi => (positions_replicate_true text.length i).1 hi
  have himage := carries_plan text he _ hall
  simp only [isMatch, bne_iff_ne]
  constructor
  · intro hne
    obtain ⟨j, hj⟩ := Nat.exists_testBit_of_ne_zero hne
    obtain ⟨i, hi, hspan⟩ := (himage j).1 hj
    exact ⟨i, j, hall i hi, hspan⟩
  · rintro ⟨i, j, hi, hspan⟩ hzero
    have hj := (himage j).2 ⟨i, (positions_replicate_true text.length i).2 hi, hspan⟩
    rw [hzero, Nat.zero_testBit] at hj
    cases hj

end Expr

end CallAtlas.Regex
