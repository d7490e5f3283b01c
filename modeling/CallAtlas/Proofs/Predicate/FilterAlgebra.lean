/-
# `CallAtlas.Proofs.Predicate.FilterAlgebra` — connectives of predicates, operations on sets

A predicate that was asked about several graphs holds notes of the last ones.  As
long as the graphs stay as they are the notes say what the predicate would find out
again (`Used.faithful`), so it answers like a new predicate (`Used.holds_forget`),
and a new conjunction, disjunction or negation answers like the operation on the
answers.  The filter by it is then the intersection, the union or the difference of
the filters by the operands, whatever each of the predicates has noted before.
-/
import CallAtlas.Proofs.Graph.Building
import CallAtlas.Proofs.OrderedSet
import CallAtlas.Proofs.Outcome
import CallAtlas.Proofs.Predicate.Noting

namespace CallAtlas

/-- The graph is one of some graphs that stay as they are, except that it may have warned. -/
def CallGraph.Among (graphs : Nat → CallGraph) (g : CallGraph) : Prop :=
  ∃ b, g = (graphs g.number).withWarned b

theorem CallGraph.Among.exists_withWarned {graphs : Nat → CallGraph} {g h : CallGraph}
    (hg : g.Among graphs) (hh : h.Among graphs) (hnumber : g.number = h.number) :
    ∃ b, h = g.withWarned b := by
  obtain ⟨b, hb⟩ := hg
  obtain ⟨c, hc⟩ := hh
  refine ⟨c, ?_⟩
  rw [hc, hb, hnumber]
  rfl

namespace Target

/-- The target without what was noted. -/
def forget : Target → Target
  | .symbols graph ids => .symbols graph ids
  | .named pattern _ => .named pattern none

theorem forget_forget (t : Target) : t.forget.forget = t.forget := by
  cases t <;> rfl

theorem forget_note (g : CallGraph) (t : Target) : (t.note g).forget = t.forget := by
  cases t with
  | symbols n ids => rfl
  | named r noted =>
    cases noted with
    | none => rfl
    | some kept =>
      unfold note
      dsimp only
      split <;> rfl

theorem note_withWarned (g : CallGraph) (b : Bool) (t : Target) :
    t.note (g.withWarned b) = t.note g := by
  cases t <;> rfl

theorem note_of_ne {g h : CallGraph} (hne : g.number ≠ h.number) (t : Target) :
    (t.note g).note h = t.forget.note h := by
  cases t with
  | symbols n ids => rfl
  | named r noted =>
    cases noted with
    | none => simp [note, forget, hne]
    | some kept =>
      by_cases hkept : kept.1 = g.number
      · simp [note, forget, hkept, hne]
      · simp [note, forget, hkept, hne]

/-- Whether the target is given by a pattern. -/
def hasPattern : Target → Bool
  | .symbols _ _ => false
  | .named _ _ => true

/-- Of the targets that have noted a graph those with a pattern are resolved for it, and of the
others those of the graph. -/
theorem resolvedFor_note (g : CallGraph) (t : Target) :
    (t.note g).resolvedFor g = (t.hasPattern || t.resolvedFor g) := by
  cases t with
  | symbols n ids => rfl
  | named r noted =>
    cases noted with
    | none => simp [note, resolvedFor, hasPattern]
    | some kept =>
      by_cases h : kept.1 = g.number
      · simp [note, resolvedFor, hasPattern, h]
      · simp [note, resolvedFor, hasPattern, h]

/-- What is noted is what would be noted again, whichever of the graphs is asked about. -/
def Faithful (graphs : Nat → CallGraph) (t : Target) : Prop :=
  ∀ g, g.Among graphs → t.note g = t.forget.note g

theorem Faithful.note {graphs : Nat → CallGraph} {t : Target} (h : t.Faithful graphs)
    {g : CallGraph} (hg : g.Among graphs) : (t.note g).Faithful graphs := by
  intro g' hg'
  rw [forget_note]
  by_cases hnumber : g.number = g'.number
  · obtain ⟨b, rfl⟩ := hg.exists_withWarned hg' hnumber
    rw [note_withWarned, note_withWarned, note_note]
    exact h g hg
  · exact note_of_ne hnumber t

end Target

namespace Predicate

/-! ## Predicates that have been asked -/

/-- The predicate without what was noted. -/
def forget (p : Predicate) : Predicate := p.mapTargets Target.forget

/-- Asking does not change what a predicate is apart from its notes. -/
theorem forget_eval (g : CallGraph) (item : Item) (p : Predicate) :
    (p.eval g item).predicate.forget = p.forget := by
  rcases predicate_eval_cases g item p with h | h
  · rw [h, forget, mapTargets_mapTargets]
    exact mapTargets_congr fun t _ => Target.forget_note g t
  · rw [h]

/-- The predicate is new, or was joined from others, and was asked about some graphs since and
in between, any number of times and in any order. -/
inductive Used (graphs : Nat → CallGraph) : Predicate → Prop
  | made {p : Predicate} (h : p.forget = p) : Used graphs p
  | and {p q : Predicate} (hp : Used graphs p) (hq : Used graphs q) : Used graphs (p.and q)
  | or {p q : Predicate} (hp : Used graphs p) (hq : Used graphs q) : Used graphs (p.or q)
  | not {p : Predicate} (hp : Used graphs p) : Used graphs p.not
  | asked {p : Predicate} {g : CallGraph} (hp : Used graphs p) (hg : g.Among graphs)
      (item : Item) : Used graphs (p.eval g item).predicate

variable {graphs : Nat → CallGraph}

/-- A filter asks its predicate of one item after the other. -/
theorem Used.keep {α : Type} {p : Predicate} (hp : p.Used graphs) {g : CallGraph}
    (hg : g.Among graphs) (item : α → Item) (as : List α) : (p.keep g item as).2.Used graphs := by
  induction as generalizing p with
  | nil => exact hp
  | cons a as ih => exact ih (hp.asked hg (item a))

/-- Whatever it was asked, a predicate has noted nothing but what it would note again. -/
theorem Used.faithful {p : Predicate} (hp : p.Used graphs) : ∀ t ∈ p.targets, t.Faithful graphs := by
  induction hp with
  | @made p h =>
    intro t ht
    rw [← h, forget, targets_mapTargets] at ht
    obtain ⟨u, -, rfl⟩ := List.mem_map.1 ht
    exact fun g _ => by rw [Target.forget_forget]
  | and _ _ ihp ihq => exact fun t ht => (List.mem_append.1 ht).elim (ihp t) (ihq t)
  | or _ _ ihp ihq => exact fun t ht => (List.mem_append.1 ht).elim (ihp t) (ihq t)
  | not _ ih => exact ih
  | @asked p g _ hg item ih =>
    rcases predicate_eval_cases g item p with h | h
    · intro t ht
      rw [h, targets_mapTargets] at ht
      obtain ⟨u, hu, rfl⟩ := List.mem_map.1 ht
      exact (ih u hu).note hg
    · rw [h]
      exact ih

/-- A predicate that was asked about the graphs answers like a new one. -/
theorem Used.holds_forget {p : Predicate} (hp : p.Used graphs) {g : CallGraph}
    (hg : g.Among graphs) (item : Item) : p.forget.holds g item = p.holds g item := by
  have hnotes : p.mapTargets (Target.note g) = p.forget.mapTargets (Target.note g) := by
    rw [forget, mapTargets_mapTargets]
    exact mapTargets_congr fun t ht => hp.faithful t ht g hg
  rw [← holds_mapTargets_note, ← hnotes, holds_mapTargets_note]

section Connectives

variable {p q r : Predicate} (hp : p.Used graphs) (hq : q.Used graphs) (hr : r.Used graphs)
variable {g : CallGraph} (hg : g.Among graphs)
include hp hr hg

theorem Used.holds_eq_not (h : r.forget = p.forget.not) (item : Item) :
    r.holds g item = !p.holds g item := by
  rw [← hr.holds_forget hg, h, holds_not, hp.holds_forget hg]

include hq

theorem Used.holds_eq_and (h : r.forget = p.forget.and q.forget) (item : Item) :
    r.holds g item = (p.holds g item && q.holds g item) := by
  rw [← hr.holds_forget hg, h, holds_and, hp.holds_forget hg, hq.holds_forget hg]

theorem Used.holds_eq_or (h : r.forget = p.forget.or q.forget) (item : Item) :
    r.holds g item = (p.holds g item || q.holds g item) := by
  rw [← hr.holds_forget hg, h, holds_or, hp.holds_forget hg, hq.holds_forget hg]

end Connectives

/-! ## Filters -/

/-- Filters by a conjunction, a disjunction and a negation are the intersection, the union and
the difference of filters, whatever the predicates have noted of graphs that stay as they are,
and a filter keeps the order.  A question about a symbol, whatever it is answered, leaves all
patterns in a predicate resolved for the graph, and one about a path leaves the predicate as it
is. -/
theorem filter_of_connectives {p q conj disj neg : Predicate} (hp : p.Used graphs)
    (hq : q.Used graphs) (hconj : conj.Used graphs) (hdisj : disj.Used graphs)
    (hneg : neg.Used graphs) (hand : conj.forget = p.forget.and q.forget)
    (hor : disj.forget = p.forget.or q.forget) (hnot : neg.forget = p.forget.not) :
    (∀ s : SymbolSet, s.graph.Among graphs →
      (s.filter conj).1.equal ((s.filter p).1.inter (s.filter q).1) = true ∧
      (s.filter disj).1.equal ((s.filter p).1.union (s.filter q).1) = true ∧
      (s.filter neg).1.equal (s.diff (s.filter p).1) = true ∧
      (s.filter p).1.toList.Sublist s.toList) ∧
    (∀ s : PathSet, s.graph.Among graphs →
      (s.filter conj).1.equal ((s.filter p).1.inter (s.filter q).1) = true ∧
      (s.filter disj).1.equal ((s.filter p).1.union (s.filter q).1) = true ∧
      (s.filter neg).1.equal (s.diff (s.filter p).1) = true ∧
      (s.filter p).1.toList.Sublist s.toList) ∧
    (∀ (r : Predicate) (g : CallGraph) (a : Symbol),
      (r.eval g (.symbol a)).predicate.targets = r.targets.map (Target.note g) ∧
      (r.eval g (.symbol a)).predicate.resolvedFor g =
        r.targets.map fun t => t.hasPattern || t.resolvedFor g) ∧
    ∀ (r : Predicate) (g : CallGraph) (path : List Symbol),
      (r.eval g (.path path)).predicate = r := by
  refine ⟨?_, ?_, ?_, fun r g path => predicate_eval_path g path r⟩
  · intro s hs
    have hholds_and := fun a => hp.holds_eq_and hq hconj hs hand (.symbol a)
    have hholds_or := fun a => hp.holds_eq_or hq hdisj hs hor (.symbol a)
    have hholds_not := fun a => hp.holds_eq_not hneg hs hnot (.symbol a)
    refine ⟨?_, ?_, ?_, s.filter_sublist p⟩
    all_goals simp only [SymbolSet.filter_eq_derive, hholds_and, hholds_or, hholds_not]
    · exact Bool.and_eq_true_iff.2 ⟨beq_self_eq_true _, OrderedSet.sameKeys_filter_and _ _ _⟩
    · exact Bool.and_eq_true_iff.2 ⟨beq_self_eq_true _, OrderedSet.sameKeys_filter_or _ _ _⟩
    · exact Bool.and_eq_true_iff.2 ⟨beq_self_eq_true _, OrderedSet.sameKeys_filter_not _ _⟩
  · intro s hs
    have hholds_and := fun a : CallPath => hp.holds_eq_and hq hconj hs hand (.path a.symbols)
    have hholds_or := fun a : CallPath => hp.holds_eq_or hq hdisj hs hor (.path a.symbols)
    have hholds_not := fun a : CallPath => hp.holds_eq_not hneg hs hnot (.path a.symbols)
    refine ⟨?_, ?_, ?_, s.filter_sublist p⟩
    all_goals simp only [PathSet.filter_eq_derive, hholds_and, hholds_or, hholds_not]
    · exact Bool.and_eq_true_iff.2 ⟨beq_self_eq_true _, OrderedSet.sameKeys_filter_and _ _ _⟩
    · exact Bool.and_eq_true_iff.2 ⟨beq_self_eq_true _, OrderedSet.sameKeys_filter_or _ _ _⟩
    · exact Bool.and_eq_true_iff.2 ⟨beq_self_eq_true _, OrderedSet.sameKeys_filter_not _ _⟩
  · intro r g a
    rw [predicate_eval_symbol, resolvedFor_eq, targets_mapTargets, List.map_map]
    exact ⟨rfl, List.map_congr_left fun t _ => Target.resolvedFor_note g t⟩

/-- Two graphs that can be asked about in turn, and no other. -/
def pairAndClock : Nat → CallGraph
  | 0 => .mutualPair .standard
  | 1 => .clockwork
  | n => .new n .standard

/-- The operand was asked about the other graph before, its conjunction with a mark was asked
about this one, and the disjunction and the negation are new. -/
theorem filter_of_connectives_mutualPair :
    ∃ r, Pattern.wholeName "pong" = .ok r ∧
      let calls : Predicate := .related .callees (.named r none)
      let asked := (calls.eval .clockwork (.symbol CallGraph.tick)).predicate
      let conj :=
        ((calls.and isVariable).eval (.mutualPair .standard) (.symbol CallGraph.ping)).predicate
      let s : SymbolSet := .whole (.mutualPair .standard)
      (s.filter conj).1.equal ((s.filter asked).1.inter (s.filter isVariable).1) = true ∧
      (s.filter (calls.or isVariable)).1.equal
        ((s.filter asked).1.union (s.filter isVariable).1) = true ∧
      (s.filter calls.not).1.equal (s.diff (s.filter asked).1) = true := by
  have hok : (Pattern.wholeName "pong").toOption.isSome = true := by decide +kernel
  obtain ⟨r, hr⟩ := Option.isSome_iff_exists.1 hok
  have hpair : (CallGraph.mutualPair .standard).Among pairAndClock := ⟨false, rfl⟩
  have hclock : CallGraph.clockwork.Among pairAndClock := ⟨false, rfl⟩
  have hcalls : (Predicate.related .callees (.named r none)).Used pairAndClock := .made rfl
  have hmark : isVariable.Used pairAndClock := .made rfl
  obtain ⟨hsets, -⟩ := filter_of_connectives (hcalls.asked hclock (.symbol CallGraph.tick)) hmark
    ((hcalls.and hmark).asked hpair (.symbol CallGraph.ping)) (hcalls.or hmark) hcalls.not
    (by rw [forget_eval, forget_eval]; rfl) (by rw [forget_eval]; rfl) (by rw [forget_eval]; rfl)
  obtain ⟨hand, hor, hnot, -⟩ := hsets (.whole (.mutualPair .standard)) hpair
  exact ⟨r, Outcome.eq_ok_of_toOption_eq_some hr, hand, hor, hnot⟩

end Predicate

end CallAtlas
