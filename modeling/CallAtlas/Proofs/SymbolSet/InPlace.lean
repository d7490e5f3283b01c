/-
# `CallAtlas.Proofs.SymbolSet.InPlace` — changes in place are the operations on sets

Union, intersection and difference make a set of two, and each of them can be done in
place as well.  The two ways are written differently: the one chains and filters members
into a set, the other inserts and removes.  They come to the same all the same, with
operands of any graph: the same members in the same order, of one identity that of the left
operand, and the same graph and universe (`SymbolSet.Matches`).

Sets that match go on matching, whatever is done to both in place (`Matches.run`), so it
does not matter which way was taken.  What they keep of their callees and callers may differ.
-/
import CallAtlas.Proofs.SymbolSet.Foreign
import CallAtlas.Proofs.SymbolSet.Freshness
import CallAtlas.Proofs.SymbolSet.Sorting

namespace CallAtlas

namespace SymbolSet

variable {s t : SymbolSet}

/-! ## Members -/

theorem toList_union (s t : SymbolSet) :
    (s.union t).toList =
      s.toList ++ t.toList.filter fun b => b.id ∉ s.toList.map Symbol.id := by
  refine (s.members.toList_union t.members).trans ?_
  simp only [OrderedSet.contains_eq_decide, decide_not]
  rfl

theorem toList_inter (s t : SymbolSet) :
    (s.inter t).toList = s.toList.filter fun a => a.id ∈ t.toList.map Symbol.id := by
  refine (s.members.toList_inter t.members).trans ?_
  exact List.filter_congr fun a _ => t.members.contains_eq_decide a

theorem toList_diff (s t : SymbolSet) :
    (s.diff t).toList = s.toList.filter fun a => a.id ∉ t.toList.map Symbol.id := by
  refine (s.members.toList_diff t.members).trans ?_
  simp only [OrderedSet.contains_eq_decide, decide_not]
  rfl

/-! ## Removing the last member -/

/-- There is no member and the set stays as it is, or the last one goes. -/
theorem pop_eq (s : SymbolSet) :
    (s.toList = [] ∧ s.pop = .error (.emptyCollection "pop") ∧ SetStep.pop.after s = s) ∨
      ∃ a rest, s.pop = .ok (a, rest) ∧ SetStep.pop.after s = rest ∧
        s.toList = rest.toList ++ [a] ∧ rest.graph = s.graph ∧ rest.ambient = s.ambient := by
  cases hpop : s.members.pop? with
  | none =>
    have herror : s.pop = .error (.emptyCollection "pop") := by rw [pop, hpop]
    exact Or.inl ⟨s.members.pop?_eq_none_iff.1 hpop, herror, by rw [SetStep.after, herror]⟩
  | some popped =>
    obtain ⟨a, members⟩ := popped
    have hok : s.pop = .ok (a, { s with members, calleesCache := none, callersCache := none }) := by
      rw [pop, hpop]
    exact Or.inr ⟨a, _, hok, by rw [SetStep.after, hok], OrderedSet.pop?_eq_some hpop, rfl, rfl⟩

theorem toList_after_pop (s : SymbolSet) : (SetStep.pop.after s).toList = s.toList.dropLast := by
  rcases s.pop_eq with ⟨hnil, -, hafter⟩ | ⟨a, rest, -, hafter, hlist, -⟩
  · rw [hafter, hnil, List.dropLast_nil]
  · rw [hafter, hlist, List.dropLast_concat]

/-! ## Sets that match -/

/-- The two sets have the same members in the same order, of one graph and with one universe. -/
structure Matches (s t : SymbolSet) : Prop where
  graph : s.graph = t.graph
  toList : s.toList = t.toList
  ambient : s.ambient = t.ambient

theorem matches_unionWith (s t : SymbolSet) : (s.unionWith t).Matches (s.union t) :=
  ⟨s.graph_replace _, s.toList_unionWith t, s.ambient_replace _⟩

theorem matches_interWith (s t : SymbolSet) : (s.interWith t).Matches (s.inter t) :=
  ⟨s.graph_replace _, s.toList_interWith t, s.ambient_replace _⟩

theorem matches_subtract (s t : SymbolSet) : (s.subtract t).Matches (s.diff t) :=
  ⟨s.graph_replace _, s.toList_subtract t, s.ambient_replace _⟩

theorem toList_of_asked (h : t = s ∨ ∃ d : Direction, t = (d.ask s).source) :
    t.toList = s.toList := by
  rcases h with rfl | ⟨d, rfl⟩
  · rfl
  · exact (d.source_ask_cases d s).2.2.1

/-- The members after a step are known from the members before. -/
theorem toList_after_congr (step : SetStep) (h : s.toList = t.toList) :
    (step.after s).toList = (step.after t).toList := by
  cases step with
  | unionWith u =>
    show (s.unionWith u).toList = (t.unionWith u).toList
    rw [toList_unionWith, toList_unionWith, toList_union, toList_union, h]
  | interWith u =>
    show (s.interWith u).toList = (t.interWith u).toList
    rw [toList_interWith, toList_interWith, toList_inter, toList_inter, h]
  | subtract u =>
    show (s.subtract u).toList = (t.subtract u).toList
    rw [toList_subtract, toList_subtract, toList_diff, toList_diff, h]
  | sort cs =>
    show (s.sort cs).toList = (t.sort cs).toList
    rw [sort_eq_sortBy, sort_eq_sortBy, toList_sortBy, toList_sortBy, h]
  | pop => rw [toList_after_pop, toList_after_pop, h]
  | relate r =>
    show (r.apply s).source.toList = (r.apply t).source.toList
    rw [toList_of_asked (r.source_apply_cases s), toList_of_asked (r.source_apply_cases t), h]
  | close reflexive via p =>
    cases reflexive with
    | true => exact h
    | false =>
      simp only [SetStep.after, source_transitiveClosure]
      rw [toList_of_asked (Relation.source_composite_cases via p s),
        toList_of_asked (Relation.source_composite_cases via p t), h]

theorem Matches.after (h : s.Matches t) (step : SetStep) :
    (step.after s).Matches (step.after t) where
  graph := by rw [step.graph_after, step.graph_after, h.graph]
  toList := toList_after_congr step h.toList
  ambient := by rw [step.ambient_after, step.ambient_after, h.ambient]

/-- Sets that match cannot be told apart by what is done to them in place. -/
theorem Matches.run (h : s.Matches t) (steps : List SetStep) : (s.run steps).Matches (t.run steps) := by
  induction steps generalizing s t with
  | nil => exact h
  | cons step steps ih => exact ih (h.after step)

/-- With operands of any graph, what is done in place gives a set that matches the union, the
intersection or the difference, and goes on matching it: the members of the left operand and
then the new ones of the right, or those of the left whose identities are in the right one or
are not.  The universe stays that of the left operand.  Removing the last member takes it and
leaves the others in place; where there is none it fails and changes nothing. -/
theorem in_place_matches (s t : SymbolSet) :
    (∀ steps, ((s.unionWith t).run steps).Matches ((s.union t).run steps) ∧
      ((s.interWith t).run steps).Matches ((s.inter t).run steps) ∧
      ((s.subtract t).run steps).Matches ((s.diff t).run steps)) ∧
    (s.unionWith t).toList =
      s.toList ++ t.toList.filter (fun b => b.id ∉ s.toList.map Symbol.id) ∧
    (s.interWith t).toList = s.toList.filter (fun a => a.id ∈ t.toList.map Symbol.id) ∧
    (s.subtract t).toList = s.toList.filter (fun a => a.id ∉ t.toList.map Symbol.id) ∧
    (s.unionWith t).ambient = s.ambient ∧ (s.interWith t).ambient = s.ambient ∧
    (s.subtract t).ambient = s.ambient ∧
    ((s.toList = [] ∧ s.pop = .error (.emptyCollection "pop") ∧ SetStep.pop.after s = s) ∨
      ∃ a rest, s.pop = .ok (a, rest) ∧ SetStep.pop.after s = rest ∧
        s.toList = rest.toList ++ [a] ∧ rest.graph = s.graph ∧ rest.ambient = s.ambient) := by
  refine ⟨fun steps => ⟨?_, ?_, ?_⟩, ?_, ?_, ?_, ?_, ?_, ?_, s.pop_eq⟩
  · exact (s.matches_unionWith t).run steps
  · exact (s.matches_interWith t).run steps
  · exact (s.matches_subtract t).run steps
  · rw [toList_unionWith, toList_union]
  · rw [toList_interWith, toList_inter]
  · rw [toList_subtract, toList_diff]
  · exact (s.matches_unionWith t).ambient
  · exact (s.matches_interWith t).ambient
  · exact (s.matches_subtract t).ambient

end SymbolSet

end CallAtlas
