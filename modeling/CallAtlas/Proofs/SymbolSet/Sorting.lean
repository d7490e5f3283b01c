/-
# `CallAtlas.Proofs.SymbolSet.Sorting` — sorting is stable, and so it composes

A list is put in order by a comparison if it has the same items, none behind one that it is
less than, and if the items that compare equal come as they came before (`Arranges`).
There is just one list like that (`Arranges.unique`).

What is put in order by one comparison and then by another is in order by the other,
and where that does not decide, still in the order of the first: it is put in order by the
two comparisons one behind the other (`Arranges.andThen`).  That sorting by two lists of
comparators in turn is sorting by both at once, and that sorting twice is sorting once,
are cases of these two laws.
-/
import CallAtlas.Proofs.Predicate.Comparators
import CallAtlas.Proofs.Graph.Building
import CallAtlas.Proofs.SymbolSet.Answers

namespace CallAtlas

/-! ## Lists in order -/

section Arranges

variable {α : Type} {cmp cmp' : α → α → Ordering}

/-- The items of a list that compare equal to one item, in their order. -/
def alike (cmp : α → α → Ordering) (a : α) (l : List α) : List α := l.filter fun b => cmp a b == .eq

/-- The second list is the first one put in order: with the same items, no item before one that it
is greater than, and items that compare equal as they were. -/
structure Arranges (cmp : α → α → Ordering) (before after : List α) : Prop where
  perm : after.Perm before
  ascending : after.Pairwise fun a b => cmp a b ≠ .gt
  stable : ∀ a, alike cmp a after = alike cmp a before

theorem mem_alike {a b : α} {l : List α} : b ∈ alike cmp a l ↔ b ∈ l ∧ cmp a b = .eq := by
  rw [alike, List.mem_filter, beq_iff_eq]

theorem alike_cons_of_eq {a b : α} (h : cmp a b = .eq) (l : List α) :
    alike cmp a (b :: l) = b :: alike cmp a l :=
  List.filter_cons_of_pos (beq_iff_eq.2 h)

theorem alike_cons_of_ne {a b : α} (h : cmp a b ≠ .eq) (l : List α) :
    alike cmp a (b :: l) = alike cmp a l :=
  List.filter_cons_of_neg fun heq => h (beq_iff_eq.1 heq)

theorem alike_then (a : α) (l : List α) :
    alike (fun a b => (cmp a b).then (cmp' a b)) a l = alike cmp a (alike cmp' a l) := by
  unfold alike
  rw [List.filter_filter]
  refine List.filter_congr fun b _ => ?_
  rw [Bool.eq_iff_iff, Bool.and_eq_true, beq_iff_eq, beq_iff_eq, beq_iff_eq, Ordering.then_eq_eq]

theorem alike_comm (a : α) (l : List α) :
    alike cmp a (alike cmp' a l) = alike cmp' a (alike cmp a l) := by
  unfold alike
  rw [List.filter_filter, List.filter_filter]
  exact List.filter_congr fun b _ => Bool.and_comm _ _

variable [Std.TransCmp cmp]

theorem arranges_mergeSort (l : List α) :
    Arranges cmp l (l.mergeSort fun a b => cmp a b != .gt) := by
  have hle : (fun a b => cmp a b != .gt) = fun a b => (cmp a b).isLE := by
    funext a b
    cases cmp a b <;> rfl
  have htrans : ∀ a b c, (cmp a b).isLE = true → (cmp b c).isLE = true → (cmp a c).isLE = true :=
    fun a b c => Std.TransCmp.isLE_trans
  have htotal : ∀ a b, ((cmp a b).isLE || (cmp b a).isLE) = true := by
    intro a b
    have hswap : cmp b a = (cmp a b).swap := Std.OrientedCmp.eq_swap
    rw [hswap]
    cases cmp a b <;> rfl
  rw [hle]
  refine ⟨List.mergeSort_perm l _, ?_, fun a => ?_⟩
  · refine (List.pairwise_mergeSort htrans htotal l).imp ?_
    intro a b hab hgt
    rw [hgt] at hab
    cases hab
  · -- what compares equal to `a` is in order as it is, so sorting keeps it in one piece
    have hgroup : (alike cmp a l).Pairwise fun b c => (cmp b c).isLE = true := by
      refine List.pairwise_of_forall_mem_list fun b hb c hc => ?_
      have hba := Std.OrientedCmp.eq_symm (mem_alike.1 hb).2
      rw [Std.TransCmp.eq_trans hba (mem_alike.1 hc).2]
      rfl
    have hsub := List.sublist_mergeSort htrans htotal hgroup List.filter_sublist
    have hkept := hsub.filter fun b => cmp a b == .eq
    rw [alike, List.filter_filter, List.filter_congr fun b _ => Bool.and_self _] at hkept
    refine (hkept.eq_of_length ?_).symm
    exact (((List.mergeSort_perm l _).filter _).length_eq).symm

theorem compare_head {a b : α} {l : List α} (hl : (a :: l).Pairwise fun a b => cmp a b ≠ .gt)
    (hb : b ∈ a :: l) : cmp a b ≠ .gt := by
  rcases List.mem_cons.1 hb with rfl | hb
  · have hself : cmp b b = .eq := Std.ReflCmp.compare_self
    rw [hself]
    exact Ordering.noConfusion
  · exact (List.pairwise_cons.1 hl).1 b hb

theorem mem_of_alike_eq {l m : List α} (hsame : ∀ a, alike cmp a l = alike cmp a m) {a : α}
    (ha : a ∈ l) : a ∈ m := by
  have hmem : a ∈ alike cmp a l := mem_alike.2 ⟨ha, Std.ReflCmp.compare_self⟩
  exact (mem_alike.1 (hsame a ▸ hmem)).1

/-- Lists in order are equal if they have the same items that compare equal to any one. -/
theorem eq_of_ascending {l m : List α} (hl : l.Pairwise fun a b => cmp a b ≠ .gt)
    (hm : m.Pairwise fun a b => cmp a b ≠ .gt) (hsame : ∀ a, alike cmp a l = alike cmp a m) :
    l = m := by
  induction l generalizing m with
  | nil =>
    refine (List.eq_nil_iff_forall_not_mem.2 fun a ha => ?_).symm
    exact List.not_mem_nil (mem_of_alike_eq (fun a => (hsame a).symm) ha)
  | cons a l ih =>
    cases m with
    | nil => exact absurd (mem_of_alike_eq hsame List.mem_cons_self) List.not_mem_nil
    | cons b m =>
      -- neither of the first items is greater than the other, so both head one group
      have hself : cmp a a = .eq := Std.ReflCmp.compare_self
      have hab := compare_head hl (mem_of_alike_eq (fun a => (hsame a).symm) List.mem_cons_self)
      have hba := compare_head hm (mem_of_alike_eq hsame List.mem_cons_self)
      have heq : cmp a b = .eq := by
        have hswap : cmp b a = (cmp a b).swap := Std.OrientedCmp.eq_swap
        rw [hswap] at hba
        cases hcmp : cmp a b with
        | lt => exact absurd (congrArg Ordering.swap hcmp) hba
        | eq => rfl
        | gt => exact absurd hcmp hab
      have hgroup := hsame a
      rw [alike_cons_of_eq hself, alike_cons_of_eq heq] at hgroup
      obtain rfl : a = b := (List.cons.inj hgroup).1
      rw [ih (List.pairwise_cons.1 hl).2 (List.pairwise_cons.1 hm).2]
      intro c
      have hrest := hsame c
      by_cases hca : cmp c a = .eq
      · rw [alike_cons_of_eq hca, alike_cons_of_eq hca] at hrest
        exact (List.cons.inj hrest).2
      · rwa [alike_cons_of_ne hca, alike_cons_of_ne hca] at hrest

namespace Arranges

variable {l m r : List α}

theorem unique (h : Arranges cmp l m) (h' : Arranges cmp l r) : r = m :=
  eq_of_ascending h'.ascending h.ascending fun a => (h'.stable a).trans (h.stable a).symm

/-- What is in order stays as it is. -/
theorem eq_of_again (h : Arranges cmp l m) (h' : Arranges cmp m r) : r = m :=
  eq_of_ascending h'.ascending h.ascending h'.stable

/-- The later comparison goes first, and where it does not decide the earlier one does. -/
theorem andThen (h' : Arranges cmp' l m) (h : Arranges cmp m r) :
    Arranges (fun a b => (cmp a b).then (cmp' a b)) l r where
  perm := h.perm.trans h'.perm
  ascending := by
    rw [List.pairwise_iff_forall_sublist]
    intro a b hab
    have hlater := List.pairwise_iff_forall_sublist.1 h.ascending hab
    cases hcmp : cmp a b with
    | lt => exact Ordering.noConfusion
    | gt => exact absurd hcmp hlater
    | eq =>
      -- the two are in one group, and groups are as the earlier comparison left them
      have hgroup : List.Sublist [a, b] (alike cmp a r) := by
        have hpair := hab.filter fun c => cmp a c == .eq
        change List.Sublist (alike cmp a [a, b]) (alike cmp a r) at hpair
        rwa [alike_cons_of_eq Std.ReflCmp.compare_self, alike_cons_of_eq hcmp] at hpair
      rw [h.stable a] at hgroup
      exact List.pairwise_iff_forall_sublist.1 h'.ascending (hgroup.trans List.filter_sublist)
  stable a := by
    rw [alike_then, alike_comm, h.stable a, alike_comm, h'.stable a, ← alike_then]

end Arranges

end Arranges

/-! ## Sorted sets -/

namespace SymbolSet

/-- The comparison that a set is sorted by: that of the comparators one behind the other, and of
the names if there is no comparator. -/
def sortOrder (cs : List Comparator) (a b : Symbol) : Ordering :=
  match cs with
  | [] => compare a.name b.name
  | c :: cs => Comparator.compareChain (c :: cs) (.symbol a) (.symbol b)

theorem sort_eq_sortBy (s : SymbolSet) (cs : List Comparator) :
    s.sort cs = s.sortBy (sortOrder cs) := by
  cases cs with
  | cons c cs => rfl
  | nil =>
    have hname : ∀ a b : Symbol,
        Comparator.compareChain [.ascending (.text .name)] (.symbol a) (.symbol b) =
          compare a.name b.name := by
      intro a b
      rw [Comparator.compareChain_cons, Comparator.compareChain, Ordering.then_eq]
      rfl
    exact congrArg s.sortBy (funext fun a => funext fun b => hname a b)

instance (cs : List Comparator) : Std.TransCmp (sortOrder cs) :=
  match cs with
  | [] => inferInstanceAs (Std.TransCmp (compareOn fun a : Symbol => a.name))
  | c :: cs =>
      have horder : Std.TransCmp (Comparator.compareChain (c :: cs)) := inferInstance
      { eq_swap := horder.eq_swap
        isLE_trans := horder.isLE_trans }

theorem sortOrder_append {cs ds : List Comparator} (hcs : cs ≠ []) (hds : ds ≠ []) (a b : Symbol) :
    sortOrder (cs ++ ds) a b = (sortOrder cs a b).then (sortOrder ds a b) := by
  obtain ⟨c, cs, rfl⟩ := List.exists_cons_of_ne_nil hcs
  obtain ⟨d, ds, rfl⟩ := List.exists_cons_of_ne_nil hds
  exact Comparator.compareChain_append (c :: cs) (d :: ds) (.symbol a) (.symbol b)

theorem arranges_sort (s : SymbolSet) (cs : List Comparator) :
    Arranges (sortOrder cs) s.toList (s.sort cs).toList := by
  rw [sort_eq_sortBy, toList_sortBy]
  exact arranges_mergeSort s.toList

/-- Sorting puts the members in order, by their names if there is no comparator, and nothing
else, so there is just one way in which it can end; the members that compare equal stay as they
were.  To sort by some comparators and then by others that go first is to sort by both at once,
and to sort once more changes nothing. -/
theorem sort_stable (s : SymbolSet) (cs : List Comparator) :
    Arranges (sortOrder cs) s.toList (s.sort cs).toList ∧
    (∀ after, Arranges (sortOrder cs) s.toList after → after = (s.sort cs).toList) ∧
    (s.sort cs).graph = s.graph ∧ (s.sort cs).ambient = s.ambient ∧
    (s.sort cs).calleesCache = s.calleesCache ∧ (s.sort cs).callersCache = s.callersCache ∧
    (∀ first second, first ≠ [] → second ≠ [] →
      ((s.sort second).sort first).toList = (s.sort (first ++ second)).toList) ∧
    ((s.sort cs).sort cs).toList = (s.sort cs).toList := by
  have hsorted := s.arranges_sort cs
  refine ⟨hsorted, fun after => hsorted.unique, rfl, rfl, rfl, rfl, ?_, ?_⟩
  · intro first second hfirst hsecond
    have hturn := (s.arranges_sort second).andThen ((s.sort second).arranges_sort first)
    have honce := s.arranges_sort (first ++ second)
    have horder : sortOrder (first ++ second) =
        fun a b => (sortOrder first a b).then (sortOrder second a b) :=
      funext fun a => funext fun b => sortOrder_append hfirst hsecond a b
    rw [← horder] at hturn
    exact honce.unique hturn
  · exact hsorted.eq_of_again ((s.sort cs).arranges_sort cs)

/-- Two functions of one file, by their names backwards and then by their file. -/
theorem sort_stable_mutualPair :
    let byFile := [Comparator.ascending (.text .file)]
    let byName := [Comparator.descendingBy (.text .name)]
    byFile ≠ [] ∧ byName ≠ [] ∧
      (((whole (.mutualPair .standard)).sort byName).sort byFile).toList =
        [CallGraph.pong, CallGraph.ping] := by
  intro byFile byName
  have hfile : byFile ≠ [] := List.cons_ne_nil _ _
  have hname : byName ≠ [] := List.cons_ne_nil _ _
  have hwhole : (whole (.mutualPair .standard)).toList = [CallGraph.ping, CallGraph.pong] := by
    decide +kernel
  have hgt : sortOrder (byFile ++ byName) CallGraph.ping CallGraph.pong = .gt := by
    decide +kernel
  obtain ⟨-, -, -, -, -, -, hturn, -⟩ := sort_stable (whole (.mutualPair .standard)) []
  refine ⟨hfile, hname, (hturn byFile byName hfile hname).trans ?_⟩
  rw [sort_eq_sortBy, toList_sortBy, hwhole]
  simp [List.mergeSort, hgt]

end SymbolSet

end CallAtlas
