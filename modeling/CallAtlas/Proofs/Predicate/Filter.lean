/-
# `CallAtlas.Proofs.Predicate.Filter` — what a filter lets through

A filter asks its predicate of one item after the other and passes on what the
predicate has noted.  Whatever the answers are, it keeps items of the list in
the order that they have there, and so a filtered set has the kept items as
they stand.
-/
import CallAtlas.Predicate.Basic

namespace CallAtlas

theorem Predicate.keep_sublist {α : Type} (g : CallGraph) (item : α → Item) (p : Predicate)
    (as : List α) : (p.keep g item as).1.Sublist as := by
  induction as generalizing p with
  | nil => exact List.Sublist.refl []
  | cons a as ih =>
    have hrest := ih (p.eval g (item a)).predicate
    simp only [Predicate.keep]
    split
    · exact hrest.cons_cons a
    · exact hrest.cons a

/-- A predicate that asking leaves as it is filters like one test. -/
theorem Predicate.keep_eq_filter {α : Type} {g : CallGraph} {item : α → Item} {p : Predicate}
    (hp : ∀ a, (p.eval g (item a)).predicate = p) (as : List α) :
    (p.keep g item as).1 = as.filter fun a => p.holds g (item a) := by
  induction as with
  | nil => rfl
  | cons a as ih =>
    simp only [keep, hp a, ih, List.filter_cons]
    rfl

theorem SymbolSet.filter_eq (s : SymbolSet) (p : Predicate) :
    (s.filter p).1 = s.derive (.ofList (p.keep s.graph .symbol s.toList).1) :=
  rfl

theorem SymbolSet.toList_filter (s : SymbolSet) (p : Predicate) :
    (s.filter p).1.toList = (p.keep s.graph .symbol s.toList).1 :=
  OrderedSet.toList_ofList_of_nodup _
    (s.members.nodup_toList.sublist ((p.keep_sublist s.graph .symbol s.toList).map Symbol.id))

theorem SymbolSet.filter_sublist (s : SymbolSet) (p : Predicate) :
    (s.filter p).1.toList.Sublist s.toList := by
  rw [SymbolSet.toList_filter]
  exact p.keep_sublist s.graph .symbol s.toList

theorem SymbolSet.mem_of_mem_filter {s : SymbolSet} {p : Predicate} {a : Symbol}
    (h : a ∈ (s.filter p).1.toList) : a ∈ s.toList :=
  (s.filter_sublist p).subset h

theorem PathSet.toList_filter (s : PathSet) (p : Predicate) :
    (s.filter p).1.toList = (p.keep s.graph (fun q => .path q.symbols) s.toList).1 :=
  OrderedSet.toList_ofList_of_nodup _
    (s.paths.nodup_toList.sublist
      ((p.keep_sublist s.graph (fun q : CallPath => .path q.symbols) s.toList).map CallPath.ids))

theorem PathSet.filter_sublist (s : PathSet) (p : Predicate) :
    (s.filter p).1.toList.Sublist s.toList := by
  rw [PathSet.toList_filter]
  exact p.keep_sublist s.graph (fun q : CallPath => .path q.symbols) s.toList

theorem PathSet.mem_of_mem_filter {s : PathSet} {p : Predicate} {q : CallPath}
    (h : q ∈ (s.filter p).1.toList) : q ∈ s.toList :=
  (s.filter_sublist p).subset h

end CallAtlas
