/-
# `CallAtlas.Proofs.Predicate.Comparators` — comparators order all items

A comparator compares the values that two items have for its field, and a missing value
comes before all others.  Values are compared by an order, so a field orders items up to
those with equal values; to turn the direction round is to compare the second item with the
first (`compareItems_eq`), and several comparators order items lexicographically
(`compareChain_cons`).  So whatever the comparators are, they make an order of all
items, symbols and paths mixed, up to items that none of them tells apart.
-/
import CallAtlas.Predicate.Field

namespace CallAtlas.Comparator

/-! ## One comparator -/

instance (key : SortKey) : Std.TransCmp (compareKey key) :=
  match key with
  | .text f => inferInstanceAs (Std.TransCmp (compareOn f.get))
  | .number f => inferInstanceAs (Std.TransCmp (compareOn f.get))

theorem compareItems_eq (c : Comparator) (a b : Item) :
    c.compareItems a b = if c.descending then compareKey c.key b a else compareKey c.key a b := by
  have hswap : compareKey c.key b a = (compareKey c.key a b).swap := Std.OrientedCmp.eq_swap
  rw [hswap]
  rfl

instance (c : Comparator) : Std.TransCmp c.compareItems := by
  have heq : c.compareItems =
      fun a b => if c.descending then compareKey c.key b a else compareKey c.key a b :=
    funext fun a => funext fun b => c.compareItems_eq a b
  rw [heq]
  cases c.descending with
  | false => exact inferInstanceAs (Std.TransCmp (compareKey c.key))
  | true => exact inferInstanceAs (Std.TransCmp fun a b => compareKey c.key b a)

/-! ## Several comparators -/

theorem compareChain_cons (c : Comparator) (cs : List Comparator) (a b : Item) :
    compareChain (c :: cs) a b = (c.compareItems a b).then (compareChain cs a b) := by
  rw [compareChain]
  cases c.compareItems a b <;> rfl

theorem compareChain_append (cs ds : List Comparator) (a b : Item) :
    compareChain (cs ++ ds) a b = (compareChain cs a b).then (compareChain ds a b) := by
  induction cs with
  | nil => rfl
  | cons c cs ih =>
    rw [List.cons_append, compareChain_cons, compareChain_cons, ih, Ordering.then_assoc]

instance (cs : List Comparator) : Std.TransCmp (compareChain cs) := by
  induction cs with
  | nil => exact { eq_swap := rfl, isLE_trans := fun _ _ => rfl }
  | cons c cs ih =>
    have heq : compareChain (c :: cs) = compareLex c.compareItems (compareChain cs) :=
      funext fun a => funext fun b => compareChain_cons c cs a b
    rw [heq]
    infer_instance

end CallAtlas.Comparator
