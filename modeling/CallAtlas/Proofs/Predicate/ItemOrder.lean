/-
# `CallAtlas.Proofs.Predicate.ItemOrder` — what several comparators make of all items

Several comparators make a total preorder of the items, symbols and paths mixed.  They tell
two items apart or they do not; those that they do not tell apart are alike to every third
item.  To turn all directions round is to turn the whole order round.

Whether an item has a field depends on what the item is and not on how often the field is
changed to small or capital letters or measured (`SortKey.isPresent_eq`).  So of a symbol and a
path one always lacks the field that comes first, and the first comparator tells them apart.
-/
import CallAtlas.Proofs.Predicate.Comparators
import CallAtlas.Proofs.Predicate.Kinds

namespace CallAtlas

/-! ## Which items have a field -/

/-- The items that have the field. -/
def SortKey.kind : SortKey → ItemKind
  | .text _ => .symbol
  | .number f => f.kind

/-- Whether an item has the field. -/
def SortKey.isPresent (key : SortKey) (item : Item) : Bool :=
  match key with
  | .text f => (f.get item).isSome
  | .number f => (f.get item).isSome

theorem TextField.isSome_get (f : TextField) (item : Item) :
    (f.get item).isSome = decide (item.kind = .symbol) := by
  induction f with
  | name => cases item <;> rfl
  | file => cases item <;> rfl
  | fileBase => cases item <;> rfl
  | fileDir => cases item <;> rfl
  | lower f ih => rw [get, Option.isSome_map, ih]
  | upper f ih => rw [get, Option.isSome_map, ih]

theorem NumberField.isSome_get (f : NumberField) (item : Item) :
    (f.get item).isSome = decide (item.kind = f.kind) := by
  cases f with
  | line => cases item <;> rfl
  | pathLength => cases item <;> rfl
  | length f => rw [get, Option.isSome_map, f.isSome_get, kind]

theorem SortKey.isPresent_eq (key : SortKey) (item : Item) :
    key.isPresent item = decide (item.kind = key.kind) := by
  cases key with
  | text f => exact f.isSome_get item
  | number f => exact f.isSome_get item

namespace Comparator

/-! ## Missing values -/

theorem compareKey_of_absent {key : SortKey} {a b : Item} (ha : key.isPresent a = false)
    (hb : key.isPresent b = true) : compareKey key a b = .lt := by
  cases key with
  | text f =>
    have hnone : f.get a = none := Option.isNone_iff_eq_none.1 (Option.isSome_eq_false_iff.1 ha)
    obtain ⟨text, hsome⟩ := Option.isSome_iff_exists.1 hb
    rw [compareKey, hnone, hsome]
    rfl
  | number f =>
    have hnone : f.get a = none := Option.isNone_iff_eq_none.1 (Option.isSome_eq_false_iff.1 ha)
    obtain ⟨number, hsome⟩ := Option.isSome_iff_exists.1 hb
    rw [compareKey, hnone, hsome]
    rfl

/-- An item without the field comes before those that have it, or after them all. -/
theorem compareItems_of_absent {c : Comparator} {a b : Item} (ha : c.key.isPresent a = false)
    (hb : c.key.isPresent b = true) :
    c.compareItems a b = if c.descending then .gt else .lt := by
  rw [compareItems, compareKey_of_absent ha hb]
  rfl

/-! ## Turning the order round -/

theorem compareItems_reversed (c : Comparator) (a b : Item) :
    c.reversed.compareItems a b = (c.compareItems a b).swap := by
  rw [compareItems, compareItems, reversed]
  cases c.descending with
  | false => rfl
  | true => exact Ordering.swap_swap.symm

theorem compareChain_reversed (cs : List Comparator) (a b : Item) :
    compareChain (cs.map reversed) a b = (compareChain cs a b).swap := by
  induction cs with
  | nil => rfl
  | cons c cs ih =>
    rw [List.map_cons, compareChain_cons, compareChain_cons, compareItems_reversed, ih,
      Ordering.swap_then]

/-! ## The order of all items -/

/-- A comparison puts all items in one order, items that it does not tell apart side by side. -/
structure TotalPreorder (cmp : Item → Item → Ordering) : Prop where
  swap : ∀ a b, cmp b a = (cmp a b).swap
  total : ∀ a b, (cmp a b).isLE ∨ (cmp b a).isLE
  trans : ∀ a b c, (cmp a b).isLE → (cmp b c).isLE → (cmp a c).isLE
  /-- not to be told apart is an equivalence -/
  equivalence : Equivalence fun a b => cmp a b = .eq
  eq_iff : ∀ a b, cmp a b = .eq ↔ (cmp a b).isLE ∧ (cmp b a).isLE
  /-- items that are not told apart stand alike to all others -/
  congr : ∀ a a' b b', cmp a a' = .eq → cmp b b' = .eq → cmp a b = cmp a' b'

theorem totalPreorder (cmp : Item → Item → Ordering) [Std.TransCmp cmp] : TotalPreorder cmp where
  swap _ _ := Std.OrientedCmp.eq_swap
  total a b := by
    have hswap : cmp b a = (cmp a b).swap := Std.OrientedCmp.eq_swap
    rw [hswap]
    cases cmp a b with
    | lt => exact .inl rfl
    | eq => exact .inl rfl
    | gt => exact .inr rfl
  trans _ _ _ := Std.TransCmp.isLE_trans
  equivalence :=
    ⟨fun _ => Std.ReflCmp.compare_self, Std.OrientedCmp.eq_symm, Std.TransCmp.eq_trans⟩
  eq_iff a b := by
    have hswap : cmp b a = (cmp a b).swap := Std.OrientedCmp.eq_swap
    rw [hswap]
    cases cmp a b <;> decide
  congr _ _ _ _ ha hb := (Std.TransCmp.congr_left ha).trans (Std.TransCmp.congr_right hb)

/-- Several comparators put all items, symbols and paths mixed, in one order.  The comparators
with their directions turned round give that order turned round.  The first comparator that tells
two items apart puts the one that lacks its field before the other if it is ascending, and
after it if it is descending; and whatever the field is, who has it is a matter of the kind of
item. -/
theorem compareChain_preorder (cs : List Comparator) :
    TotalPreorder (compareChain cs) ∧
    (∀ a b, compareChain (cs.map reversed) a b = (compareChain cs a b).swap) ∧
    (∀ (c : Comparator) (a b : Item), c.key.isPresent a = false → c.key.isPresent b = true →
      c.compareItems a b = (if c.descending then .gt else .lt) ∧
      c.compareItems b a = (if c.descending then .lt else .gt) ∧
      (compareChain cs a b = .eq → ∀ ds, compareChain (cs ++ c :: ds) a b = c.compareItems a b)) ∧
    ∀ (key : SortKey) (item : Item), key.isPresent item = true ↔ item.kind = key.kind := by
  refine ⟨totalPreorder _, compareChain_reversed cs, fun c a b ha hb => ?_, fun key item => ?_⟩
  · have hab := compareItems_of_absent ha hb
    have hba : c.compareItems b a = (c.compareItems a b).swap := Std.OrientedCmp.eq_swap
    refine ⟨hab, ?_, fun halike ds => ?_⟩
    · rw [hba, hab]
      cases c.descending <;> rfl
    · rw [compareChain_append, compareChain_cons, halike, hab]
      cases c.descending <;> rfl
  · rw [key.isPresent_eq, decide_eq_true_eq]

/-- By length of the name in capital letters, the longest first, a path comes after all symbols. -/
example (a : Symbol) (path : List Symbol) :
    compareChain [descendingBy (.number (.length (.upper .name)))] (.symbol a) (.path path) = .lt :=
  rfl

end Comparator

end CallAtlas
