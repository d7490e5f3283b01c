/-
# `CallAtlas.Proofs.SetLaws` — the laws of sets, up to a test of equality

Union, intersection and difference of some kind of set are operations of a
program, and so is the test of equality; `SetLaws` lists the laws that they obey
together.  With the test for equality they are those of a Boolean algebra, where
difference stands in for a complement and no set need be the greatest.

The laws are not checked one by one for each kind.  `Pictures` says that every
set of the kind is a picture of a mathematical set, that the operations are
pictures of the operations, and that the test sees when the sets are equal;
then every law is the law of the mathematical sets (`Pictures.setLaws`).
-/
import Mathlib.Order.BooleanAlgebra.Set

namespace CallAtlas

variable {α β : Type}

/-- The sets of a kind are closed under three operations, a test tells whether two of them are
equal, and up to it the operations obey the laws of union, intersection and difference. -/
structure SetLaws (Kind : α → Prop) (equal : α → α → Bool) (union inter diff : α → α → α) :
    Prop where
  union_kind : ∀ {a b}, Kind a → Kind b → Kind (union a b)
  inter_kind : ∀ {a b}, Kind a → Kind b → Kind (inter a b)
  diff_kind : ∀ {a b}, Kind a → Kind b → Kind (diff a b)
  refl : ∀ {a}, Kind a → equal a a = true
  symm : ∀ {a b}, Kind a → Kind b → equal a b = true → equal b a = true
  trans : ∀ {a b c}, Kind a → Kind b → Kind c → equal a b = true → equal b c = true →
    equal a c = true
  /-- the operations do not tell equal sets apart -/
  congr : ∀ {a a' b b'}, Kind a → Kind a' → Kind b → Kind b' → equal a a' = true →
    equal b b' = true → equal (union a b) (union a' b') = true ∧
      equal (inter a b) (inter a' b') = true ∧ equal (diff a b) (diff a' b') = true
  union_comm : ∀ {a b}, Kind a → Kind b → equal (union a b) (union b a) = true
  union_assoc : ∀ {a b c}, Kind a → Kind b → Kind c →
    equal (union (union a b) c) (union a (union b c)) = true
  union_self : ∀ {a}, Kind a → equal (union a a) a = true
  inter_comm : ∀ {a b}, Kind a → Kind b → equal (inter a b) (inter b a) = true
  inter_assoc : ∀ {a b c}, Kind a → Kind b → Kind c →
    equal (inter (inter a b) c) (inter a (inter b c)) = true
  inter_self : ∀ {a}, Kind a → equal (inter a a) a = true
  union_inter_self : ∀ {a b}, Kind a → Kind b → equal (union a (inter a b)) a = true
  inter_union_self : ∀ {a b}, Kind a → Kind b → equal (inter a (union a b)) a = true
  union_inter_distrib : ∀ {a b c}, Kind a → Kind b → Kind c →
    equal (union a (inter b c)) (inter (union a b) (union a c)) = true
  inter_union_distrib : ∀ {a b c}, Kind a → Kind b → Kind c →
    equal (inter a (union b c)) (union (inter a b) (inter a c)) = true
  /-- what is taken away and what is left make up the whole -/
  diff_union_inter : ∀ {a b}, Kind a → Kind b → equal (union (diff a b) (inter a b)) a = true
  /-- and have nothing in common -/
  diff_inter_inter : ∀ {a b}, Kind a → Kind b →
    equal (inter (diff a b) (inter a b)) (diff a a) = true
  diff_diff : ∀ {a b}, Kind a → Kind b → equal (diff a (diff a b)) (inter a b) = true
  diff_union : ∀ {a b c}, Kind a → Kind b → Kind c →
    equal (diff c (union a b)) (inter (diff c a) (diff c b)) = true
  diff_inter : ∀ {a b c}, Kind a → Kind b → Kind c →
    equal (diff c (inter a b)) (union (diff c a) (diff c b)) = true

/-- A set of the kind is a picture of a set of items. -/
def Depicts (Kind : α → Prop) (items : α → Set β) (a : α) (A : Set β) : Prop :=
  Kind a ∧ items a = A

/-- The operations on sets of a kind are pictures of those on sets of items, and the test of
equality sees whether these are equal. -/
structure Pictures (Kind : α → Prop) (items : α → Set β) (equal : α → α → Bool)
    (union inter diff : α → α → α) : Prop where
  equal_iff : ∀ {a b A B}, Depicts Kind items a A → Depicts Kind items b B →
    (equal a b = true ↔ A = B)
  union : ∀ {a b A B}, Depicts Kind items a A → Depicts Kind items b B →
    Depicts Kind items (union a b) (A ∪ B)
  inter : ∀ {a b A B}, Depicts Kind items a A → Depicts Kind items b B →
    Depicts Kind items (inter a b) (A ∩ B)
  diff : ∀ {a b A B}, Depicts Kind items a A → Depicts Kind items b B →
    Depicts Kind items (diff a b) (A \ B)

variable {Kind : α → Prop} {items : α → Set β} {equal : α → α → Bool} {union inter diff : α → α → α}

theorem depicts_items {a : α} (ha : Kind a) : Depicts Kind items a (items a) := ⟨ha, rfl⟩

theorem depicts_of_mem {list : α → List β} {a : α} {A : Set β} (ha : Kind a)
    (hmem : ∀ i, i ∈ list a ↔ i ∈ A) : Depicts Kind (fun a => {i | i ∈ list a}) a A :=
  ⟨ha, Set.ext hmem⟩

/-- The laws of sets of items are the laws of their pictures. -/
theorem Pictures.setLaws (h : Pictures Kind items equal union inter diff) :
    SetLaws Kind equal union inter diff := by
  -- each side of a law is a picture, and the sets of items are equal
  have law : ∀ {a b A B}, Depicts Kind items a A → Depicts Kind items b B → A = B →
      equal a b = true := fun ha hb => (h.equal_iff ha hb).2
  have pic : ∀ {a}, Kind a → Depicts Kind items a (items a) := depicts_items
  refine
    { union_kind := fun ha hb => (h.union (pic ha) (pic hb)).1
      inter_kind := fun ha hb => (h.inter (pic ha) (pic hb)).1
      diff_kind := fun ha hb => (h.diff (pic ha) (pic hb)).1
      refl := fun ha => law (pic ha) (pic ha) rfl
      symm := ?symm, trans := ?trans, congr := ?congr
      union_comm := ?union_comm, union_assoc := ?union_assoc, union_self := ?union_self
      inter_comm := ?inter_comm, inter_assoc := ?inter_assoc, inter_self := ?inter_self
      union_inter_self := ?union_inter_self, inter_union_self := ?inter_union_self
      union_inter_distrib := ?union_inter_distrib, inter_union_distrib := ?inter_union_distrib
      diff_union_inter := ?diff_union_inter, diff_inter_inter := ?diff_inter_inter
      diff_diff := ?diff_diff, diff_union := ?diff_union, diff_inter := ?diff_inter }
  case symm =>
    intro a b ha hb hab
    exact law (pic hb) (pic ha) ((h.equal_iff (pic ha) (pic hb)).1 hab).symm
  case trans =>
    intro a b c ha hb hc hab hbc
    have hA := (h.equal_iff (pic ha) (pic hb)).1 hab
    exact law (pic ha) (pic hc) (hA.trans ((h.equal_iff (pic hb) (pic hc)).1 hbc))
  case congr =>
    intro a a' b b' ha ha' hb hb' haa' hbb'
    have hA := (h.equal_iff (pic ha) (pic ha')).1 haa'
    have hB := (h.equal_iff (pic hb) (pic hb')).1 hbb'
    refine ⟨law (h.union (pic ha) (pic hb)) (h.union (pic ha') (pic hb')) ?_,
      law (h.inter (pic ha) (pic hb)) (h.inter (pic ha') (pic hb')) ?_,
      law (h.diff (pic ha) (pic hb)) (h.diff (pic ha') (pic hb')) ?_⟩
    all_goals rw [hA, hB]
  case union_comm =>
    intro a b ha hb
    exact law (h.union (pic ha) (pic hb)) (h.union (pic hb) (pic ha)) (Set.union_comm _ _)
  case union_assoc =>
    intro a b c ha hb hc
    exact law (h.union (h.union (pic ha) (pic hb)) (pic hc))
      (h.union (pic ha) (h.union (pic hb) (pic hc))) (Set.union_assoc _ _ _)
  case union_self =>
    intro a ha
    exact law (h.union (pic ha) (pic ha)) (pic ha) (Set.union_self _)
  case inter_comm =>
    intro a b ha hb
    exact law (h.inter (pic ha) (pic hb)) (h.inter (pic hb) (pic ha)) (Set.inter_comm _ _)
  case inter_assoc =>
    intro a b c ha hb hc
    exact law (h.inter (h.inter (pic ha) (pic hb)) (pic hc))
      (h.inter (pic ha) (h.inter (pic hb) (pic hc))) (Set.inter_assoc _ _ _)
  case inter_self =>
    intro a ha
    exact law (h.inter (pic ha) (pic ha)) (pic ha) (Set.inter_self _)
  case union_inter_self =>
    intro a b ha hb
    exact law (h.union (pic ha) (h.inter (pic ha) (pic hb))) (pic ha) sup_inf_self
  case inter_union_self =>
    intro a b ha hb
    exact law (h.inter (pic ha) (h.union (pic ha) (pic hb))) (pic ha) inf_sup_self
  case union_inter_distrib =>
    intro a b c ha hb hc
    exact law (h.union (pic ha) (h.inter (pic hb) (pic hc)))
      (h.inter (h.union (pic ha) (pic hb)) (h.union (pic ha) (pic hc)))
      (Set.union_inter_distrib_left _ _ _)
  case inter_union_distrib =>
    intro a b c ha hb hc
    exact law (h.inter (pic ha) (h.union (pic hb) (pic hc)))
      (h.union (h.inter (pic ha) (pic hb)) (h.inter (pic ha) (pic hc)))
      (Set.inter_union_distrib_left _ _ _)
  case diff_union_inter =>
    intro a b ha hb
    exact law (h.union (h.diff (pic ha) (pic hb)) (h.inter (pic ha) (pic hb))) (pic ha)
      (Set.sdiff_union_inter _ _)
  case diff_inter_inter =>
    intro a b ha hb
    have hapart : Disjoint (items a \ items b) (items a ∩ items b) := Set.disjoint_sdiff_inter
    exact law (h.inter (h.diff (pic ha) (pic hb)) (h.inter (pic ha) (pic hb)))
      (h.diff (pic ha) (pic ha)) (hapart.inter_eq.trans (Set.sdiff_self).symm)
  case diff_diff =>
    intro a b ha hb
    exact law (h.diff (pic ha) (h.diff (pic ha) (pic hb))) (h.inter (pic ha) (pic hb))
      sdiff_sdiff_right_self
  case diff_union =>
    intro a b c ha hb hc
    exact law (h.diff (pic hc) (h.union (pic ha) (pic hb)))
      (h.inter (h.diff (pic hc) (pic ha)) (h.diff (pic hc) (pic hb))) sdiff_sup
  case diff_inter =>
    intro a b c ha hb hc
    exact law (h.diff (pic hc) (h.inter (pic ha) (pic hb)))
      (h.union (h.diff (pic hc) (pic ha)) (h.diff (pic hc) (pic hb))) sdiff_inf

end CallAtlas
