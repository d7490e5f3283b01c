/-
# `CallAtlas.Proofs.OrderedSet` — membership in ordered sets

What inserting items does to the items and to the keys of a set.  Inserting
never moves or removes an item, so a set that did not get larger is the set
as it was.

Union, intersection and difference keep items of the left set and look at the
keys of the right one; the tests of two sets look at keys only.  Of what two tests
leave of one set they are what the conjunction, the disjunction and the negation
leave.

A set knows its items by their keys only.  Where a key stands for one item,
membership after an insertion is what one expects; `mem_extend_iff` says so
for items of a class in which keys tell items apart, and the lemmas after it
say it of the operations on two sets of such items.
-/
import CallAtlas.OrderedSet
import Mathlib.Data.List.Induction
import Mathlib.Data.List.Nodup
import Mathlib.Data.List.Perm.Subperm

namespace CallAtlas.OrderedSet

variable {α κ : Type} [Ord κ] [Std.TransOrd κ] [Std.LawfulEqOrd κ] {key : α → κ}

theorem extend_append (s : OrderedSet key) (as bs : List α) :
    s.extend (as ++ bs) = (s.extend as).extend bs :=
  List.foldl_append

/-! ## Items -/

theorem prefix_insert (s : OrderedSet key) (a : α) : s.toList <+: (s.insert a).toList := by
  rw [toList_insert]
  split
  · exact List.prefix_refl s.toList
  · exact List.prefix_append s.toList [a]

theorem prefix_extend (s : OrderedSet key) (as : List α) : s.toList <+: (s.extend as).toList := by
  induction as generalizing s with
  | nil => exact List.prefix_refl s.toList
  | cons a as ih => exact (s.prefix_insert a).trans (ih (s.insert a))

theorem mem_extend_of_mem {s : OrderedSet key} {a : α} (h : a ∈ s.toList) (as : List α) :
    a ∈ (s.extend as).toList :=
  (s.prefix_extend as).subset h

theorem mem_insert_cases {s : OrderedSet key} {a b : α} (h : b ∈ (s.insert a).toList) :
    b ∈ s.toList ∨ b = a := by
  rw [toList_insert] at h
  split at h
  · exact Or.inl h
  · rcases List.mem_append.1 h with h | h
    · exact Or.inl h
    · exact Or.inr (List.mem_singleton.1 h)

theorem mem_extend_cases {as : List α} {s : OrderedSet key} {b : α}
    (h : b ∈ (s.extend as).toList) : b ∈ s.toList ∨ b ∈ as := by
  induction as generalizing s with
  | nil => exact Or.inl h
  | cons a as ih =>
    rcases ih (s := s.insert a) h with h | h
    · rcases mem_insert_cases h with h | rfl
      · exact Or.inl h
      · exact Or.inr List.mem_cons_self
    · exact Or.inr (List.mem_cons_of_mem a h)

theorem mem_of_mem_ofList {as : List α} {b : α} (h : b ∈ (ofList as : OrderedSet key).toList) :
    b ∈ as := by
  rcases mem_extend_cases h with h | h
  · exact absurd h List.not_mem_nil
  · exact h

theorem mem_of_mem_filter {p : α → Bool} {s : OrderedSet key} {a : α}
    (h : a ∈ (s.filter p).toList) : a ∈ s.toList := by
  rw [toList_filter] at h
  exact List.mem_of_mem_filter h

/-- A set that did not get larger has the items that it had. -/
theorem toList_extend_of_size_eq {s : OrderedSet key} {as : List α}
    (h : (s.extend as).size = s.size) : (s.extend as).toList = s.toList := by
  rw [size_eq, size_eq] at h
  exact ((s.prefix_extend as).eq_of_length h.symm).symm

/-- Of a set that did not get smaller all items passed the test. -/
theorem toList_retain_of_size_eq {s : OrderedSet key} {p : α → Bool}
    (h : (s.retain p).size = s.size) : (s.retain p).toList = s.toList := by
  rw [size_eq, size_eq, toList_retain] at h
  rw [toList_retain]
  exact List.filter_sublist.eq_of_length h

theorem size_le_size_extend (s : OrderedSet key) (as : List α) : s.size ≤ (s.extend as).size := by
  rw [size_eq, size_eq]
  exact (s.prefix_extend as).length_le

/-! ## Keys -/

theorem mem_keys_insert (s : OrderedSet key) (a : α) (k : κ) :
    k ∈ (s.insert a).toList.map key ↔ k ∈ s.toList.map key ∨ k = key a := by
  rw [toList_insert]
  split
  · rename_i h
    rw [contains_iff] at h
    constructor
    · exact Or.inl
    · rintro (hk | rfl)
      · exact hk
      · exact h
  · simp [List.mem_append]

theorem mem_keys_extend (s : OrderedSet key) (as : List α) (k : κ) :
    k ∈ (s.extend as).toList.map key ↔ k ∈ s.toList.map key ∨ k ∈ as.map key := by
  induction as generalizing s with
  | nil => simp
  | cons a as ih =>
    rw [extend_cons, ih, mem_keys_insert, List.map_cons, List.mem_cons, or_assoc]

theorem mem_keys_ofList (as : List α) (k : κ) :
    k ∈ (ofList as : OrderedSet key).toList.map key ↔ k ∈ as.map key := by
  unfold ofList
  rw [mem_keys_extend]
  simp

theorem contains_eq_decide [DecidableEq κ] (s : OrderedSet key) (a : α) :
    s.contains a = decide (key a ∈ s.toList.map key) := by
  rw [Bool.eq_iff_iff, decide_eq_true_iff]
  exact s.contains_iff a

theorem insert_eq_self {s : OrderedSet key} {a : α} (h : key a ∈ s.toList.map key) :
    s.insert a = s :=
  dif_pos ((s.contains_iff a).2 h)

theorem extend_eq_self {s : OrderedSet key} {as : List α}
    (h : ∀ a ∈ as, key a ∈ s.toList.map key) : s.extend as = s := by
  induction as with
  | nil => rfl
  | cons a as ih =>
    rw [extend_cons, insert_eq_self (h a List.mem_cons_self)]
    exact ih fun b hb => h b (List.mem_cons_of_mem a hb)

/-- A set that did not get larger is the set as it was. -/
theorem extend_eq_self_of_size_eq {s : OrderedSet key} {as : List α}
    (h : (s.extend as).size = s.size) : s.extend as = s := by
  refine extend_eq_self fun a ha => ?_
  rw [← toList_extend_of_size_eq h]
  exact (s.mem_keys_extend as _).2 (Or.inr (List.mem_map_of_mem ha))

/-- To add items one after the other is to add the set of them. -/
theorem extend_toList_ofList (s : OrderedSet key) (as : List α) :
    s.extend (ofList as : OrderedSet key).toList = s.extend as := by
  induction as using List.reverseRecOn with
  | nil => rfl
  | append_singleton as a ih =>
    have hsnoc : (ofList (as ++ [a]) : OrderedSet key) = (ofList as).insert a :=
      extend_append empty as [a]
    rw [hsnoc, extend_append, extend_cons, extend_nil]
    by_cases hold : key a ∈ (ofList as : OrderedSet key).toList.map key
    · have hmem : key a ∈ (s.extend as).toList.map key :=
        (s.mem_keys_extend as _).2 (Or.inr ((mem_keys_ofList as _).1 hold))
      rw [insert_eq_self hold, ih, insert_eq_self hmem]
    · rw [toList_insert_of_not_mem hold, extend_append, ih, extend_cons, extend_nil]

/-! ## Two sets -/

theorem contains_insert_of_ne (s : OrderedSet key) {a b : α} (h : key b ≠ key a) :
    (s.insert a).contains b = s.contains b := by
  rw [Bool.eq_iff_iff, contains_iff, contains_iff, mem_keys_insert]
  exact or_iff_left h

/-- Items with distinct keys are added in their order, those left out whose keys are there. -/
theorem toList_extend (s : OrderedSet key) {as : List α} (h : (as.map key).Nodup) :
    (s.extend as).toList = s.toList ++ as.filter fun a => !s.contains a := by
  induction as generalizing s with
  | nil => simp
  | cons a as ih =>
    rw [List.map_cons, List.nodup_cons] at h
    have hrest : as.filter (fun b => !(s.insert a).contains b) = as.filter fun b => !s.contains b := by
      refine List.filter_congr fun b hb => ?_
      rw [contains_insert_of_ne]
      intro heq
      exact h.1 (heq ▸ List.mem_map_of_mem hb)
    rw [extend_cons, ih (s.insert a) h.2, hrest, toList_insert]
    cases hold : s.contains a with
    | true => simp [hold]
    | false => simp [hold]

theorem toList_union (s t : OrderedSet key) :
    (s.union t).toList = s.toList ++ t.toList.filter fun a => !s.contains a := by
  have hnodup := (s.extend t.toList).nodup_toList
  rw [s.toList_extend t.nodup_toList] at hnodup
  exact toList_ofList_of_nodup _ hnodup

/-- To add the items of a set one after the other comes to the union. -/
theorem toList_extend_toList (s t : OrderedSet key) :
    (s.extend t.toList).toList = (s.union t).toList :=
  (s.toList_extend t.nodup_toList).trans (s.toList_union t).symm

theorem mem_union (s t : OrderedSet key) {b : α} :
    b ∈ (s.union t).toList ↔ b ∈ s.toList ∨ b ∈ t.toList ∧ key b ∉ s.toList.map key := by
  rw [toList_union, List.mem_append, List.mem_filter, Bool.not_eq_true', ← Bool.not_eq_true,
    contains_iff]

theorem mem_union_cases {s t : OrderedSet key} {b : α} (h : b ∈ (s.union t).toList) :
    b ∈ s.toList ∨ b ∈ t.toList :=
  ((s.mem_union t).1 h).imp_right And.left

theorem toList_inter (s t : OrderedSet key) : (s.inter t).toList = s.toList.filter t.contains :=
  toList_filter t.contains s

theorem toList_diff (s t : OrderedSet key) :
    (s.diff t).toList = s.toList.filter fun a => !t.contains a :=
  toList_filter (fun a => !t.contains a) s

theorem any_contains_iff (s t : OrderedSet key) :
    s.toList.any t.contains = true ↔ ∃ k, k ∈ s.toList.map key ∧ k ∈ t.toList.map key := by
  simp only [List.any_eq_true, contains_iff]
  constructor
  · rintro ⟨a, ha, hkey⟩
    exact ⟨key a, List.mem_map_of_mem ha, hkey⟩
  · rintro ⟨k, hk, hkey⟩
    obtain ⟨a, ha, rfl⟩ := List.mem_map.1 hk
    exact ⟨a, ha, hkey⟩

/-- Whichever set is looked through, some key is found to be in both. -/
theorem intersects_iff (s t : OrderedSet key) :
    s.intersects t = true ↔ ∃ k, k ∈ s.toList.map key ∧ k ∈ t.toList.map key := by
  unfold intersects
  split
  · exact any_contains_iff s t
  · rw [any_contains_iff t s]
    simp only [and_comm]

theorem intersects_comm (s t : OrderedSet key) : s.intersects t = t.intersects s := by
  rw [Bool.eq_iff_iff, intersects_iff, intersects_iff]
  simp only [and_comm]

theorem isEmpty_iff (s : OrderedSet key) : s.isEmpty = true ↔ s.toList = [] := by
  unfold isEmpty toList
  rw [Array.isEmpty_iff, Array.toList_eq_nil_iff]

theorem intersects_iff_inter (s t : OrderedSet key) :
    s.intersects t = true ↔ (s.inter t).isEmpty = false := by
  rw [intersects_iff, ← any_contains_iff, ← Bool.not_eq_true, isEmpty_iff, toList_inter,
    List.filter_eq_nil_iff, ← List.any_eq_false, Bool.not_eq_false]

/-- Only where no key is in both sets is nothing of the second left out of the union. -/
theorem toList_union_eq_append_iff (s t : OrderedSet key) :
    (s.union t).toList = s.toList ++ t.toList ↔ s.intersects t = false := by
  rw [toList_union, List.append_cancel_left_eq, List.filter_eq_self, intersects_comm,
    ← Bool.not_eq_true, intersects_iff, ← any_contains_iff, Bool.not_eq_true, List.any_eq_false]
  simp only [Bool.not_eq_true', Bool.not_eq_true]

theorem toList_inter_eq_nil_iff (s t : OrderedSet key) :
    (s.inter t).toList = [] ↔ s.intersects t = false := by
  rw [← isEmpty_iff, ← Bool.not_eq_true (s.intersects t), intersects_iff_inter, Bool.not_eq_false]

theorem toList_diff_eq_self_iff (s t : OrderedSet key) :
    (s.diff t).toList = s.toList ↔ s.intersects t = false := by
  rw [toList_diff, List.filter_eq_self, ← Bool.not_eq_true (s.intersects t), intersects_iff,
    ← any_contains_iff, Bool.not_eq_true, List.any_eq_false]
  simp only [Bool.not_eq_true', Bool.not_eq_true]

/-- As many keys, and all of the one set in the other: the keys are the same. -/
theorem sameKeys_iff (s t : OrderedSet key) :
    s.sameKeys t = true ↔ ∀ k, k ∈ s.toList.map key ↔ k ∈ t.toList.map key := by
  have hall : s.toList.all t.contains = true ↔ s.toList.map key ⊆ t.toList.map key := by
    simp only [List.all_eq_true, contains_iff]
    exact List.forall_mem_map.symm
  have hlength : s.size = t.size ↔ (s.toList.map key).length = (t.toList.map key).length := by
    rw [size_eq, size_eq, List.length_map, List.length_map]
  rw [sameKeys, Bool.and_eq_true, beq_iff_eq, hall, hlength]
  constructor
  · rintro ⟨hsize, hsub⟩ k
    -- distinct keys, all of them in a list that is no longer: there is no room for another
    have hperm := (s.nodup_toList.subperm hsub).perm_of_length_le (Nat.le_of_eq hsize.symm)
    exact hperm.mem_iff
  · intro hkeys
    have hperm := (List.perm_ext_iff_of_nodup s.nodup_toList t.nodup_toList).2 hkeys
    exact ⟨hperm.length_eq, hperm.subset⟩

/-! ## Several tests of one set -/

theorem contains_filter {s : OrderedSet key} {a : α} (ha : a ∈ s.toList) (test : α → Bool) :
    (s.filter test).contains a = test a := by
  rw [Bool.eq_iff_iff, contains_iff, toList_filter, List.mem_map]
  constructor
  · rintro ⟨b, hb, hkey⟩
    obtain ⟨hmem, htest⟩ := List.mem_filter.1 hb
    exact List.inj_on_of_nodup_map s.nodup_toList hmem ha hkey ▸ htest
  · exact fun htest => ⟨a, List.mem_filter.2 ⟨ha, htest⟩, rfl⟩

theorem toList_inter_filter (s : OrderedSet key) (t u : α → Bool) :
    ((s.filter t).inter (s.filter u)).toList = s.toList.filter fun a => t a && u a := by
  have htest : (s.toList.filter t).filter (s.filter u).contains = (s.toList.filter t).filter u :=
    List.filter_congr fun a ha => contains_filter (List.mem_of_mem_filter ha) u
  rw [toList_inter, toList_filter, htest, List.filter_filter]
  exact List.filter_congr fun a _ => Bool.and_comm (u a) (t a)

theorem toList_diff_filter (s : OrderedSet key) (t : α → Bool) :
    (s.diff (s.filter t)).toList = s.toList.filter fun a => !t a := by
  rw [toList_diff]
  exact List.filter_congr fun a ha => congrArg (! ·) (contains_filter ha t)

theorem mem_keys_filter (s : OrderedSet key) (t : α → Bool) (k : κ) :
    k ∈ (s.filter t).toList.map key ↔ ∃ a ∈ s.toList, t a = true ∧ key a = k := by
  rw [toList_filter, List.mem_map]
  simp only [List.mem_filter, and_assoc]

theorem sameKeys_filter_and (s : OrderedSet key) (t u : α → Bool) :
    (s.filter fun a => t a && u a).sameKeys ((s.filter t).inter (s.filter u)) = true := by
  rw [sameKeys_iff, toList_inter_filter, toList_filter]
  exact fun _ => Iff.rfl

theorem sameKeys_filter_or (s : OrderedSet key) (t u : α → Bool) :
    (s.filter fun a => t a || u a).sameKeys ((s.filter t).union (s.filter u)) = true := by
  rw [sameKeys_iff, ← toList_extend_toList]
  intro k
  rw [mem_keys_extend, mem_keys_filter, mem_keys_filter, mem_keys_filter]
  simp only [Bool.or_eq_true, or_and_right, and_or_left, exists_or]

theorem sameKeys_filter_not (s : OrderedSet key) (t : α → Bool) :
    (s.filter fun a => !t a).sameKeys (s.diff (s.filter t)) = true := by
  rw [sameKeys_iff, toList_diff_filter, toList_filter]
  exact fun _ => Iff.rfl

section Class

/-! ## Classes of items that keys tell apart -/

variable {P : α → Prop} (hinj : ∀ a b, P a → P b → key a = key b → a = b)
include hinj

theorem mem_extend_iff {s : OrderedSet key} {as : List α} (hs : ∀ a ∈ s.toList, P a)
    (has : ∀ a ∈ as, P a) {b : α} : b ∈ (s.extend as).toList ↔ b ∈ s.toList ∨ b ∈ as := by
  constructor
  · exact mem_extend_cases
  · rintro (h | h)
    · exact mem_extend_of_mem h as
    · have hkey : key b ∈ (s.extend as).toList.map key :=
        (mem_keys_extend s as (key b)).2 (Or.inr (List.mem_map_of_mem h))
      obtain ⟨c, hc, heq⟩ := List.mem_map.1 hkey
      have hPc : P c := by
        rcases mem_extend_cases hc with h' | h'
        · exact hs c h'
        · exact has c h'
      have hcb : c = b := hinj c b hPc (has b h) heq
      exact hcb ▸ hc

theorem mem_ofList_iff {as : List α} (has : ∀ a ∈ as, P a) {b : α} :
    b ∈ (ofList as : OrderedSet key).toList ↔ b ∈ as := by
  unfold ofList
  rw [mem_extend_iff hinj (s := empty) (by simp) has]
  simp

theorem contains_iff_mem {s : OrderedSet key} (hs : ∀ a ∈ s.toList, P a) {b : α} (hb : P b) :
    s.contains b = true ↔ b ∈ s.toList := by
  rw [contains_iff]
  constructor
  · intro h
    obtain ⟨c, hc, heq⟩ := List.mem_map.1 h
    have hcb : c = b := hinj c b (hs c hc) hb heq
    exact hcb ▸ hc
  · exact List.mem_map_of_mem

/-- Items may be left out before they are put into a set or after. -/
theorem filter_toList_ofList {as : List α} (has : ∀ a ∈ as, P a) (p : α → Bool) :
    (ofList as : OrderedSet key).toList.filter p =
      (ofList (as.filter p) : OrderedSet key).toList := by
  have hsnoc : ∀ (bs : List α) (b : α),
      (ofList (bs ++ [b]) : OrderedSet key) = (ofList bs).insert b :=
    fun bs b => extend_append empty bs [b]
  -- items go in at the end of a set, so the induction takes the last one off
  induction as using List.reverseRecOn with
  | nil => rfl
  | append_singleton as a ih =>
    have hfront : ∀ b ∈ as, P b := fun b hb => has b (List.mem_append_left [a] hb)
    have ha : P a := has a (List.mem_append_right as List.mem_cons_self)
    have hkept : ∀ b ∈ as.filter p, P b := fun b hb => hfront b (List.mem_of_mem_filter hb)
    have hold : ∀ {bs : List α}, (∀ b ∈ bs, P b) →
        ((ofList bs : OrderedSet key).contains a = true ↔ a ∈ bs) := by
      intro bs hbs
      rw [contains_iff_mem hinj (fun b hb => hbs b (mem_of_mem_ofList hb)) ha,
        mem_ofList_iff hinj hbs]
    rw [hsnoc, toList_insert, List.filter_append, List.filter_singleton]
    cases hp : p a with
    | false =>
      rw [Bool.cond_false, List.append_nil, ← ih hfront]
      split
      · rfl
      · simp [hp]
    | true =>
      rw [Bool.cond_true, hsnoc, toList_insert, ← ih hfront]
      by_cases hmem : a ∈ as
      · rw [if_pos ((hold hfront).2 hmem), if_pos ((hold hkept).2 (List.mem_filter.2 ⟨hmem, hp⟩))]
      · rw [if_neg fun h => hmem ((hold hfront).1 h),
          if_neg fun h => hmem (List.mem_of_mem_filter ((hold hkept).1 h))]
        simp [hp]

variable {s t : OrderedSet key} (hs : ∀ a ∈ s.toList, P a) (ht : ∀ a ∈ t.toList, P a)
include hs ht

theorem mem_union_iff {b : α} : b ∈ (s.union t).toList ↔ b ∈ s.toList ∨ b ∈ t.toList := by
  rw [← toList_extend_toList]
  exact mem_extend_iff hinj hs ht

theorem mem_inter_iff {b : α} : b ∈ (s.inter t).toList ↔ b ∈ s.toList ∧ b ∈ t.toList := by
  rw [toList_inter, List.mem_filter]
  exact and_congr_right fun hb => contains_iff_mem hinj ht (hs b hb)

theorem mem_diff_iff {b : α} : b ∈ (s.diff t).toList ↔ b ∈ s.toList ∧ b ∉ t.toList := by
  rw [toList_diff, List.mem_filter]
  refine and_congr_right fun hb => ?_
  rw [Bool.not_eq_true', ← Bool.not_eq_true, contains_iff_mem hinj ht (hs b hb)]

/-- An item of the class is in the set whose keys have its key. -/
theorem sameKeys_iff_mem : s.sameKeys t = true ↔ ∀ a, a ∈ s.toList ↔ a ∈ t.toList := by
  rw [sameKeys_iff]
  constructor
  · intro hkeys a
    constructor
    · intro ha
      have hmem := (hkeys (key a)).1 (List.mem_map_of_mem ha)
      exact (contains_iff_mem hinj ht (hs a ha)).1 ((contains_iff t a).2 hmem)
    · intro ha
      have hmem := (hkeys (key a)).2 (List.mem_map_of_mem ha)
      exact (contains_iff_mem hinj hs (ht a ha)).1 ((contains_iff s a).2 hmem)
  · intro hitems k
    simp only [List.mem_map, hitems]

end Class

end CallAtlas.OrderedSet
