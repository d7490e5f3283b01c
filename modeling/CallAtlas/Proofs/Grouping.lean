/-
# `CallAtlas.Proofs.Grouping` — lists without repetitions, and grouped by a key

`List.eraseDups` keeps the first of several equal items, and an ordered set the
first of several with one key, so it lists what `eraseDupsBy` leaves
(`toList_ofList_eq_eraseDupsBy`).  Most inductions on repetitions go along the
end of the list, where an item is added unless it was there
(`eraseDups_concat`).

`List.mergeSort` leaves items that it does not tell apart in their order.  So to
sort items by a key that is a number is to go through the keys and to pick the
items of each (`mergeSort_eq_flatMap`).
-/
import CallAtlas.Proofs.OrderedSet
import Mathlib.Data.List.Induction
import Mathlib.Data.List.Nodup

namespace CallAtlas.Grouping

variable {α : Type}

/-! ## First occurrences -/

section Repetitions

variable [BEq α] [LawfulBEq α]

theorem eraseDups_concat (l : List α) (a : α) :
    (l ++ [a]).eraseDups = if a ∈ l then l.eraseDups else l.eraseDups ++ [a] := by
  rw [List.eraseDups_append]
  split
  · rename_i h
    have hgone : [a].removeAll l = [] := by simpa [List.removeAll] using h
    rw [hgone, List.eraseDups_nil, List.append_nil]
  · rename_i h
    have hstays : [a].removeAll l = [a] := by simpa [List.removeAll] using h
    rw [hstays]
    rfl

theorem eraseDups_of_nodup {l : List α} (h : l.Nodup) : l.eraseDups = l := by
  induction l using List.reverseRecOn with
  | nil => rfl
  | append_singleton l a ih =>
    obtain ⟨hinit, -, hnew⟩ := List.nodup_append.1 h
    have ha : a ∉ l := fun hmem => hnew a hmem a (List.mem_singleton_self a) rfl
    rw [eraseDups_concat, if_neg ha, ih hinit]

/-- Removing repetitions and leaving items out can be done in either order. -/
theorem eraseDups_filter (p : α → Bool) (l : List α) :
    (l.filter p).eraseDups = l.eraseDups.filter p := by
  induction l using List.reverseRecOn with
  | nil => rfl
  | append_singleton l a ih =>
    rw [List.filter_append, eraseDups_concat]
    by_cases ha : p a = true
    · have hin : [a].filter p = [a] := List.filter_cons_of_pos ha
      have hmem : a ∈ l.filter p ↔ a ∈ l := by rw [List.mem_filter, and_iff_left ha]
      rw [hin, eraseDups_concat, ih]
      simp only [hmem]
      split
      · rfl
      · rw [List.filter_append, hin]
    · have hout : [a].filter p = [] := List.filter_cons_of_neg ha
      rw [hout, List.append_nil, ih]
      split
      · rfl
      · rw [List.filter_append, hout, List.append_nil]

theorem eraseDups_map {β : Type} [BEq β] [LawfulBEq β] {f : α → β} (hf : f.Injective)
    (l : List α) : (l.map f).eraseDups = l.eraseDups.map f := by
  induction l using List.reverseRecOn with
  | nil => rfl
  | append_singleton l a ih =>
    have hmem : f a ∈ l.map f ↔ a ∈ l := List.mem_map_of_injective hf
    rw [List.map_append, List.map_singleton, eraseDups_concat, eraseDups_concat, ih]
    simp only [hmem]
    split
    · rfl
    · rw [List.map_append, List.map_singleton]

end Repetitions

/-- A set lists items without those that have the key of one before them. -/
theorem toList_ofList_eq_eraseDupsBy {κ : Type} [Ord κ] [Std.TransOrd κ] [Std.LawfulEqOrd κ]
    [BEq κ] [LawfulBEq κ] {key : α → κ} (l : List α) :
    (OrderedSet.ofList l : OrderedSet key).toList = l.eraseDupsBy fun a b => key a == key b := by
  have hextend : ∀ (s : OrderedSet key), (s.extend l).toList =
      s.toList ++ (l.filter fun a => !s.contains a).eraseDupsBy fun a b => key a == key b := by
    induction l with
    | nil => simp
    | cons a l ih =>
      intro s
      rw [OrderedSet.extend_cons, ih (s.insert a), OrderedSet.toList_insert]
      cases hold : s.contains a with
      | true =>
        have hsame : s.insert a = s := by rw [OrderedSet.insert, dif_pos hold]
        simp [hold, hsame]
      | false =>
        have hrest : (l.filter fun b => !(s.insert a).contains b) =
            (l.filter fun b => !s.contains b).filter fun b => (key b == key a) = false := by
          rw [List.filter_filter]
          refine List.filter_congr fun b _ => ?_
          have hnew : (s.insert a).contains b = (s.contains b || key b == key a) := by
            rw [Bool.eq_iff_iff, OrderedSet.contains_iff, OrderedSet.mem_keys_insert,
              Bool.or_eq_true, OrderedSet.contains_iff, beq_iff_eq]
          rw [hnew, Bool.not_or]
          cases s.contains b <;> cases key b == key a <;> rfl
        rw [hrest, List.filter_cons_of_pos (by simp [hold]), List.eraseDupsBy_cons]
        simp
  have hempty : (l.filter fun a => !(OrderedSet.empty : OrderedSet key).contains a) = l := by
    refine List.filter_eq_self.2 fun a _ => ?_
    rw [Bool.not_eq_true', ← Bool.not_eq_true, OrderedSet.contains_iff]
    exact List.not_mem_nil
  rw [OrderedSet.ofList, hextend, hempty]
  rfl

/-- A set of items that are their own keys lists them without repetitions. -/
theorem toList_ofList [BEq α] [LawfulBEq α] [Ord α] [Std.TransOrd α] [Std.LawfulEqOrd α]
    (l : List α) : (OrderedSet.ofList l : OrderedSet fun a : α => a).toList = l.eraseDups :=
  toList_ofList_eq_eraseDupsBy l

/-! ## Groups -/

variable (key : α → Nat)

/-- Ascending items whose keys are at most `n` end with those whose key is `n`. -/
theorem filter_lt_append_filter_eq {n : Nat} {l : List α}
    (hsorted : l.Pairwise fun a b => key a ≤ key b) (hbound : ∀ a ∈ l, key a ≤ n) :
    (l.filter fun a => key a < n) ++ (l.filter fun a => key a = n) = l := by
  induction l with
  | nil => rfl
  | cons a l ih =>
    obtain ⟨hfirst, hrest⟩ := List.pairwise_cons.1 hsorted
    have hle := fun b hb => hbound b (List.mem_cons_of_mem a hb)
    by_cases ha : key a < n
    · rw [List.filter_cons_of_pos (by simpa using ha),
        List.filter_cons_of_neg (by simpa using Nat.ne_of_lt ha), List.cons_append, ih hrest hle]
    · have hall : ∀ b ∈ a :: l, key b = n := by
        intro b hb
        have hab : key a ≤ key b := by
          rcases List.mem_cons.1 hb with rfl | hb
          · exact Nat.le_refl (key b)
          · exact hfirst b hb
        have := hbound b hb
        omega
      have hnone : ((a :: l).filter fun b => key b < n) = [] := by
        rw [List.filter_eq_nil_iff]
        intro b hb
        simp [hall b hb]
      rw [hnone, List.nil_append, List.filter_eq_self]
      intro b hb
      exact decide_eq_true (hall b hb)

/-- Ascending items whose keys are below `n` are those of each key, one key after the other. -/
theorem flatMap_filter_of_ascending {n : Nat} {l : List α}
    (hsorted : l.Pairwise fun a b => key a ≤ key b) (hbound : ∀ a ∈ l, key a < n) :
    ((List.range n).flatMap fun k => l.filter fun a => key a = k) = l := by
  induction n generalizing l with
  | zero =>
    cases l with
    | nil => rfl
    | cons a l => exact absurd (hbound a List.mem_cons_self) (Nat.not_lt_zero _)
  | succ n ih =>
    let below := l.filter fun a => key a < n
    have hbelow : ((List.range n).flatMap fun k => below.filter fun a => key a = k) = below := by
      refine ih (hsorted.sublist List.filter_sublist) ?_
      intro a ha
      exact of_decide_eq_true (List.mem_filter.1 ha).2
    have hgroups : ∀ k ∈ List.range n,
        (l.filter fun a => key a = k) = below.filter fun a => key a = k := by
      intro k hk
      rw [List.filter_filter]
      refine List.filter_congr fun a _ => ?_
      have := List.mem_range.1 hk
      by_cases ha : key a = k
      · simp [ha, this]
      · simp [ha]
    rw [List.range_succ, List.flatMap_append, List.flatMap_congr hgroups, hbelow,
      List.flatMap_singleton]
    exact filter_lt_append_filter_eq key hsorted fun a ha => Nat.le_of_lt_succ (hbound a ha)

theorem key_le_trans (a b c : α) (hab : decide (key a ≤ key b) = true)
    (hbc : decide (key b ≤ key c) = true) : decide (key a ≤ key c) = true :=
  decide_eq_true (Nat.le_trans (of_decide_eq_true hab) (of_decide_eq_true hbc))

theorem key_le_total (a b : α) : (decide (key a ≤ key b) || decide (key b ≤ key a)) = true := by
  rw [Bool.or_eq_true, decide_eq_true_iff, decide_eq_true_iff]
  exact Nat.le_total (key a) (key b)

/-- Sorting by a key leaves the items of one key in their order. -/
theorem filter_mergeSort (l : List α) (k : Nat) :
    ((l.mergeSort fun a b => key a ≤ key b).filter fun a => key a = k) =
      l.filter fun a => key a = k := by
  have hgroup : (l.filter fun a => key a = k).Pairwise fun a b =>
      decide (key a ≤ key b) = true := by
    refine List.pairwise_of_forall_mem_list ?_
    intro a ha b hb
    have hka := of_decide_eq_true (List.mem_filter.1 ha).2
    have hkb := of_decide_eq_true (List.mem_filter.1 hb).2
    exact decide_eq_true (by omega)
  have hsub : List.Sublist (l.filter fun a => key a = k)
      (l.mergeSort fun a b => key a ≤ key b) :=
    List.sublist_mergeSort (key_le_trans key) (key_le_total key) hgroup List.filter_sublist
  have hwithin := hsub.filter fun a => decide (key a = k)
  rw [List.filter_filter, List.filter_congr fun a _ => Bool.and_self _] at hwithin
  refine (hwithin.eq_of_length ?_).symm
  exact ((List.mergeSort_perm l _).filter _).length_eq.symm

/-- To sort items by a key is to go through the keys and to pick the items of each. -/
theorem mergeSort_eq_flatMap {n : Nat} {l : List α} (hbound : ∀ a ∈ l, key a < n) :
    (l.mergeSort fun a b => key a ≤ key b) =
      (List.range n).flatMap fun k => l.filter fun a => key a = k := by
  have hsorted : (l.mergeSort fun a b => key a ≤ key b).Pairwise fun a b => key a ≤ key b := by
    have hpairs := List.pairwise_mergeSort (key_le_trans key) (key_le_total key) l
    exact hpairs.imp of_decide_eq_true
  rw [← flatMap_filter_of_ascending key hsorted fun a ha => hbound a (List.mem_mergeSort.1 ha)]
  simp only [filter_mergeSort]

end CallAtlas.Grouping
