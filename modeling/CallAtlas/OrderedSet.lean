/-
# `CallAtlas.OrderedSet` — sets that remember the order of insertion

Every item has a key, and a set holds at most one item of each key: the
first that was inserted.  A search tree of the keys decides membership.
That it holds exactly the keys of the items, and that no two items share
one, is part of the type, so a set is known by its list of items: the laws
below say for each operation what it does to `toList`.
-/
import Std.Data.TreeSet.Lemmas

namespace CallAtlas

/-- A set of items in the order in which they were inserted, one for each key. -/
structure OrderedSet {α κ : Type} [Ord κ] [Std.TransOrd κ] [Std.LawfulEqOrd κ] (key : α → κ) where
  items : Array α
  keys : Std.TreeSet κ
  nodup : (items.toList.map key).Nodup
  mem_keys : ∀ k, k ∈ keys ↔ k ∈ items.toList.map key

namespace OrderedSet

variable {α κ : Type} [Ord κ] [Std.TransOrd κ] [Std.LawfulEqOrd κ] {key : α → κ}

/-- The items in order. -/
def toList (s : OrderedSet key) : List α := s.items.toList

/-- The number of items. -/
def size (s : OrderedSet key) : Nat := s.items.size

/-- Whether some item has the key. -/
def hasKey (s : OrderedSet key) (k : κ) : Bool := s.keys.contains k

/-- Whether an item with the same key is in the set. -/
def contains (s : OrderedSet key) (a : α) : Bool := s.hasKey (key a)

/-- Whether there is no item. -/
def isEmpty (s : OrderedSet key) : Bool := s.items.isEmpty

/-- The set without items. -/
def empty : OrderedSet key :=
  ⟨#[], ∅, by simp, by simp⟩

instance : Inhabited (OrderedSet key) := ⟨empty⟩

theorem hasKey_iff (s : OrderedSet key) (k : κ) : s.hasKey k = true ↔ k ∈ s.toList.map key := by
  unfold hasKey toList
  rw [← s.mem_keys k]
  exact Iff.rfl

theorem contains_iff (s : OrderedSet key) (a : α) :
    s.contains a = true ↔ key a ∈ s.toList.map key :=
  s.hasKey_iff (key a)

theorem nodup_toList (s : OrderedSet key) : (s.toList.map key).Nodup := s.nodup

theorem size_eq (s : OrderedSet key) : s.size = s.toList.length := by
  simp [size, toList]

/-- Adds an item at the end, unless its key is there already. -/
def insert (s : OrderedSet key) (a : α) : OrderedSet key :=
  if h : s.contains a = true then s
  else
    { items := s.items.push a
      keys := s.keys.insert (key a)
      nodup := by
        rw [contains_iff] at h
        have := s.nodup
        simp only [Array.toList_push, List.map_append, List.map_cons, List.map_nil]
        rw [List.nodup_append]
        refine ⟨this, by simp, ?_⟩
        intro x hx y hy
        rw [List.mem_singleton] at hy
        subst hy
        intro hxy
        subst hxy
        exact h hx
      mem_keys := by
        intro k
        rw [Std.TreeSet.mem_insert, s.mem_keys k]
        simp only [Array.toList_push, List.map_append, List.map_cons, List.map_nil,
          List.mem_append, List.mem_singleton, Std.LawfulEqOrd.compare_eq_iff_eq]
        constructor
        · rintro (rfl | h)
          · exact Or.inr rfl
          · exact Or.inl h
        · rintro (h | rfl)
          · exact Or.inr h
          · exact Or.inl rfl }

/-- Adds items one after the other. -/
def extend (s : OrderedSet key) (as : List α) : OrderedSet key := as.foldl insert s

/-- The set of the items of a list: of those with one key the first. -/
def ofList (as : List α) : OrderedSet key := empty.extend as

/-- The items that pass a test. -/
def filter (p : α → Bool) (s : OrderedSet key) : OrderedSet key := ofList (s.toList.filter p)

/-- The items of `s`, then those of `t` that are new. -/
def union (s t : OrderedSet key) : OrderedSet key :=
  ofList (s.toList ++ t.toList.filter fun a => !s.contains a)

/-- The items of `s` whose keys are in `t`. -/
def inter (s t : OrderedSet key) : OrderedSet key := s.filter t.contains

/-- The items of `s` whose keys are not in `t`. -/
def diff (s t : OrderedSet key) : OrderedSet key := s.filter fun a => !t.contains a

theorem mem_foldl_insert (as : List α) (keys : Std.TreeSet κ) (k : κ) :
    k ∈ as.foldl (fun keys a => keys.insert (key a)) keys ↔ k ∈ keys ∨ k ∈ as.map key := by
  induction as generalizing keys with
  | nil => simp
  | cons a as ih =>
    rw [List.foldl_cons, ih, Std.TreeSet.mem_insert, Std.LawfulEqOrd.compare_eq_iff_eq,
      List.map_cons, List.mem_cons, ← or_assoc, or_comm (a := key a = k), eq_comm (a := key a)]

/-- Drops the items that fail a test from the set; the others stay where they are. -/
def retain (p : α → Bool) (s : OrderedSet key) : OrderedSet key where
  items := s.items.filter p
  keys := (s.items.filter p).foldl (fun keys a => keys.insert (key a)) ∅
  nodup := by
    rw [Array.toList_filter]
    exact s.nodup.sublist (List.filter_sublist.map key)
  mem_keys k := by
    rw [← Array.foldl_toList, mem_foldl_insert]
    simp

/-- Whether some key is in both sets; the smaller set is looked through. -/
def intersects (s t : OrderedSet key) : Bool :=
  if s.size ≤ t.size then s.toList.any t.contains else t.toList.any s.contains

/-- Whether both sets have the same keys. -/
def sameKeys (s t : OrderedSet key) : Bool := s.size == t.size && s.toList.all t.contains

/-- The items in another order: ascending, and where the order does not decide as before. -/
def sort (le : α → α → Bool) (s : OrderedSet key) : OrderedSet key :=
  ofList (s.toList.mergeSort le)

/-- The last item, and the set without it. -/
def pop? (s : OrderedSet key) : Option (α × OrderedSet key) :=
  match s.items.back? with
  | none => none
  | some a => some (a, ofList s.toList.dropLast)

@[simp] theorem toList_empty : (empty : OrderedSet key).toList = [] := rfl

theorem toList_insert (s : OrderedSet key) (a : α) :
    (s.insert a).toList = if s.contains a then s.toList else s.toList ++ [a] := by
  unfold insert
  split
  · simp
  · simp [toList]

theorem toList_insert_of_mem {s : OrderedSet key} {a : α} (h : key a ∈ s.toList.map key) :
    (s.insert a).toList = s.toList := by
  rw [toList_insert, if_pos ((contains_iff s a).2 h)]

theorem toList_insert_of_not_mem {s : OrderedSet key} {a : α} (h : key a ∉ s.toList.map key) :
    (s.insert a).toList = s.toList ++ [a] := by
  rw [toList_insert, if_neg (fun hc => h ((contains_iff s a).1 hc))]

@[simp] theorem extend_nil (s : OrderedSet key) : s.extend [] = s := rfl

@[simp] theorem extend_cons (s : OrderedSet key) (a : α) (as : List α) :
    s.extend (a :: as) = (s.insert a).extend as := rfl

/-- Items with new and distinct keys are all added, in their order. -/
theorem toList_extend_of_nodup (s : OrderedSet key) (as : List α)
    (h : (s.toList.map key ++ as.map key).Nodup) : (s.extend as).toList = s.toList ++ as := by
  induction as generalizing s with
  | nil => simp
  | cons a as ih =>
    have hnew : key a ∉ s.toList.map key := by
      intro hmem
      exact (List.nodup_append.1 h).2.2 _ hmem _ (by simp) rfl
    have heq := toList_insert_of_not_mem (s := s) (a := a) hnew
    rw [extend_cons, ih, heq]
    · simp
    · rw [heq]
      simpa using h

/-- A list of items with distinct keys is the list of its set. -/
theorem toList_ofList_of_nodup (as : List α) (h : (as.map key).Nodup) :
    (ofList as : OrderedSet key).toList = as := by
  unfold ofList
  rw [toList_extend_of_nodup]
  · simp
  · simpa using h

theorem toList_filter (p : α → Bool) (s : OrderedSet key) :
    (s.filter p).toList = s.toList.filter p := by
  unfold filter
  apply toList_ofList_of_nodup
  exact s.nodup_toList.sublist (List.filter_sublist.map key)

theorem toList_retain (p : α → Bool) (s : OrderedSet key) :
    (s.retain p).toList = s.toList.filter p :=
  Array.toList_filter

theorem toList_sort (le : α → α → Bool) (s : OrderedSet key) :
    (s.sort le).toList = s.toList.mergeSort le := by
  unfold sort
  apply toList_ofList_of_nodup
  exact (((List.mergeSort_perm s.toList le).map key).nodup_iff).2 s.nodup_toList

theorem pop?_eq_none_iff (s : OrderedSet key) : s.pop? = none ↔ s.toList = [] := by
  unfold pop? toList
  cases h : s.items.back? with
  | none => simpa [Array.back?_eq_none_iff] using h
  | some a =>
    simp only [reduceCtorEq, false_iff]
    intro hnil
    have : s.items = #[] := by simpa using hnil
    simp [this] at h

theorem pop?_eq_some {s t : OrderedSet key} {a : α} (h : s.pop? = some (a, t)) :
    s.toList = t.toList ++ [a] := by
  unfold pop? at h
  split at h
  · simp at h
  · rename_i b hb
    simp only [Option.some.injEq, Prod.mk.injEq] at h
    obtain ⟨rfl, rfl⟩ := h
    rw [toList_ofList_of_nodup]
    · have hl : s.toList.getLast? = some b := by
        rw [← hb]
        simp [toList]
      obtain ⟨before, hbefore⟩ := List.getLast?_eq_some_iff.1 hl
      simp [hbefore]
    · exact s.nodup_toList.sublist ((List.dropLast_sublist s.toList).map key)

end OrderedSet

end CallAtlas
