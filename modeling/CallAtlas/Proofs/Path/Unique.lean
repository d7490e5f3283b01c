/-
# `CallAtlas.Proofs.Path.Unique` — which of several shortest paths is kept

Of the paths that compete for one place the rule for ties prefers one, and
`exists_split_of_champion` says which by where it stands: before it come only
paths that it supersedes, after it only paths that do not supersede it.  Leaving
out the paths with other ends does not change what stands before what
(`exists_split_of_filter`), so the same holds of a whole set.

A set in which no two paths have the same ends is its own set of shortest paths
(`toList_unique_of_nodup`), and the set of shortest paths is such a set.
-/
import CallAtlas.Proofs.Path.Shortest
import CallAtlas.Proofs.Grouping

namespace CallAtlas

/-- Items that are left out do not change what stands before what. -/
theorem exists_split_of_filter {α : Type} {test : α → Bool} {l before after : List α} {a : α}
    (h : l.filter test = before ++ a :: after) :
    ∃ l₁ l₂, l = l₁ ++ a :: l₂ ∧ l₁.filter test = before ∧ l₂.filter test = after := by
  obtain ⟨front, rest, rfl, hfront, hrest⟩ := List.filter_eq_append_iff.1 h
  obtain ⟨skipped, back, rfl, hskipped, -, hback⟩ := List.filter_eq_cons_iff.1 hrest
  refine ⟨front ++ skipped, back, (List.append_assoc ..).symm, ?_, hback⟩
  rw [List.filter_append, hfront, List.filter_eq_nil_iff.2 hskipped, List.append_nil]

namespace PathSet

/-! ## Where the champion stands -/

theorem champion_concat (rule : TieBreak) (ps : List CallPath) (p : CallPath) :
    champion rule (ps ++ [p]) = some (keepShorter rule p (champion rule ps)) := by
  unfold champion
  rw [List.foldl_append]
  rfl

/-- A path that supersedes another supersedes all that are no shorter than the other. -/
theorem supersedes_of_le {rule : TieBreak} {n k m : Nat} (h : supersedes rule n k = true)
    (hkm : k ≤ m) : supersedes rule n m = true := by
  cases rule <;> simp only [supersedes, decide_eq_true_eq] at h ⊢ <;> omega

/-- A champion supersedes all that come before it, and none that comes after supersedes it. -/
theorem exists_split_of_champion {rule : TieBreak} {ps : List CallPath} {q : CallPath}
    (h : champion rule ps = some q) :
    ∃ before after, ps = before ++ q :: after ∧
      (∀ p ∈ before, supersedes rule q.length p.length = true) ∧
      ∀ p ∈ after, ¬ supersedes rule p.length q.length = true := by
  -- the champion of a longer list is settled by its last path, so the induction takes that off
  induction ps using List.reverseRecOn generalizing q with
  | nil => cases h
  | append_singleton ps p ih =>
    rw [champion_concat, Option.some.injEq] at h
    cases hkept : champion rule ps with
    | none =>
      rw [hkept] at h
      have hnil : ps = [] := by
        by_contra hne
        obtain ⟨r, -, hr, -⟩ := exists_champion rule hne
        rw [hkept] at hr
        cases hr
      exact ⟨[], [], by rw [hnil, ← h]; rfl, by simp, by simp⟩
    | some kept =>
      rw [hkept, keepShorter] at h
      by_cases hsup : supersedes rule p.length kept.length = true
      · rw [if_pos hsup] at h
        subst h
        have hleast : ∀ r ∈ ps, kept.length ≤ r.length := by
          obtain ⟨r, -, hr, hall⟩ := exists_champion rule
            (List.ne_nil_of_mem (champion_mem hkept))
          rw [hkept, Option.some.injEq] at hr
          exact hr ▸ hall
        exact ⟨ps, [], rfl, fun r hr => supersedes_of_le hsup (hleast r hr), by simp⟩
      · rw [if_neg hsup] at h
        subst h
        obtain ⟨before, after, rfl, hbefore, hafter⟩ := ih hkept
        refine ⟨before, after ++ [p], by simp, hbefore, ?_⟩
        intro r hr
        rcases List.mem_append.1 hr with hr | hr
        · exact hafter r hr
        · rw [List.mem_singleton.1 hr]
          exact hsup

theorem ends_ne_nil_iff {p : CallPath} : p.ends ≠ [] ↔ p.symbols ≠ [] := by
  rw [CallPath.ends_eq]
  unfold CallPath.ids
  cases p.symbols <;> simp

theorem symbols_ne_nil_of_ends_eq {p r : CallPath} (h : r.ends = p.ends) (hne : p.symbols ≠ []) :
    r.symbols ≠ [] := by
  rw [← ends_ne_nil_iff, h, ends_ne_nil_iff]
  exact hne

theorem symbols_ne_nil_of_mem_unique {s : PathSet} {p : CallPath} (h : p ∈ s.unique.toList) :
    p.symbols ≠ [] :=
  (mem_rivals.1 (champion_mem (mem_unique.1 h))).2.1

/-- In a set, too, the path kept for its ends supersedes those with the same ends that come
before it, and none that comes after supersedes it. -/
theorem exists_split_of_mem_unique {s : PathSet} {p : CallPath} (h : p ∈ s.unique.toList) :
    ∃ before after, s.toList = before ++ p :: after ∧
      (∀ r ∈ before, r.ends = p.ends →
        supersedes s.graph.config.tieBreak p.length r.length = true) ∧
      ∀ r ∈ after, r.ends = p.ends →
        ¬ supersedes s.graph.config.tieBreak r.length p.length = true := by
  have hne := symbols_ne_nil_of_mem_unique h
  obtain ⟨front, back, hsplit, hfront, hback⟩ := exists_split_of_champion (mem_unique.1 h)
  obtain ⟨front', back', hproper, rfl, rfl⟩ := exists_split_of_filter hsplit
  obtain ⟨before, after, hlist, rfl, rfl⟩ := exists_split_of_filter hproper
  have hproper : ∀ {l : List CallPath} {r : CallPath}, r ∈ l → r.ends = p.ends →
      r ∈ (l.filter fun r => !r.isEmpty).filter fun r => r.ends = p.ends := by
    intro l r hr hends
    have hrne := symbols_ne_nil_of_ends_eq hends hne
    refine List.mem_filter.2 ⟨List.mem_filter.2 ⟨hr, ?_⟩, decide_eq_true hends⟩
    simpa [CallPath.isEmpty] using hrne
  exact ⟨before, after, hlist, fun r hr hends => hfront r (hproper hr hends),
    fun r hr hends => hback r (hproper hr hends)⟩

/-! ## The ends of what is kept -/

theorem toList_endsOf (ps : List CallPath) : (endsOf ps).toList = (ps.map CallPath.ends).eraseDups :=
  Grouping.toList_ofList (ps.map CallPath.ends)

/-- For each two ends between which there is a path one is kept. -/
theorem map_ends_keptFor {s : PathSet} {es : List (List Nat)} (h : ∀ ends ∈ es, s.rivals ends ≠ []) :
    (es.filterMap s.keptFor).map CallPath.ends = es := by
  induction es with
  | nil => rfl
  | cons ends es ih =>
    obtain ⟨q, -, hq, -⟩ := exists_champion s.graph.config.tieBreak (h ends List.mem_cons_self)
    have hkept : s.keptFor ends = some q := hq
    rw [List.filterMap_cons_some hkept, List.map_cons, ends_of_keptFor hq,
      ih fun e he => h e (List.mem_cons_of_mem ends he)]

/-- The kept paths have each two ends once, in the order in which they came first. -/
theorem map_ends_unique (s : PathSet) :
    s.unique.toList.map CallPath.ends = (s.proper.map CallPath.ends).eraseDups := by
  rw [toList_unique, toList_endsOf]
  apply map_ends_keptFor
  intro ends hmem
  rw [List.mem_eraseDups] at hmem
  obtain ⟨p, hp, rfl⟩ := List.mem_map.1 hmem
  exact List.ne_nil_of_mem (List.mem_filter.2 ⟨hp, decide_eq_true rfl⟩)

theorem nodup_ends_unique (s : PathSet) : (s.unique.toList.map CallPath.ends).Nodup := by
  have h := (endsOf s.proper).nodup_toList
  rw [List.map_id', toList_endsOf, ← map_ends_unique] at h
  exact h

/-- Where no two paths have the same ends each is kept. -/
theorem toList_unique_of_nodup {s : PathSet} (hnodup : (s.toList.map CallPath.ends).Nodup)
    (hne : ∀ p ∈ s.toList, p.symbols ≠ []) : s.unique.toList = s.toList := by
  have hproper : s.proper = s.toList := by
    refine List.filter_eq_self.2 fun p hp => ?_
    simpa [CallPath.isEmpty] using hne p hp
  have hkept : ∀ p ∈ s.toList, s.keptFor p.ends = some p := by
    intro p hp
    obtain ⟨q, hq, hends, -, -⟩ := exists_mem_unique hp (hne p hp)
    have hqp : q = p := List.inj_on_of_nodup_map hnodup (mem_of_mem_unique hq) hp hends
    exact mem_unique.1 (hqp ▸ hq)
  rw [toList_unique, toList_endsOf, hproper, Grouping.eraseDups_of_nodup hnodup,
    List.filterMap_map]
  exact (List.filterMap_congr hkept).trans List.filterMap_some

theorem unique_eq (s : PathSet) : s.unique = s.derive (.ofList s.unique.toList) := by
  have hbest : (fun ends : List Nat => (shortest s.graph.config.tieBreak s.proper)[ends]?) =
      s.keptFor :=
    funext (getElem?_shortest s.graph.config.tieBreak s.proper)
  rw [toList_unique, ← hbest]
  rfl

theorem unique_unique (s : PathSet) : s.unique.unique = s.unique := by
  have hkeep : s.unique.unique.toList = s.unique.toList :=
    toList_unique_of_nodup s.nodup_ends_unique fun _ => symbols_ne_nil_of_mem_unique
  calc s.unique.unique = s.unique.derive (.ofList s.unique.unique.toList) := unique_eq s.unique
    _ = s.unique.derive (.ofList s.unique.toList) := by rw [hkeep]
    _ = s.unique := (unique_eq s).symm

/-! ## The shortest paths of a set -/

/-- Of the paths that begin and end like a path of the set one is kept, and it is as short as
any of them. -/
theorem exists_mem_unique_sameEnds {s : PathSet} {r : CallPath} (hr : r ∈ s.toList)
    (hne : r.symbols ≠ []) :
    ∃ p ∈ s.unique.toList, p.SameEnds r ∧
      (∀ q ∈ s.toList, q.SameEnds r → p.length ≤ q.length) ∧
      ∀ q ∈ s.unique.toList, q.SameEnds r → q = p := by
  obtain ⟨p, hp, hends, hleast, honly⟩ := exists_mem_unique hr hne
  refine ⟨p, hp, CallPath.ends_eq_ends_iff.1 hends, fun q hq hsame => ?_, fun q hq hsame => ?_⟩
  · have hqends := CallPath.ends_eq_ends_iff.2 hsame
    exact hleast q hq (symbols_ne_nil_of_ends_eq hqends hne) hqends
  · exact honly q hq (CallPath.ends_eq_ends_iff.2 hsame)

/-- Between each two ends that occur one path is kept and no other, and the pairs of ends come
in the order in which they came first.  It is a path of the set, none with its ends is shorter,
and of those as short it is the first or the last, as the rule for ties has it.  To keep the
shortest paths once more changes nothing.  To have the same ends is to begin with the same symbol
and to end with the same symbol, and said so, too, one path is kept, and the shortest. -/
theorem unique_keeps_one_shortest (s : PathSet) :
    s.unique.toList.map CallPath.ends =
        ((s.toList.filter fun p => !p.isEmpty).map CallPath.ends).eraseDups ∧
      (∀ p ∈ s.unique.toList, p ∈ s.toList ∧ p.symbols ≠ [] ∧
        (∀ r ∈ s.toList, r.ends = p.ends → p.length ≤ r.length) ∧
        ∃ before after, s.toList = before ++ p :: after ∧
          match s.graph.config.tieBreak with
          | .firstSeen => ∀ r ∈ before, r.ends = p.ends → p.length < r.length
          | .lastSeen => ∀ r ∈ after, r.ends = p.ends → p.length < r.length) ∧
      s.unique.unique = s.unique ∧
      (∀ p q : CallPath, p.ends = q.ends ↔
        p.first?.map Symbol.id = q.first?.map Symbol.id ∧
          p.last?.map Symbol.id = q.last?.map Symbol.id) ∧
      ∀ r ∈ s.toList, r.symbols ≠ [] →
        ∃ p ∈ s.unique.toList, p.SameEnds r ∧
          (∀ q ∈ s.toList, q.SameEnds r → p.length ≤ q.length) ∧
          ∀ q ∈ s.unique.toList, q.SameEnds r → q = p := by
  refine ⟨map_ends_unique s, ?_, unique_unique s, fun _ _ => CallPath.ends_eq_ends_iff,
    fun _ => exists_mem_unique_sameEnds⟩
  intro p hp
  have hne := symbols_ne_nil_of_mem_unique hp
  obtain ⟨q, -, -, hleast, honly⟩ := exists_mem_unique (mem_of_mem_unique hp) hne
  obtain rfl : p = q := honly p hp rfl
  obtain ⟨before, after, hlist, hbefore, hafter⟩ := exists_split_of_mem_unique hp
  refine ⟨mem_of_mem_unique hp, hne, ?_, before, after, hlist, ?_⟩
  · intro r hr hends
    exact hleast r hr (symbols_ne_nil_of_ends_eq hends hne) hends
  · cases hrule : s.graph.config.tieBreak with
    | firstSeen =>
      intro r hr hends
      simpa [hrule, supersedes] using hbefore r hr hends
    | lastSeen =>
      intro r hr hends
      simpa [hrule, supersedes] using hafter r hr hends

end PathSet

end CallAtlas
