/-
# `CallAtlas.Proofs.Path.Shortest` — the shortest paths of a set

`PathSet.champion` reads the rule for ties off a list of paths that compete for
one place: each path takes it from the one before or not.  The table of
shortest paths holds, for each pair of ends, the champion of the paths with
these ends (`getElem?_shortest`), and so `unique` lists the champions in the
order in which their ends came first (`toList_unique`).

To have the same ends is to begin and to end with the same symbols
(`CallPath.ends_eq_ends_iff`), so no two pairs of ends share a place in the table.

Whatever the rule, a champion is one of its competitors and none of them is
shorter.
-/
import CallAtlas.Path.PathSet
import CallAtlas.Proofs.OrderedSet
import Mathlib.Data.List.Nodup

namespace CallAtlas

/-- The ends of a path are known from its identities. -/
theorem CallPath.ends_eq (p : CallPath) : p.ends = p.ids.head?.toList ++ p.ids.getLast?.toList := by
  unfold ends first? last? ids
  rw [List.map_append, List.head?_map, List.getLast?_map]
  cases p.symbols.head? <;> cases p.symbols.getLast? <;> rfl

theorem CallPath.ends_of_first_last {p : CallPath} {a b : Symbol} (hfirst : p.first? = some a)
    (hlast : p.last? = some b) : p.ends = [a.id, b.id] := by
  unfold ends
  rw [hfirst, hlast]
  rfl

/-- The paths begin with symbols of one identity and end with symbols of one identity. -/
def CallPath.SameEnds (p q : CallPath) : Prop :=
  p.first?.map Symbol.id = q.first?.map Symbol.id ∧ p.last?.map Symbol.id = q.last?.map Symbol.id

/-- A path without symbols has no ends, and every other one has both. -/
theorem CallPath.first_last_cases (p : CallPath) :
    (p.ends = [] ∧ p.first? = none ∧ p.last? = none) ∨
      ∃ a b, p.first? = some a ∧ p.last? = some b := by
  obtain ⟨l⟩ := p
  cases l with
  | nil => exact Or.inl ⟨rfl, rfl, rfl⟩
  | cons a l => exact Or.inr ⟨a, _, rfl, List.getLast?_cons⟩

/-- Paths have the same ends exactly if they begin and end alike. -/
theorem CallPath.ends_eq_ends_iff {p q : CallPath} : p.ends = q.ends ↔ p.SameEnds q := by
  unfold SameEnds
  rcases p.first_last_cases with ⟨hp, hfirst, hlast⟩ | ⟨a, b, hfirst, hlast⟩
  · rcases q.first_last_cases with ⟨hq, hfirst', hlast'⟩ | ⟨c, d, hfirst', hlast'⟩
    · simp [hp, hq, hfirst, hfirst', hlast, hlast']
    · simp [hp, ends_of_first_last hfirst' hlast', hfirst, hfirst', hlast, hlast']
  · have hp := ends_of_first_last hfirst hlast
    rcases q.first_last_cases with ⟨hq, hfirst', hlast'⟩ | ⟨c, d, hfirst', hlast'⟩
    · simp [hp, hq, hfirst, hfirst', hlast, hlast']
    · simp [hp, ends_of_first_last hfirst' hlast', hfirst, hfirst', hlast, hlast']

namespace PathSet

/-! ## One place -/

/-- The path that keeps its place against some paths that come after one another. -/
def champion (rule : TieBreak) (ps : List CallPath) : Option CallPath :=
  ps.foldl (fun kept p => some (keepShorter rule p kept)) none

theorem length_keepShorter_le (rule : TieBreak) (p kept : CallPath) :
    (keepShorter rule p (some kept)).length ≤ p.length ∧
      (keepShorter rule p (some kept)).length ≤ kept.length := by
  cases rule <;> simp only [keepShorter, supersedes, decide_eq_true_eq] <;> split <;> omega

theorem keepShorter_cases (rule : TieBreak) (p kept : CallPath) :
    keepShorter rule p (some kept) = p ∨ keepShorter rule p (some kept) = kept := by
  unfold keepShorter
  simp only
  split
  · exact Or.inl rfl
  · exact Or.inr rfl

theorem foldl_keepShorter (rule : TieBreak) (ps : List CallPath) (kept : CallPath) :
    ∃ q, ps.foldl (fun kept p => some (keepShorter rule p kept)) (some kept) = some q ∧
      (q = kept ∨ q ∈ ps) ∧ q.length ≤ kept.length ∧ ∀ p ∈ ps, q.length ≤ p.length := by
  induction ps generalizing kept with
  | nil => exact ⟨kept, rfl, Or.inl rfl, Nat.le_refl _, by simp⟩
  | cons p ps ih =>
    obtain ⟨q, hq, hmem, hle, hall⟩ := ih (keepShorter rule p (some kept))
    obtain ⟨hp, hkept⟩ := length_keepShorter_le rule p kept
    refine ⟨q, hq, ?_, Nat.le_trans hle hkept, ?_⟩
    · rcases hmem with heq | hmem
      · rcases keepShorter_cases rule p kept with h | h
        · exact Or.inr (List.mem_cons.2 (Or.inl (heq.trans h)))
        · exact Or.inl (heq.trans h)
      · exact Or.inr (List.mem_cons_of_mem p hmem)
    · intro r hr
      rcases List.mem_cons.1 hr with rfl | hr
      · exact Nat.le_trans hle hp
      · exact hall r hr

/-- Among some paths there is a champion; it is one of them, and none is shorter. -/
theorem exists_champion (rule : TieBreak) {ps : List CallPath} (h : ps ≠ []) :
    ∃ q ∈ ps, champion rule ps = some q ∧ ∀ p ∈ ps, q.length ≤ p.length := by
  cases ps with
  | nil => exact absurd rfl h
  | cons p ps =>
    obtain ⟨q, hq, hmem, hle, hall⟩ := foldl_keepShorter rule ps p
    exact ⟨q, List.mem_cons.2 hmem, hq, List.forall_mem_cons.2 ⟨hle, hall⟩⟩

theorem champion_mem {rule : TieBreak} {ps : List CallPath} {q : CallPath}
    (h : champion rule ps = some q) : q ∈ ps := by
  have hne : ps ≠ [] := by
    rintro rfl
    cases h
  obtain ⟨r, hr, heq, -⟩ := exists_champion rule hne
  rw [h, Option.some.injEq] at heq
  exact heq ▸ hr

/-! ## A place for each pair of ends -/

theorem getElem?_shortest (rule : TieBreak) (ps : List CallPath) (ends : List Nat) :
    (shortest rule ps)[ends]? = champion rule (ps.filter fun p => p.ends = ends) := by
  have hfold : ∀ best : Std.TreeMap (List Nat) CallPath,
      (ps.foldl (fun best p => best.alter p.ends fun kept => some (keepShorter rule p kept)) best)[ends]? =
        (ps.filter fun p => p.ends = ends).foldl (fun kept p => some (keepShorter rule p kept))
          best[ends]? := by
    induction ps with
    | nil =>
      intro best
      rfl
    | cons p ps ih =>
      intro best
      rw [List.foldl_cons, ih, Std.TreeMap.getElem?_alter, List.filter_cons]
      by_cases h : p.ends = ends
      · subst h
        simp
      · rw [if_neg (fun hc => h (Std.LawfulEqOrd.compare_eq_iff_eq.1 hc)), if_neg (by simpa using h)]
  have := hfold ∅
  rw [Std.TreeMap.getElem?_emptyc] at this
  exact this

/-- The paths of a set that have ends. -/
def proper (s : PathSet) : List CallPath := s.toList.filter fun p => !p.isEmpty

/-- The paths of a set with given ends. -/
def rivals (s : PathSet) (ends : List Nat) : List CallPath := s.proper.filter fun p => p.ends = ends

/-- The path kept for given ends. -/
def keptFor (s : PathSet) (ends : List Nat) : Option CallPath :=
  champion s.graph.config.tieBreak (s.rivals ends)

theorem mem_rivals {s : PathSet} {ends : List Nat} {p : CallPath} :
    p ∈ s.rivals ends ↔ p ∈ s.toList ∧ p.symbols ≠ [] ∧ p.ends = ends := by
  unfold rivals proper CallPath.isEmpty
  rw [List.mem_filter, List.mem_filter, and_assoc]
  simp

theorem ends_of_keptFor {s : PathSet} {ends : List Nat} {p : CallPath}
    (h : s.keptFor ends = some p) : p.ends = ends :=
  (mem_rivals.1 (champion_mem h)).2.2

theorem ends_keptFor_sublist (s : PathSet) (es : List (List Nat)) :
    ((es.filterMap s.keptFor).map CallPath.ends).Sublist es := by
  induction es with
  | nil => exact List.Sublist.refl []
  | cons ends es ih =>
    cases hc : s.keptFor ends with
    | none =>
      rw [List.filterMap_cons_none hc]
      exact ih.cons ends
    | some p =>
      rw [List.filterMap_cons_some hc, List.map_cons, ends_of_keptFor hc]
      exact ih.cons_cons ends

/-- The shortest paths, in the order in which their ends came first. -/
theorem toList_unique (s : PathSet) :
    s.unique.toList = (endsOf s.proper).toList.filterMap s.keptFor := by
  have hbest : (fun ends : List Nat => (shortest s.graph.config.tieBreak s.proper)[ends]?) =
      s.keptFor :=
    funext (getElem?_shortest s.graph.config.tieBreak s.proper)
  show (OrderedSet.ofList ((endsOf s.proper).toList.filterMap fun ends : List Nat =>
    (shortest s.graph.config.tieBreak s.proper)[ends]?) : Paths).toList = _
  rw [hbest]
  apply OrderedSet.toList_ofList_of_nodup
  -- paths with different ends have different identities
  have hnodup : (((endsOf s.proper).toList.filterMap s.keptFor).map CallPath.ends).Nodup := by
    have h := (endsOf s.proper).nodup_toList
    rw [List.map_id'] at h
    exact h.sublist (s.ends_keptFor_sublist _)
  rw [List.map_congr_left fun p _ => CallPath.ends_eq p] at hnodup
  exact List.Nodup.of_map (fun ids : List Nat => ids.head?.toList ++ ids.getLast?.toList)
    (by rwa [List.map_map])

/-- A path is among the shortest if it is the champion of those with its ends. -/
theorem mem_unique {s : PathSet} {p : CallPath} :
    p ∈ s.unique.toList ↔ s.keptFor p.ends = some p := by
  rw [toList_unique, List.mem_filterMap]
  constructor
  · rintro ⟨ends, -, hc⟩
    exact ends_of_keptFor hc ▸ hc
  · intro hc
    refine ⟨p.ends, ?_, hc⟩
    have hmem : p ∈ s.proper := (List.mem_filter.1 (champion_mem hc)).1
    have hkey : p.ends ∈ (s.proper.map CallPath.ends).map fun ends => ends := by
      rw [List.map_id']
      exact List.mem_map_of_mem hmem
    have hkeys := (OrderedSet.mem_keys_ofList (s.proper.map CallPath.ends) p.ends).2 hkey
    rwa [List.map_id'] at hkeys

theorem mem_of_mem_unique {s : PathSet} {p : CallPath} (h : p ∈ s.unique.toList) : p ∈ s.toList :=
  (mem_rivals.1 (champion_mem (mem_unique.1 h))).1

/-- For the ends of a path of the set there is one shortest path, and it is no longer. -/
theorem exists_mem_unique {s : PathSet} {p : CallPath} (hp : p ∈ s.toList) (hne : p.symbols ≠ []) :
    ∃ q ∈ s.unique.toList, q.ends = p.ends ∧
      (∀ r ∈ s.toList, r.symbols ≠ [] → r.ends = p.ends → q.length ≤ r.length) ∧
      ∀ r ∈ s.unique.toList, r.ends = p.ends → r = q := by
  have hrivals : s.rivals p.ends ≠ [] := List.ne_nil_of_mem (mem_rivals.2 ⟨hp, hne, rfl⟩)
  obtain ⟨q, hq, hc, hleast⟩ := exists_champion s.graph.config.tieBreak hrivals
  have hends : q.ends = p.ends := (mem_rivals.1 hq).2.2
  refine ⟨q, mem_unique.2 (hends ▸ hc), hends, ?_, ?_⟩
  · intro r hr hrne hrends
    exact hleast r (mem_rivals.2 ⟨hr, hrne, hrends⟩)
  · intro r hr hrends
    have hrc : s.keptFor p.ends = some r := hrends ▸ mem_unique.1 hr
    exact Option.some.inj (hrc.symm.trans hc)

end PathSet

end CallAtlas
