/-
# `CallAtlas.Proofs.Path.Slice` — what a slice of a set of paths is

A bound stands for a position between the symbols of a path, as in any sequence
with half-open parts: `PathBound.StandsAt` says which, with integers and without
looking for it.  Only a name may stand nowhere, where no symbol of the path has
it (`PathBound.Misses`), and then the slice as a whole fails, by the first path
on which a bound is missed, and on that path by the first of the two bounds.

A slice that does not fail is known entirely (`PathSet.slice_half_open`): the
parts between the two positions, path by path, less the empty ones and less
those that are there already.  Bounds in the wrong order have an empty part
between them.
-/
import CallAtlas.Proofs.Grouping
import CallAtlas.Proofs.Path.Within
import CallAtlas.Proofs.Predicate.Selection

namespace CallAtlas

/-! ## Positions -/

namespace PathBound

/-- The position that a bound stands for in a path: an open one for `whole`, one that counts
from the start for the position cut off at the end, one that counts from the end for the
position cut off at the start, and a name for that of the first symbol that has it. -/
def StandsAt (p : CallPath) (whole position : Nat) : PathBound → Prop
  | .whole => position = whole
  | .index i => (position : Int) = if 0 ≤ i then min i p.length else max (p.length + i) 0
  | .name r => ShowsFirst (fun a => r.isMatch a.name = true) p.symbols position

/-- Some symbol of the path has a name that the bound asks for, if it asks for one. -/
def Found (p : CallPath) : PathBound → Prop
  | .name r => ∃ a ∈ p.symbols, r.isMatch a.name = true
  | _ => True

/-- No symbol of the path has a name that the bound asks for; the failure says so of both. -/
def Misses (p : CallPath) (e : QueryError) : PathBound → Prop
  | .name r => (∀ a ∈ p.symbols, r.isMatch a.name = false) ∧ e = .notFound r.source p.text
  | _ => False

variable {bound : PathBound} {p : CallPath} {whole position : Nat} {e : QueryError}

theorem resolve_eq_ok_iff :
    bound.resolve p whole = .ok position ↔ bound.StandsAt p whole position := by
  cases bound with
  | whole => simp only [resolve, StandsAt, Except.ok.injEq, eq_comm]
  | index i =>
    simp only [resolve, StandsAt, Except.ok.injEq]
    split <;> split <;> omega
  | name r => exact Regex.resolve_name_iff (fun _ => Iff.rfl) p whole position

theorem resolve_eq_error_iff (whole : Nat) :
    bound.resolve p whole = .error e ↔ bound.Misses p e := by
  cases bound with
  | whole => simp only [resolve, Misses, reduceCtorEq]
  | index i => simp only [resolve, Misses, reduceCtorEq]
  | name r =>
    simp only [resolve, Misses, ← List.findIdx?_eq_none_iff]
    cases p.symbols.findIdx? fun a => r.isMatch a.name <;> simp [eq_comm]

theorem found_iff : bound.Found p ↔ ∀ e, ¬bound.Misses p e := by
  cases bound with
  | whole => simp [Found, Misses]
  | index i => simp [Found, Misses]
  | name r => simp [Found, Misses]

/-- A bound that is found stands somewhere. -/
theorem exists_standsAt_iff (whole : Nat) :
    (∃ position, bound.StandsAt p whole position) ↔ bound.Found p := by
  rw [found_iff]
  simp only [← resolve_eq_ok_iff, ← resolve_eq_error_iff whole]
  cases bound.resolve p whole <;> simp

/-- Positions are within the path. -/
theorem StandsAt.le_length (h : bound.StandsAt p whole position) (hwhole : whole ≤ p.length) :
    position ≤ p.length := by
  cases bound with
  | whole => exact h.trans_le hwhole
  | index i =>
    simp only [StandsAt] at h
    split at h <;> omega
  | name r =>
    obtain ⟨hlt, -, -⟩ := h
    exact Nat.le_of_lt hlt

end PathBound

namespace PathSet

/-! ## One path -/

/-- A cut within the path is the part between the positions, if that has symbols. -/
theorem cut_eq_guard (p : CallPath) {start stop : Nat} (hstop : stop ≤ p.length) :
    cut p start stop =
      Option.guard (fun part => !part.isEmpty) ⟨p.symbols.extract start stop⟩ := by
  have hlength : (p.symbols.extract start stop).length = stop - start := by
    rw [List.extract_eq_take_drop, List.length_take, List.length_drop]
    have : stop ≤ p.symbols.length := hstop
    omega
  have hproper : (!CallPath.isEmpty ⟨p.symbols.extract start stop⟩) = true ↔
      start < stop ∧ stop ≤ p.length := by
    rw [Bool.not_eq_true', ← Bool.not_eq_true, CallPath.isEmpty, List.isEmpty_iff_length_eq_zero,
      hlength]
    omega
  simp only [cut, Option.guard, hproper, List.extract_eq_take_drop, List.drop_take]

theorem slicePath_eq_ok {first last : PathBound} {p : CallPath} {start stop : Nat}
    (hstart : first.StandsAt p 0 start) (hstop : last.StandsAt p p.length stop) :
    slicePath first last p = .ok (cut p start stop) := by
  unfold slicePath
  rw [PathBound.resolve_eq_ok_iff.2 hstart, PathBound.resolve_eq_ok_iff.2 hstop]
  rfl

theorem slicePath_eq_error_iff {first last : PathBound} {p : CallPath} {e : QueryError} :
    slicePath first last p = .error e ↔ first.Misses p e ∨ first.Found p ∧ last.Misses p e := by
  have hlast : ∀ start : Nat,
      (last.resolve p p.length >>= fun stop => .ok (cut p start stop)) = .error e ↔
        last.Misses p e := by
    intro start
    rw [Outcome.bind_eq_error, PathBound.resolve_eq_error_iff]
    exact or_iff_left fun ⟨stop, _, h⟩ => nomatch h
  unfold slicePath
  rw [Outcome.bind_eq_error, PathBound.resolve_eq_error_iff]
  simp only [hlast, PathBound.resolve_eq_ok_iff, exists_and_right, PathBound.exists_standsAt_iff]

theorem exists_slicePath_eq_ok_iff {first last : PathBound} {p : CallPath} :
    (∃ part, slicePath first last p = .ok part) ↔ first.Found p ∧ last.Found p := by
  constructor
  · rintro ⟨part, hpart⟩
    have hfirst : first.Found p := PathBound.found_iff.2 fun e hmiss => by
      rw [slicePath_eq_error_iff.2 (Or.inl hmiss)] at hpart
      cases hpart
    refine ⟨hfirst, PathBound.found_iff.2 fun e hmiss => ?_⟩
    rw [slicePath_eq_error_iff.2 (Or.inr ⟨hfirst, hmiss⟩)] at hpart
    cases hpart
  · rintro ⟨hfirst, hlast⟩
    obtain ⟨start, hstart⟩ := (PathBound.exists_standsAt_iff 0).2 hfirst
    obtain ⟨stop, hstop⟩ := (PathBound.exists_standsAt_iff p.length).2 hlast
    exact ⟨_, slicePath_eq_ok hstart hstop⟩

/-- The symbols of a part, none if it is empty. -/
def partSymbols (part : Option CallPath) : List Symbol := part.elim [] CallPath.symbols

theorem partSymbols_cut (p : CallPath) {start stop : Nat} (hstop : stop ≤ p.length) :
    partSymbols (cut p start stop) = p.symbols.extract start stop := by
  rw [cut_eq_guard p hstop, Option.guard]
  split
  · rfl
  · rename_i hempty
    rw [Bool.not_eq_true, Bool.not_eq_false', CallPath.isEmpty, List.isEmpty_iff] at hempty
    exact hempty.symm

/-- A position in a path cuts it in two parts, of which either may be empty. -/
theorem exists_halves (p : CallPath) (i : Int) :
    ∃ front back, slicePath .whole (.index i) p = .ok front ∧
      slicePath (.index i) .whole p = .ok back ∧
      partSymbols front ++ partSymbols back = p.symbols := by
  obtain ⟨k, hk⟩ : ∃ k, ∀ whole, (PathBound.index i).resolve p whole = .ok k := ⟨_, fun _ => rfl⟩
  have hmiddle : ∀ whole, (PathBound.index i).StandsAt p whole k :=
    fun whole => PathBound.resolve_eq_ok_iff.1 (hk whole)
  have hle : k ≤ p.length := (hmiddle 0).le_length (Nat.zero_le _)
  have hstart : PathBound.whole.StandsAt p 0 0 := rfl
  have hend : PathBound.whole.StandsAt p p.length p.length := rfl
  refine ⟨_, _, slicePath_eq_ok hstart (hmiddle p.length), slicePath_eq_ok (hmiddle 0) hend, ?_⟩
  rw [partSymbols_cut p hle, partSymbols_cut p (Nat.le_refl _), List.extract_eq_take_drop,
    List.extract_eq_take_drop, List.drop_zero, Nat.sub_zero]
  have hrest : (p.symbols.drop k).take (p.length - k) = p.symbols.drop k := by
    rw [List.take_of_length_le]
    rw [List.length_drop]
    exact Nat.le_refl _
  rw [hrest, List.take_append_drop]

/-! ## All paths -/

/-- The failure of a slice: a bound is missed on some path and none on the paths before it, and
of two bounds missed there it is the first one's. -/
def FirstMiss (s : PathSet) (first last : PathBound) (e : QueryError) : Prop :=
  ∃ before p after, s.toList = before ++ p :: after ∧
    (∀ q ∈ before, first.Found q ∧ last.Found q) ∧
    (first.Misses p e ∨ first.Found p ∧ last.Misses p e)

theorem slice_eq_error_iff {s : PathSet} {first last : PathBound} {e : QueryError} :
    s.slice first last = .error e ↔ s.FirstMiss first last e := by
  unfold slice
  rw [Outcome.bind_eq_error, or_iff_left (fun ⟨_, _, h⟩ => nomatch h), Outcome.mapM_eq_error_iff]
  simp only [exists_slicePath_eq_ok_iff, slicePath_eq_error_iff]
  rfl

theorem exists_slice_eq_ok_iff {s : PathSet} {first last : PathBound} :
    (∃ parts, s.slice first last = .ok parts) ↔
      ∀ p ∈ s.toList, first.Found p ∧ last.Found p := by
  simp only [← exists_slicePath_eq_ok_iff, ← Outcome.exists_mapM_eq_ok_iff]
  constructor
  · rintro ⟨parts, h⟩
    obtain ⟨cuts, hcuts, -⟩ := Outcome.bind_eq_ok.1 h
    exact ⟨cuts, hcuts⟩
  · rintro ⟨cuts, hcuts⟩
    exact ⟨_, Outcome.bind_eq_ok.2 ⟨cuts, hcuts, rfl⟩⟩

/-- Between bounds that are found everywhere the parts are those between their positions. -/
theorem slice_eq_ok {s : PathSet} {first last : PathBound} {start stop : CallPath → Nat}
    (hstart : ∀ p ∈ s.toList, first.StandsAt p 0 (start p))
    (hstop : ∀ p ∈ s.toList, last.StandsAt p p.length (stop p)) :
    s.slice first last = .ok (s.derive (.ofList
      ((s.toList.map fun p => ⟨p.symbols.extract (start p) (stop p)⟩).filter
        fun part => !part.isEmpty))) := by
  have hparts : s.toList.mapM (slicePath first last) =
      .ok (s.toList.map fun p => cut p (start p) (stop p)) :=
    Outcome.mapM_eq_ok_of_forall fun p hp => slicePath_eq_ok (hstart p hp) (hstop p hp)
  have hproper : (s.toList.map fun p => cut p (start p) (stop p)).filterMap id =
      (s.toList.map fun p => (⟨p.symbols.extract (start p) (stop p)⟩ : CallPath)).filter
        fun part => !part.isEmpty := by
    rw [← List.filterMap_eq_filter, List.filterMap_map, List.filterMap_map]
    refine List.filterMap_congr fun p hp => ?_
    exact cut_eq_guard p ((hstop p hp).le_length (Nat.le_refl _))
  unfold slice
  rw [hparts, ← hproper]
  rfl

/-- Bounds that are found on all paths have positions there. -/
theorem exists_positions {s : PathSet} {first last : PathBound}
    (h : ∀ p ∈ s.toList, first.Found p ∧ last.Found p) :
    ∃ start stop : CallPath → Nat, ∀ p ∈ s.toList,
      first.StandsAt p 0 (start p) ∧ last.StandsAt p p.length (stop p) := by
  have hposition : ∀ (bound : PathBound) (whole : CallPath → Nat), ∃ position : CallPath → Nat,
      ∀ p, bound.Found p → bound.StandsAt p (whole p) (position p) := by
    intro bound whole
    refine ⟨fun p => (bound.resolve p (whole p)).toOption.getD 0, fun p hp => ?_⟩
    obtain ⟨position, hposition⟩ := (PathBound.exists_standsAt_iff (whole p)).2 hp
    show bound.StandsAt p (whole p) ((bound.resolve p (whole p)).toOption.getD 0)
    rw [PathBound.resolve_eq_ok_iff.2 hposition]
    exact hposition
  obtain ⟨start, hstart⟩ := hposition first fun _ => 0
  obtain ⟨stop, hstop⟩ := hposition last CallPath.length
  exact ⟨start, stop, fun p hp => ⟨hstart p (h p hp).1, hstop p (h p hp).2⟩⟩

/-- A slice has the parts of the paths from the position of its first bound up to that of its
last, in the order of the paths, less the empty ones and less repetitions; and it fails exactly
if a bound is missed on some path, by the first such path.  Positions are within the paths, and a
position in a path cuts it in two. -/
theorem slice_half_open (s : PathSet) (first last : PathBound) :
    (∀ e, s.slice first last = .error e ↔ s.FirstMiss first last e) ∧
    ((∃ parts, s.slice first last = .ok parts) ↔
      ∀ p ∈ s.toList, first.Found p ∧ last.Found p) ∧
    (∀ parts, s.slice first last = .ok parts → parts.graph = s.graph ∧ parts.ambient = s.ambient ∧
      ∃ start stop : CallPath → Nat,
        (∀ p ∈ s.toList, first.StandsAt p 0 (start p) ∧ start p ≤ p.length ∧
          last.StandsAt p p.length (stop p) ∧ stop p ≤ p.length) ∧
        parts.toList = ((s.toList.map fun p =>
          (⟨p.symbols.extract (start p) (stop p)⟩ : CallPath)).filter
            fun part => !part.isEmpty).eraseDupsBy fun p q => p.ids == q.ids) ∧
    ∀ (p : CallPath) (i : Int), ∃ front back, slicePath .whole (.index i) p = .ok front ∧
      slicePath (.index i) .whole p = .ok back ∧
      partSymbols front ++ partSymbols back = p.symbols := by
  refine ⟨fun e => slice_eq_error_iff, exists_slice_eq_ok_iff, ?_, exists_halves⟩
  intro parts hparts
  obtain ⟨start, stop, hpositions⟩ :=
    exists_positions (exists_slice_eq_ok_iff.1 ⟨parts, hparts⟩)
  have hstop : ∀ p ∈ s.toList, last.StandsAt p p.length (stop p) :=
    fun p hp => (hpositions p hp).2
  rw [slice_eq_ok (fun p hp => (hpositions p hp).1) hstop] at hparts
  cases hparts
  refine ⟨rfl, rfl, start, stop, fun p hp => ?_, Grouping.toList_ofList_eq_eraseDupsBy _⟩
  obtain ⟨hfirst, hlast⟩ := hpositions p hp
  exact ⟨hfirst, hfirst.le_length (Nat.zero_le _), hlast, hlast.le_length (Nat.le_refl _)⟩

end PathSet

end CallAtlas
