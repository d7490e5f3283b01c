/-
# `CallAtlas.Proofs.Path.Rounds` — where a path search stands before each of its rounds

A search keeps the path to the current symbol, the identities on it, and a frame
of callees for each symbol of the path.  `Place.OnCourse` says how these belong
together while a frame is left: the path follows calls from the start, visits no
symbol twice and may become longer, and each frame is what is left of the callees
of its symbol.  One round keeps that (`Search.onCourse_step`), and so it holds
before every round.

The rounds come to an end because each makes `Place.weight` smaller, so its value
at the beginning bounds their number (`exists_iterate_eq_run`).

A callee that may not be entered is looked at as a part of the path nevertheless.
`Search.round` puts it on the path, and takes it off when the path turns out to be
too long to go on.  That leaves the same path as not to put it there, and identities
that are the same as a set, so that it makes no difference to any later round
(`Search.alike_round_step`).
-/
import CallAtlas.Proofs.Path.Simple
import Mathlib.Logic.Function.Iterate

namespace CallAtlas

namespace Search

theorem mayGrow_iff (search : Search) (n : Nat) :
    search.mayGrow n = true ↔ ∀ bound, search.limit = some bound → n < bound := by
  unfold mayGrow
  cases search.limit with
  | none => simp
  | some limit => simp

theorem mayGrow_of_le {search : Search} {m n : Nat} (h : search.mayGrow m = true) (hle : n ≤ m) :
    search.mayGrow n = true := by
  rw [mayGrow_iff] at h ⊢
  exact fun bound hbound => hle.trans_lt (h bound hbound)

end Search

namespace Place

/-- The path to the current symbol, from the start on. -/
def path (p : Place) : CallPath := ⟨p.trail.reverse⟩

theorem ids_path (p : Place) : p.path.ids = (p.trail.map Symbol.id).reverse := by
  rw [CallPath.ids, path, List.map_reverse]

theorem length_path (p : Place) : p.path.length = p.trail.length := by
  rw [CallPath.length, path, List.length_reverse]

/-- What holds of a search from a symbol while a frame is left. -/
structure OnCourse (search : Search) (s : Symbol) (p : Place) : Prop where
  sound : p.Sound search.graph
  /-- the path begins at the start -/
  begins : p.trail.getLast? = some s
  /-- and each symbol of it is called by the one before -/
  linked : p.trail.IsChain fun b a => b ∈ search.graph.calleesOf a
  /-- what is still to be tried is the rest of the callees -/
  offered : List.Forall₂ (fun frame a => frame <:+ search.graph.calleesOf a) p.frames p.trail
  mayGrow : search.mayGrow p.trail.length = true

section OnCourse

variable {search : Search} {s : Symbol} {p : Place} (h : p.OnCourse search s)
include h

theorem OnCourse.first?_path : p.path.first? = some s :=
  List.head?_reverse.trans h.begins

theorem OnCourse.isChain_path :
    p.path.symbols.IsChain fun a b => b ∈ search.graph.calleesOf a :=
  List.isChain_reverse.2 h.linked

theorem OnCourse.nodup_ids_path : p.path.ids.Nodup := by
  rw [ids_path, List.nodup_reverse]
  exact h.sound.nodup

theorem OnCourse.mem_onTrail (id : Nat) : id ∈ p.onTrail ↔ id ∈ p.path.ids := by
  rw [ids_path, List.mem_reverse]
  exact h.sound.onTrail id

theorem OnCourse.length_path_lt {limit : Nat} (hlimit : search.limit = some limit) :
    p.path.length < limit := by
  rw [length_path]
  exact (search.mayGrow_iff _).1 h.mayGrow limit hlimit

/-- From a symbol of the graph the path is a simple path of the graph. -/
theorem OnCourse.simple_path (hs : search.graph.Has s) : p.path.Simple search.graph := by
  obtain ⟨rest, hsymbols⟩ := List.head?_eq_some_iff.1 h.first?_path
  have hchain := h.isChain_path
  rw [hsymbols] at hchain
  obtain ⟨hin, hlinked⟩ := (CallGraph.isChain_calleesOf_iff hs rest).1 hchain
  rw [← hsymbols] at hin hlinked
  exact ⟨fun hnone => by simp [hsymbols] at hnone, hin, hlinked, h.nodup_ids_path⟩

end OnCourse

/-- The two places differ at most in how the identities on the path are kept. -/
structure Alike (p q : Place) : Prop where
  trail : p.trail = q.trail
  onTrail : ∀ id, id ∈ p.onTrail ↔ id ∈ q.onTrail
  frames : p.frames = q.frames
  found : p.found = q.found

/-- A symbol is put on the path. -/
def enter (p : Place) (a : Symbol) : Place :=
  { p with trail := a :: p.trail, onTrail := p.onTrail.insert a.id }

/-- The current symbol is taken off the path. -/
def leave (p : Place) : Place :=
  match p.trail with
  | [] => p
  | a :: trail => { p with trail := trail, onTrail := p.onTrail.erase a.id }

theorem Alike.refl (p : Place) : p.Alike p := ⟨rfl, fun _ => Iff.rfl, rfl, rfl⟩

theorem Alike.enter {p q : Place} (h : p.Alike q) (a : Symbol) : (p.enter a).Alike (q.enter a) where
  trail := congrArg (a :: ·) h.trail
  onTrail id := by simp only [Place.enter, Std.TreeSet.mem_insert, h.onTrail]
  frames := h.frames
  found := h.found

theorem Alike.leave {p q : Place} (h : p.Alike q) : p.leave.Alike q.leave := by
  obtain ⟨trail, onTrail, frames, found⟩ := p
  obtain ⟨trail', onTrail', frames', found'⟩ := q
  obtain ⟨rfl, honTrail, rfl, rfl⟩ := h
  cases trail with
  | nil => exact ⟨rfl, honTrail, rfl, rfl⟩
  | cons a trail =>
    refine ⟨rfl, fun id => ?_, rfl, rfl⟩
    simp only [Place.leave, Std.TreeSet.mem_erase]
    exact and_congr_right fun _ => honTrail id

/-- A symbol that was not on the path is gone when it is taken off again. -/
theorem alike_leave_enter {p : Place} {a : Symbol} (ha : a.id ∉ p.onTrail) :
    (p.enter a).leave.Alike p := by
  refine ⟨rfl, fun id => ?_, rfl, rfl⟩
  simp only [enter, leave, Std.TreeSet.mem_erase, Std.TreeSet.mem_insert, ne_eq,
    Std.LawfulEqOrd.compare_eq_iff_eq]
  constructor
  · rintro ⟨hne, heq | hmem⟩
    · exact absurd heq hne
    · exact hmem
  · intro hmem
    refine ⟨?_, Or.inr hmem⟩
    rintro rfl
    exact ha hmem

end Place

namespace Search

open Place

variable (search : Search)

/-! ## One round -/

/-- A round with a callee put on the path before it is known whether the path may become
longer. -/
def round (p : Place) : Place :=
  match p.frames with
  | [] => p
  | [] :: frames => { p with frames := frames }.leave
  | (next :: callees) :: frames =>
      let p := { p with frames := callees :: frames }
      if p.onTrail.contains next.id then p
      else
        let p := p.enter next
        let p := { p with found := search.record p.trail p.found }
        if search.mayGrow p.trail.length then
          { p with frames := search.graph.calleesOf next :: p.frames }
        else p.leave

/-- Where the search from a symbol begins: with the callees of the symbol to be tried, if a path
may be longer than one symbol. -/
def outset (s : Symbol) (found : Paths) : Place :=
  if search.mayGrow 1 then search.start s found
  else { search.start s found with frames := [] }

variable {search}

theorem alike_round_step {p q : Place} (h : p.Alike q) :
    (search.round p).Alike (search.step q) := by
  obtain ⟨trail, onTrail, frames, found⟩ := p
  obtain ⟨trail', onTrail', frames', found'⟩ := q
  obtain ⟨rfl, honTrail, rfl, rfl⟩ := h
  simp only at honTrail
  match frames with
  | [] => exact ⟨rfl, honTrail, rfl, rfl⟩
  | [] :: frames =>
    cases trail with
    | nil => exact ⟨rfl, honTrail, rfl, rfl⟩
    | cons a trail =>
      have halike : (Place.mk (a :: trail) onTrail frames found).Alike
          ⟨a :: trail, onTrail', frames, found⟩ := ⟨rfl, honTrail, rfl, rfl⟩
      exact halike.leave
  | (next :: callees) :: frames =>
    have hsame : onTrail.contains next.id = onTrail'.contains next.id := by
      rw [Bool.eq_iff_iff, ← Std.TreeSet.mem_iff_contains, ← Std.TreeSet.mem_iff_contains]
      exact honTrail next.id
    have halike : (Place.mk trail onTrail (callees :: frames) found).Alike
        ⟨trail, onTrail', callees :: frames, found⟩ := ⟨rfl, honTrail, rfl, rfl⟩
    simp only [round, step, hsame]
    by_cases hseen : onTrail'.contains next.id = true
    · rw [if_pos hseen, if_pos hseen]
      exact halike
    · have hout : next.id ∉ onTrail := by
        rw [honTrail, Std.TreeSet.mem_iff_contains]
        exact hseen
      let entered := Place.enter ⟨trail, onTrail, callees :: frames, found⟩ next
      rw [if_neg hseen, if_neg hseen]
      by_cases hgrow : search.mayGrow (next :: trail).length = true
      · have hgrow' : search.mayGrow entered.trail.length = true := hgrow
        rw [if_pos hgrow', if_pos hgrow]
        exact ⟨rfl, (halike.enter next).onTrail, rfl, rfl⟩
      · -- too long to go on: what was put on the path is taken off again
        have hgrow' : ¬search.mayGrow entered.trail.length = true := hgrow
        have hleft := alike_leave_enter (p := ⟨trail, onTrail, callees :: frames, found⟩) hout
        rw [if_neg hgrow', if_neg hgrow]
        exact ⟨rfl, fun id => (hleft.onTrail id).trans (honTrail id), rfl, rfl⟩

theorem alike_iterate {p q : Place} (h : p.Alike q) (n : Nat) :
    (search.round^[n] p).Alike (search.step^[n] q) := by
  induction n with
  | zero => exact h
  | succ n ih =>
    rw [Function.iterate_succ_apply', Function.iterate_succ_apply']
    exact alike_round_step ih

/-- With no frame left there is nothing to do. -/
theorem step_of_over {p : Place} (hover : p.frames = []) : search.step p = p := by
  obtain ⟨trail, onTrail, frames, found⟩ := p
  subst hover
  rfl

theorem onCourse_start (s : Symbol) (found : Paths) (hgrow : search.mayGrow 1 = true) :
    (search.start s found).OnCourse search s where
  sound := search.start_sound s found
  begins := rfl
  linked := .singleton s
  offered := .cons (List.suffix_refl _) .nil
  mayGrow := hgrow

/-- A round that leaves a frame keeps the search on its course. -/
theorem onCourse_step {s : Symbol} {p : Place} (h : p.OnCourse search s)
    (hleft : (search.step p).frames ≠ []) : (search.step p).OnCourse search s := by
  have hsound := search.step_sound h.sound
  obtain ⟨trail, onTrail, frames, found⟩ := p
  obtain ⟨-, hbegins, hlinked, hoffered, hgrow⟩ := h
  simp only at hbegins hlinked hoffered hgrow
  match frames, trail with
  | [], _ => exact absurd rfl hleft
  | _ :: _, [] => cases hoffered
  | [] :: frames, a :: trail =>
    -- the current symbol is left, and another one is there, since a frame is
    obtain ⟨-, hrest⟩ := List.forall₂_cons.1 hoffered
    cases trail with
    | nil =>
      cases hrest
      exact absurd rfl hleft
    | cons b trail =>
      refine ⟨hsound, ?_, hlinked.tail, hrest, mayGrow_of_le hgrow (Nat.le_succ _)⟩
      exact List.getLast?_cons_cons.symm.trans hbegins
  | (next :: callees) :: frames, a :: trail =>
    obtain ⟨hfirst, hrest⟩ := List.forall₂_cons.1 hoffered
    have hfewer : callees <:+ search.graph.calleesOf a :=
      (List.suffix_cons next callees).trans hfirst
    have hcallee : next ∈ search.graph.calleesOf a := hfirst.subset List.mem_cons_self
    revert hsound hleft
    simp only [step]
    split
    · intro hleft hsound
      exact ⟨hsound, hbegins, hlinked, .cons hfewer hrest, hgrow⟩
    · split
      · rename_i hlonger
        intro hleft hsound
        exact ⟨hsound, List.getLast?_cons_cons.trans hbegins,
          List.isChain_cons_cons.2 ⟨hcallee, hlinked⟩,
          .cons (List.suffix_refl _) (.cons hfewer hrest), hlonger⟩
      · intro hleft hsound
        exact ⟨hsound, hbegins, hlinked, .cons hfewer hrest, hgrow⟩

/-! ## All rounds -/

/-- The rounds of a search are over after a while, and what is found then is what the search
finds. -/
theorem exists_iterate_eq_run (p : Place) (h : p.Sound search.graph) :
    ∃ n ≤ weight search.graph p.frames,
      (search.step^[n] p).frames = [] ∧ (search.step^[n] p).found = search.run p h := by
  fun_induction Search.run search p h with
  | case1 p h hover => exact ⟨0, Nat.zero_le _, hover, rfl⟩
  | case2 p h hgoing ih =>
    obtain ⟨n, hn, hover, hfound⟩ := ih
    have hless := search.weight_step_lt h hgoing
    exact ⟨n + 1, by omega, hover, hfound⟩

/-- Before every round for which a frame is left the search is on its course. -/
theorem onCourse_iterate (s : Symbol) (found : Paths) (n : Nat)
    (hleft : (search.step^[n] (search.outset s found)).frames ≠ []) :
    (search.step^[n] (search.outset s found)).OnCourse search s := by
  induction n with
  | zero =>
    have hgrow : search.mayGrow 1 = true := by
      by_contra hstop
      exact hleft (congrArg Place.frames (if_neg hstop))
    have hstart : search.outset s found = search.start s found := if_pos hgrow
    rw [Function.iterate_zero_apply, hstart]
    exact onCourse_start s found hgrow
  | succ n ih =>
    rw [Function.iterate_succ_apply'] at hleft ⊢
    refine onCourse_step (ih fun hover => hleft ?_) hleft
    rw [step_of_over hover]
    exact hover

/-- What a frame of callees weighs is bounded by the size of the graph alone. -/
theorem weight_calleesOf_le (g : CallGraph) (s : Symbol) :
    weight g [g.calleesOf s] ≤
      (g.symbolCount + 1) * Nat.pow (g.symbolCount + 2) g.symbolCount := by
  have hcalls := g.length_calleesOf_le s
  unfold weight weight
  rw [Nat.add_zero]
  exact Nat.mul_le_mul_right _ (by omega)

/-- From the beginning the rounds are over after a number that the size of the graph bounds. -/
theorem exists_iterate_eq_searchFrom (s : Symbol) (found : Paths) :
    ∃ n ≤ (search.graph.symbolCount + 1) *
        Nat.pow (search.graph.symbolCount + 2) search.graph.symbolCount,
      (search.step^[n] (search.outset s found)).frames = [] ∧
        (search.step^[n] (search.outset s found)).found = search.searchFrom found s := by
  by_cases hgrow : search.mayGrow 1 = true
  · obtain ⟨n, hn, hover, hfound⟩ :=
      exists_iterate_eq_run (search.start s found) (search.start_sound s found)
    rw [outset, if_pos hgrow, searchFrom, if_pos hgrow]
    exact ⟨n, hn.trans (weight_calleesOf_le search.graph s), hover, hfound⟩
  · rw [outset, if_neg hgrow, searchFrom, if_neg hgrow]
    exact ⟨0, Nat.zero_le _, rfl, rfl⟩

/-- Whatever the graph, the start, the targets and the bound are, a path search comes to its end
after a number of rounds that the size of the graph bounds, and has found then what it is to
find.  Before each round for which a frame is left, the path leads along calls from the start to
the current symbol, visits no symbol twice and is shorter than the bound, the identities noted
are those on the path, and frame by frame what is left to be tried is the end of the callees of
the symbol on the path.  The places are the same if a callee is put on the path before its length is
known, and taken off again if the path may not become longer. -/
theorem rounds_of_search (search : Search) (s : Symbol) (found : Paths) :
    let g := search.graph
    let place n := search.step^[n] (search.outset s found)
    (∃ n ≤ (g.symbolCount + 1) * Nat.pow (g.symbolCount + 2) g.symbolCount,
      (place n).frames = [] ∧ (place n).found = search.searchFrom found s) ∧
    (∀ n, (place n).frames ≠ [] →
      ((place n).path.first? = some s ∧
        (place n).path.symbols.IsChain (fun a b => g.Has b ∧ g.hasCall a.id b.id = true) ∧
        (place n).path.ids.Nodup ∧ (g.Has s → (place n).path.Simple g)) ∧
      (∀ limit, search.limit = some limit → (place n).path.length < limit) ∧
      (∀ id, id ∈ (place n).onTrail ↔ id ∈ (place n).path.ids) ∧
      (place n).frames.length = (place n).path.length ∧
      List.Forall₂ (fun frame a => frame <:+ g.calleesOf a) (place n).frames.reverse
        (place n).path.symbols) ∧
    ∀ n, (search.round^[n] (search.outset s found)).Alike (place n) := by
  intro g place
  refine ⟨exists_iterate_eq_searchFrom s found, fun n hleft => ?_, alike_iterate (.refl _)⟩
  have h : (place n).OnCourse search s := onCourse_iterate s found n hleft
  refine ⟨⟨h.first?_path, ?_, h.nodup_ids_path, h.simple_path⟩, fun _ => h.length_path_lt,
    h.mem_onTrail, ?_, ?_⟩
  · exact h.isChain_path.imp fun a b => CallGraph.mem_calleesOf.1
  · rw [length_path]
    exact h.sound.frames
  · exact List.forall₂_reverse_iff.2 h.offered

end Search

end CallAtlas
