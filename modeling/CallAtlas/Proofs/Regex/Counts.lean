/-
# `CallAtlas.Proofs.Regex.Counts` — the counts of what is read fit

A repetition is only read if its least number of rounds is not above its greatest.
So the repetitions in all pieces of a state are of that kind (`State.CountsFit`):
each step keeps this, and with it what is read of a whole pattern.
-/
import CallAtlas.Proofs.Regex.Anchoring
import CallAtlas.Proofs.Regex.Matching

namespace CallAtlas.Regex

open Outcome (bind_eq_ok)

/-! ## Pieces -/

/-- The counts in all of some pieces fit. -/
def AllFit (ps : List Piece) : Prop := ∀ p ∈ ps, p.expr.CountsFit

theorem allFit_cons {p : Piece} {ps : List Piece} :
    AllFit (p :: ps) ↔ p.expr.CountsFit ∧ AllFit ps := List.forall_mem_cons

namespace Piece

theorem countsFit_foldl (join : Expr → Expr → Expr)
    (hjoin : ∀ {a b : Expr}, a.CountsFit → b.CountsFit → (join a b).CountsFit) {ps : List Piece}
    (hps : AllFit ps) {e : Expr} (he : e.CountsFit) :
    (ps.foldl (fun e p => join p.expr e) e).CountsFit := by
  induction ps generalizing e with
  | nil => exact he
  | cons p ps ih =>
    obtain ⟨hp, hps⟩ := allFit_cons.1 hps
    exact ih hps (hjoin hp he)

theorem countsFit_sequence {ps : List Piece} (h : AllFit ps) : (sequence ps).expr.CountsFit := by
  match ps, h with
  | [], _ => trivial
  | [p], h => exact (allFit_cons.1 h).1
  | last :: p :: ps, h =>
    obtain ⟨hlast, hbefore⟩ := allFit_cons.1 h
    exact countsFit_foldl .seq And.intro hbefore hlast

theorem countsFit_choice {ps : List Piece} (h : AllFit ps) : (choice ps).expr.CountsFit := by
  match ps, h with
  | [], _ => trivial
  | [p], h => exact (allFit_cons.1 h).1
  | last :: p :: ps, h =>
    obtain ⟨hlast, hbefore⟩ := allFit_cons.1 h
    exact countsFit_foldl .alt And.intro hbefore hlast

end Piece

/-! ## States -/

/-- The counts in all pieces of a group fit. -/
structure Level.CountsFit (l : Level) : Prop where
  branches : AllFit l.branches
  items : AllFit l.items

namespace State

/-- The counts in all pieces of a state fit. -/
structure CountsFit (st : State) : Prop where
  level : st.level.CountsFit
  outer : ∀ o ∈ st.outer, o.level.CountsFit

theorem countsFit_initial : initial.CountsFit := ⟨⟨nofun, nofun⟩, nofun⟩

variable {st next : State}

theorem CountsFit.content (h : st.CountsFit) : st.content.expr.CountsFit :=
  Piece.countsFit_choice
    (allFit_cons.2 ⟨Piece.countsFit_sequence h.level.items, h.level.branches⟩)

theorem CountsFit.push (h : st.CountsFit) {p : Piece} (hp : p.expr.CountsFit) :
    (st.push p).CountsFit :=
  ⟨⟨h.level.branches, allFit_cons.2 ⟨hp, h.level.items⟩⟩, h.outer⟩

theorem CountsFit.openGroup (h : st.CountsFit) (remembered : Bool) (flags : Flags) :
    (st.openGroup remembered flags).CountsFit :=
  ⟨⟨nofun, nofun⟩, List.forall_mem_cons.2 ⟨h.level, h.outer⟩⟩

theorem CountsFit.nextBranch (h : st.CountsFit) : st.nextBranch.CountsFit :=
  ⟨⟨allFit_cons.2 ⟨Piece.countsFit_sequence h.level.items, h.level.branches⟩, nofun⟩, h.outer⟩

theorem CountsFit.closeGroup (h : st.CountsFit) (hok : st.closeGroup = .ok next) :
    next.CountsFit := by
  rw [State.closeGroup] at hok
  cases houter : st.outer with
  | nil =>
    rw [houter] at hok
    cases hok
  | cons o outer =>
    rw [houter] at hok
    cases hok
    obtain ⟨ho, houter⟩ := List.forall_mem_cons.1 (houter ▸ h.outer)
    have hclosed : CountsFit ⟨o.flags, o.level, outer, st.names⟩ := ⟨ho, houter⟩
    exact hclosed.push h.content

theorem CountsFit.repeatLast (h : st.CountsFit) {least : Nat} {most : Option Nat} {isLazy : Bool}
    (hcounts : ∀ m, most = some m → least ≤ m)
    (hok : st.repeatLast least most isLazy = .ok next) : next.CountsFit := by
  rw [State.repeatLast] at hok
  cases hitems : st.level.items with
  | nil =>
    rw [hitems] at hok
    cases hok
  | cons p items =>
    rw [hitems] at hok
    obtain ⟨hp, hitems⟩ := allFit_cons.1 (hitems ▸ h.level.items)
    have hbefore : CountsFit { st with level := { st.level with items := items } } :=
      ⟨⟨h.level.branches, hitems⟩, h.outer⟩
    dsimp only at hok
    split_ifs at hok
    cases hok
    exact hbefore.push ⟨hp, hcounts⟩

end State

/-! ## Steps -/

variable {st next : State} {cs left : List Char}

theorem le_of_scanCount {fs : Flags} {least : Nat} {most : Option Nat}
    (h : scanCount fs cs = .ok (least, most, left)) : ∀ m, most = some m → least ≤ m := by
  rw [scanCount] at h
  grind

theorem countsFit_scanRepeat {least : Nat} {most : Option Nat} (h : st.CountsFit)
    (hcounts : ∀ m, most = some m → least ≤ m)
    (hok : scanRepeat st least most cs = .ok (next, left)) : next.CountsFit := by
  rw [scanRepeat] at hok
  obtain ⟨repeated, hrepeat, hok⟩ := bind_eq_ok.1 hok
  cases hok
  exact h.repeatLast hcounts hrepeat

theorem countsFit_scanNamed (h : st.CountsFit) (hok : scanNamed st cs = .ok (next, left)) :
    next.CountsFit := by
  rw [scanNamed] at hok
  obtain ⟨⟨name, rest⟩, -, hok⟩ := bind_eq_ok.1 hok
  dsimp only at hok
  split_ifs at hok
  cases hok
  have hnamed : State.CountsFit { st with names := name :: st.names } := ⟨h.level, h.outer⟩
  exact hnamed.openGroup _ _

theorem countsFit_scanFlags (h : st.CountsFit) (hok : scanFlags st cs = .ok (next, left)) :
    next.CountsFit := by
  rw [scanFlags] at hok
  obtain ⟨⟨items, closed, rest⟩, -, hok⟩ := bind_eq_ok.1 hok
  dsimp only at hok
  split_ifs at hok
  · cases hok
    exact h.openGroup _ _
  · cases hok
    have hset : State.CountsFit { st with flags := st.flags.follow items } := ⟨h.level, h.outer⟩
    exact hset.push trivial

theorem countsFit_scanGroup (h : st.CountsFit) (hok : scanGroup st cs = .ok (next, left)) :
    next.CountsFit := by
  unfold scanGroup at hok
  split at hok
  · exact countsFit_scanNamed h hok
  · cases hok
  · cases hok
  · cases hok
  · cases hok
  · exact countsFit_scanNamed h hok
  · exact countsFit_scanFlags h hok
  · cases hok
    exact h.openGroup _ _

theorem countsFit_scanItem {n : Nat} {c : Char} (h : st.CountsFit)
    (hok : scanItem n st c cs = .ok (next, left)) : next.CountsFit := by
  have hliteral : ∀ {d byte e}, literalExpr st.flags d byte = .ok e → e.CountsFit := by
    intro d byte e he
    rw [literalExpr] at he
    split_ifs at he
    cases he
    trivial
  unfold scanItem at hok
  split at hok
  · exact countsFit_scanGroup h hok
  · obtain ⟨closed, hclose, hok⟩ := bind_eq_ok.1 hok
    cases hok
    exact h.closeGroup hclose
  · cases hok
    exact h.nextBranch
  · obtain ⟨part, -, hok⟩ := bind_eq_ok.1 hok
    cases hok
    exact h.push trivial
  · exact countsFit_scanRepeat h (by simp) hok
  · exact countsFit_scanRepeat h (by simp) hok
  · exact countsFit_scanRepeat h (by simp) hok
  · obtain ⟨⟨least, most, rest⟩, hcount, hok⟩ := bind_eq_ok.1 hok
    exact countsFit_scanRepeat h (le_of_scanCount hcount) hok
  · obtain ⟨⟨item, rest⟩, -, hok⟩ := bind_eq_ok.1 hok
    cases item with
    | literal d byte =>
      obtain ⟨e, he, hok⟩ := bind_eq_ok.1 hok
      cases hok
      exact h.push (hliteral he)
    | set s =>
      cases hok
      exact h.push trivial
    | look l =>
      cases hok
      exact h.push trivial
  · obtain ⟨e, he, hok⟩ := bind_eq_ok.1 hok
    cases hok
    refine h.push ?_
    rw [dotExpr] at he
    split_ifs at he <;> cases he <;> trivial
  · cases hok
    exact h.push trivial
  · cases hok
    exact h.push trivial
  · obtain ⟨e, he, hok⟩ := bind_eq_ok.1 hok
    cases hok
    exact h.push (hliteral he)

theorem countsFit_scanAll {n : Nat} (h : st.CountsFit) (hok : scanAll n st cs = .ok next) :
    next.CountsFit := by
  induction n generalizing cs st with
  | zero => cases hok
  | succ n ih =>
    rw [scanAll] at hok
    split at hok
    · cases hok
      exact h
    · obtain ⟨⟨st', left⟩, hitem, hok⟩ := bind_eq_ok.1 hok
      exact ih (countsFit_scanItem h hitem) hok

/-- In what is read of a pattern no repetition asks for more rounds than it allows. -/
theorem countsFit_read {pattern : List Char} {p : Piece} (h : read pattern = .ok p) :
    p.expr.CountsFit := by
  obtain ⟨st, hst, -, rfl⟩ := (read_eq_ok_iff (Nat.lt_succ_self _)).1 h
  exact (countsFit_scanAll State.countsFit_initial hst).content

end CallAtlas.Regex
