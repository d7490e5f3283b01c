/-
# `CallAtlas.Proofs.Regex.Items` — one item of a pattern, with the closing and within groups

Two facts about `scanItem`, the step of the reading.  With the closing behind the
rest of a pattern it does what it does without, or it runs into the closing
(`parallel_scanItem`).  And it does not look at the groups around the one that it
reads: put further groups around, and it does the same (`scanItem_above`), but for
a `)` that would have closed none.
-/
import CallAtlas.Proofs.Regex.Brackets

namespace CallAtlas.Regex

open Outcome (bind_eq_ok)

attribute [local grind =] bind_eq_ok
attribute [local grind →] List.IsSuffix.trans suffix_of_cons

/-! ## Beside the closing -/

section Parallel

variable {fs : Flags} {cs more : List Char} {st : State}

theorem parallel_scanCount (h : Continued cs more) :
    Parallel (fun a b => a.1 = b.1 ∧ Beside a.2 b.2) (fun _ => False) (scanCount fs cs)
      (scanCount fs more) := by
  obtain ⟨count, left, left', hcount, hcount', hleft⟩ :=
    (beside_takeCount fs (continued_skip fs h)).out
  simp only [scanCount, hcount, hcount']
  cases count with
  | none => trivial
  | some least =>
    rcases hleft.head_cases (c := '\x7d') (by decide) with ⟨q, q', rfl, rfl, hq⟩ | ⟨hl, hl'⟩
    · exact ⟨rfl, rfl, hq⟩
    rcases hleft.head_cases (c := ',') (by decide) with ⟨q, q', rfl, rfl, hq⟩ | ⟨hm, hm'⟩
    · have hskip := continued_skip fs hq
      simp only
      generalize skip fs q = r at hskip ⊢
      generalize skip fs q' = r' at hskip ⊢
      rcases hskip.head_cases (c := '\x7d') (by decide) with ⟨t, t', rfl, rfl, ht⟩ | ⟨hr, hr'⟩
      · exact ⟨rfl, rfl, ht⟩
      obtain ⟨most, left, left', hmost, hmost', hleft⟩ := (beside_takeCount fs hskip).out
      simp only [hmost, hmost']
      cases most with
      | none => grind [Parallel]
      | some most =>
        rcases hleft.head_cases (c := '\x7d') (by decide) with ⟨t, t', rfl, rfl, ht⟩ | ⟨hs, hs'⟩
        · have : Beside (some most, t) (some most, t') := ⟨rfl, ht⟩
          grind [Parallel]
        · grind [Parallel]
    · grind [Parallel]

theorem beside_takeLazy (h : Continued cs more) : Beside (takeLazy cs) (takeLazy more) := by
  rcases h.head_cases (c := '?') (by decide) with ⟨rest, rest', rfl, rfl, hrest⟩ | ⟨hcs, hmore⟩
  · exact ⟨rfl, hrest⟩
  · have : Beside (false, cs) (false, more) := ⟨rfl, h⟩
    grind [takeLazy]

theorem parallel_scanRepeat {least : Nat} {most : Option Nat} (h : Continued cs more) :
    Parallel Beside (fun _ => False) (scanRepeat st least most cs)
      (scanRepeat st least most more) := by
  obtain ⟨isLazy, left, left', hlazy, hlazy', hleft⟩ := (beside_takeLazy h).out
  simp only [scanRepeat, hlazy, hlazy']
  exact .same _ hleft

theorem parallel_flagItems {clearing dangling : Bool} {seen : List (Flag × Bool)}
    (h : Continued cs more) :
    Parallel (fun a b => a.1 = b.1 ∧ Beside a.2 b.2) (fun b => Spent b.2.2)
      (flagItems clearing dangling seen cs) (flagItems clearing dangling seen more) := by
  cases h with
  | swallowed => trivial
  | follows =>
    induction cs generalizing clearing dangling seen with
    | nil =>
      cases dangling with
      | true => trivial
      | false => exact List.suffix_refl ['$']
    | cons c rest ih =>
      simp only [List.cons_append, flagItems]
      split_ifs
      · trivial
      · exact ⟨rfl, rfl, .follows rest⟩
      · trivial
      · exact ih
      · cases Flag.ofLetter? c with
        | none => trivial
        | some f =>
          dsimp only
          split_ifs
          · trivial
          · exact ih

theorem parallel_groupName (h : Continued cs more) :
    Parallel Beside (fun _ => False) (groupName cs) (groupName more) := by
  simp only [groupName]
  rcases cut_cases (c := '>') (by decide) (by decide) h with
    ⟨left, left', hd, hd', ht, hleft⟩ | ⟨hd, hd'⟩
  · rw [hd, hd', ht]
    cases cs.takeWhile (· ≠ '>') with
    | nil => trivial
    | cons first name =>
      dsimp only
      split_ifs
      · exact ⟨rfl, hleft⟩
      · trivial
  · rw [hd, hd']
    cases cs.takeWhile (· ≠ '>') <;> cases more.takeWhile (· ≠ '>') <;> trivial

theorem parallel_scanNamed (st : State) (h : Continued cs more) :
    Parallel Beside (fun _ => False) (scanNamed st cs) (scanNamed st more) := by
  rw [scanNamed, scanNamed]
  refine (parallel_groupName h).bind ?_ fun _ => False.elim
  rintro ⟨name, left⟩ ⟨_, left'⟩ ⟨rfl, hleft⟩
  dsimp only
  split_ifs
  · trivial
  · exact ⟨rfl, hleft⟩

/-- What follows the question mark of a group or directive with flags. -/
def scanFlags (st : State) (cs : List Char) : Except SyntaxError (State × List Char) := do
  let (items, closed, left) ← flagItems false false [] cs
  let flags := st.flags.follow items
  if !closed then .ok (st.openGroup false flags, left)
  else if items = [] then .error .nothingToRepeat
  else .ok ({ st with flags := flags }.push ⟨.empty, 0, true⟩, left)

theorem parallel_scanFlags (st : State) (h : Continued cs more) :
    Parallel Beside (fun b => Spent b.2) (scanFlags st cs) (scanFlags st more) := by
  rw [scanFlags, scanFlags]
  refine (parallel_flagItems h).bind ?_ ?_
  · rintro ⟨items, closed, left⟩ ⟨_, _, left'⟩ ⟨rfl, rfl, hleft⟩
    dsimp only
    split_ifs
    · exact ⟨rfl, hleft⟩
    · trivial
    · exact ⟨rfl, hleft⟩
  · rintro ⟨items, closed, left⟩ hspent ⟨next, left'⟩ hok
    grind

theorem parallel_scanGroup (h : Continued cs more) :
    Parallel Beside (fun b => Spent b.2) (scanGroup st cs) (scanGroup st more) := by
  have hskip := continued_skip st.flags h
  unfold scanGroup
  generalize skip st.flags cs = r at hskip ⊢
  generalize skip st.flags more = r' at hskip ⊢
  rcases hskip.head_cases (c := '?') (by decide) with ⟨t, t', rfl, rfl, ht⟩ | ⟨hr, hr'⟩
  · have hflags := parallel_scanFlags st ht
    rcases ht.head_cases (c := 'P') (by decide) with ⟨u, u', rfl, rfl, hu⟩ | ⟨hp, hp'⟩
    · rcases hu.head_cases (c := '<') (by decide) with ⟨v, v', rfl, rfl, hv⟩ | ⟨hangle, hangle'⟩
      · exact (parallel_scanNamed st hv).mono fun _ => False.elim
      · grind [scanFlags]
    rcases ht.head_cases (c := '<') (by decide) with ⟨u, u', rfl, rfl, hu⟩ | ⟨hangle, hangle'⟩
    · rcases hu.head_cases (c := '=') (by decide) with ⟨v, v', rfl, rfl, hv⟩ | ⟨heq, heq'⟩
      · trivial
      rcases hu.head_cases (c := '!') (by decide) with ⟨v, v', rfl, rfl, hv⟩ | ⟨hne, hne'⟩
      · trivial
      have : Parallel Beside (fun b => Spent b.2) (scanNamed st u) (scanNamed st u') :=
        (parallel_scanNamed st hu).mono fun _ => False.elim
      grind
    rcases ht.head_cases (c := '=') (by decide) with ⟨v, v', rfl, rfl, hv⟩ | ⟨heq, heq'⟩
    · trivial
    rcases ht.head_cases (c := '!') (by decide) with ⟨v, v', rfl, rfl, hv⟩ | ⟨hne, hne'⟩
    · trivial
    grind [scanFlags]
  · have : Parallel Beside (fun b => Spent b.2) (.ok (st.openGroup true st.flags, r))
      (.ok (st.openGroup true st.flags, r')) := ⟨rfl, hskip⟩
    grind

/-- The reading of an item has run into the closing: it has left the last sign of it at most, or
a brace before it, where only a count could stand. -/
def Overrun (b : State × List Char) : Prop :=
  Spent b.2 ∨ ∃ rest, b.2 = '\x7b' :: rest ∧ skip b.1.flags rest = closing

/-- With the closing behind it an item is read as without, or its reading runs into the
closing. -/
theorem parallel_scanItem {n : Nat} {c : Char} (h : Continued cs more) (hn : more.length ≤ n) :
    Parallel Beside Overrun (scanItem n st c cs) (scanItem n st c more) := by
  have hrepeat : ∀ {least most cs more}, Continued cs more →
      Parallel Beside Overrun (scanRepeat st least most cs) (scanRepeat st least most more) :=
    fun h => (parallel_scanRepeat h).mono fun _ => False.elim
  unfold scanItem
  split
  · exact (parallel_scanGroup h).mono fun _ => .inl
  · exact .same _ h
  · exact ⟨rfl, h⟩
  · refine (parallel_scanBracket h hn).bind ?_ fun _ => False.elim
    rintro ⟨part, left⟩ ⟨_, left'⟩ ⟨rfl, hleft⟩
    exact ⟨rfl, hleft⟩
  · exact hrepeat h
  · exact hrepeat h
  · exact hrepeat h
  · refine (parallel_scanCount h).bind ?_ fun _ => False.elim
    rintro ⟨least, most, left⟩ ⟨_, _, left'⟩ ⟨rfl, rfl, hleft⟩
    exact hrepeat (continued_skip st.flags hleft)
  · refine (parallel_scanEscape h).bind ?_ ?_
    · rintro ⟨item, left⟩ ⟨_, left'⟩ ⟨rfl, hleft⟩
      cases item with
      | literal d byte => exact .same (literalExpr st.flags d byte) hleft
      | set s => exact ⟨rfl, hleft⟩
      | look l => exact ⟨rfl, hleft⟩
    · rintro ⟨item, left⟩ (hspent | ⟨⟨l, rfl⟩, rest, rfl, hrest⟩) ⟨next, left'⟩ hok
      · left
        grind
      · cases hok
        exact .inr ⟨rest, rfl, hrest⟩
  · exact .same _ h
  · exact ⟨rfl, h⟩
  · exact ⟨rfl, h⟩
  · exact .same _ h

end Parallel

/-! ## Within further groups -/

namespace State

/-- The state within further groups. -/
def above (bottom : List Outer) (st : State) : State := { st with outer := st.outer ++ bottom }

variable (bottom : List Outer) (st : State)

@[simp]
theorem above_flags : (st.above bottom).flags = st.flags := rfl

@[simp]
theorem above_level : (st.above bottom).level = st.level := rfl

@[simp]
theorem above_outer : (st.above bottom).outer = st.outer ++ bottom := rfl

theorem above_nil : st.above [] = st := by
  rw [above, List.append_nil]

theorem repeatLast_above (least : Nat) (most : Option Nat) (isLazy : Bool) :
    (st.above bottom).repeatLast least most isLazy =
      (st.repeatLast least most isLazy).map (above bottom) := by
  obtain ⟨flags, ⟨branches, items⟩, outer, names⟩ := st
  cases items with
  | nil => rfl
  | cons p items =>
    simp only [repeatLast, above]
    split_ifs <;> rfl

theorem closeGroup_above (h : st.outer ≠ []) :
    (st.above bottom).closeGroup = st.closeGroup.map (above bottom) := by
  obtain ⟨flags, level, outer, names⟩ := st
  cases outer with
  | nil => exact absurd rfl h
  | cons o outer => rfl

end State

section Above

variable (bottom : List Outer) (st : State)

/-- The outcome of a step, within further groups. -/
def outcomeAbove (x : Except SyntaxError (State × List Char)) :
    Except SyntaxError (State × List Char) :=
  x.map fun p => (p.1.above bottom, p.2)

theorem scanRepeat_above (least : Nat) (most : Option Nat) (cs : List Char) :
    scanRepeat (st.above bottom) least most cs =
      outcomeAbove bottom (scanRepeat st least most cs) := by
  simp only [scanRepeat, State.repeatLast_above]
  cases st.repeatLast least most (takeLazy cs).1 <;> rfl

theorem scanNamed_above (cs : List Char) :
    scanNamed (st.above bottom) cs = outcomeAbove bottom (scanNamed st cs) := by
  rw [scanNamed, scanNamed]
  cases groupName cs with
  | error e => rfl
  | ok p =>
    show (if st.names.contains p.1 then _ else _) = outcomeAbove bottom (ite _ _ _)
    split_ifs <;> rfl

theorem scanFlags_above (cs : List Char) :
    scanFlags (st.above bottom) cs = outcomeAbove bottom (scanFlags st cs) := by
  rw [scanFlags, scanFlags]
  cases flagItems false false [] cs with
  | error e => rfl
  | ok p =>
    obtain ⟨items, _ | _, left⟩ := p
    · rfl
    · show (if items = [] then _ else _) = outcomeAbove bottom (ite _ _ _)
      split_ifs <;> rfl

theorem scanGroup_above (cs : List Char) :
    scanGroup (st.above bottom) cs = outcomeAbove bottom (scanGroup st cs) := by
  unfold scanGroup
  simp only [State.above_flags]
  split
  · exact scanNamed_above bottom st _
  · rfl
  · rfl
  · rfl
  · rfl
  · exact scanNamed_above bottom st _
  · exact scanFlags_above bottom st _
  · rfl

/-- A step is the same within further groups, unless it closes one of them. -/
theorem scanItem_above {n : Nat} {c : Char} (cs : List Char) (h : c = ')' → st.outer ≠ []) :
    scanItem n (st.above bottom) c cs = outcomeAbove bottom (scanItem n st c cs) := by
  unfold scanItem
  simp only [State.above_flags]
  split
  · exact scanGroup_above bottom st cs
  · rw [State.closeGroup_above bottom st (h rfl)]
    cases st.closeGroup <;> rfl
  · rfl
  · cases scanBracket st.flags n cs <;> rfl
  · exact scanRepeat_above bottom st ..
  · exact scanRepeat_above bottom st ..
  · exact scanRepeat_above bottom st ..
  · simp only [scanRepeat_above]
    cases scanCount st.flags cs <;> rfl
  · cases scanEscape st.flags cs with
    | error e => rfl
    | ok p =>
      obtain ⟨item, left⟩ := p
      cases item with
      | literal d byte =>
        show (literalExpr st.flags d byte >>= fun _ => _) =
          outcomeAbove bottom (literalExpr st.flags d byte >>= fun _ => _)
        cases literalExpr st.flags d byte <;> rfl
      | set s => rfl
      | look l => rfl
  · cases dotExpr st.flags <;> rfl
  · rfl
  · rfl
  · cases literalExpr st.flags c false <;> rfl

end Above

end CallAtlas.Regex
