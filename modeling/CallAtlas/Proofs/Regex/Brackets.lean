/-
# `CallAtlas.Proofs.Regex.Brackets` — brackets with the closing behind them

A bracket that is open at the end of a pattern stays open with the closing behind
it, since there is no `]` in the closing.  So while the reading of an item in
brackets may run into the closing, the reading of a whole bracket may not:
it gives the same class in both, or fails in both (`parallel_scanBracket`).
-/
import CallAtlas.Proofs.Regex.Continuation

namespace CallAtlas.Regex

open Outcome (bind_eq_ok)

attribute [local grind =] bind_eq_ok
attribute [local grind →] List.IsSuffix.trans suffix_of_cons

variable {fs : Flags} {cs more : List Char}

/-! ## Texts without a closing bracket -/

/-- There is no closing bracket in the rest, so no open bracket is closed in it. -/
def Unclosed (left : List Char) : Prop := ']' ∉ left

theorem unclosed_closing : Unclosed closing := by
  simp [Unclosed, closing]

theorem Unclosed.of_suffix {left left' : List Char} (h : Unclosed left) (hs : left' <:+ left) :
    Unclosed left' :=
  fun hmem => h (hs.subset hmem)

theorem Continued.unclosed (h : Continued [] more) : Unclosed more := by
  cases h <;> simp [Unclosed, closing]

theorem Spent.unclosed {left : List Char} (h : Spent left) : Unclosed left :=
  unclosed_closing.of_suffix (h.trans (List.suffix_cons ')' ['$']))

/-- Brackets are only read to their end if there is a closing bracket. -/
theorem mem_of_scanItems {n : Nat} {frames : List ClassFrame} {items : List ClassPart}
    {part : ClassPart} {left : List Char} (h : scanItems fs n frames items cs = .ok (part, left)) :
    ']' ∈ skip fs cs := by
  induction n generalizing cs frames items with
  | zero => cases h
  | succ n ih =>
    have hmem : ∀ {c : Char} {rest left : List Char}, left <:+ rest → ']' ∈ skip fs left →
        ']' ∈ c :: rest :=
      fun hs h => List.mem_cons_of_mem _ (hs.subset ((suffix_skip fs _).subset h))
    rw [scanItems] at h
    cases hr : skip fs cs with
    | nil =>
      rw [hr] at h
      cases h
    | cons c rest =>
      rw [hr] at h
      split at h
      · cases h
      · rename_i rest' heq
        cases heq
        split at h
        · rename_i s negated left' hnamed
          obtain ⟨s', -, h⟩ := bind_eq_ok.1 h
          exact hmem (suffix_namedClass? hnamed) (ih h)
        · obtain ⟨⟨negated, first, left'⟩, hopen, h⟩ := bind_eq_ok.1 h
          exact hmem (suffix_openBracket hopen) (ih h)
      · rename_i rest' heq
        cases heq
        exact List.mem_cons_self
      · split at h
        · rename_i op left' hop
          exact hmem (suffix_classOp? hop) (ih h)
        · obtain ⟨⟨part', left'⟩, hrange, h⟩ := bind_eq_ok.1 h
          exact hmem (suffix_scanClassRange hrange) (ih h)

theorem Unclosed.scanItems_ne_ok {n : Nat} {frames : List ClassFrame} {items : List ClassPart}
    {r : ClassPart × List Char} (h : Unclosed cs) : scanItems fs n frames items cs ≠ .ok r :=
  fun hok => h ((suffix_skip fs cs).subset (mem_of_scanItems hok))

/-! ## Items and ranges -/

theorem parallel_scanClassItem (h : Continued cs more) :
    Parallel Beside (fun b => Spent b.2 ∨ ∃ l, b.1 = .look l) (scanClassItem fs cs)
      (scanClassItem fs more) := by
  cases h with
  | swallowed => trivial
  | follows =>
    cases cs with
    | nil => exact .inl (List.suffix_refl ['$'])
    | cons c rest =>
      have hrest : Continued rest (rest ++ closing) := .follows rest
      by_cases hc : c = '\\'
      · subst hc
        exact (parallel_scanEscape hrest).mono fun _ h => h.imp id And.left
      · have hliteral : Beside (Primitive.literal c false, rest)
            (Primitive.literal c false, rest ++ closing) := ⟨rfl, hrest⟩
        grind [scanClassItem, Parallel]

theorem peekPast_eq_some_iff (fs : Flags) {c : Char} (hc : c ≠ ')') (h : Continued cs more) :
    peekPast fs cs = some c ↔ peekPast fs more = some c := by
  have hblanks := continued_dropWhile isBlank_paren h
  unfold peekPast
  split
  · rcases hblanks.head_cases (c := '#') (by decide) with
      ⟨rest, rest', hr, hr', hrest⟩ | ⟨hcs, hmore⟩
    · simp only [hr, hr']
      exact head?_eq_some_iff hc (continued_dropWhile isBlank_paren hrest)
    · have := head?_eq_some_iff hc hblanks
      grind
  · exact head?_eq_some_iff hc h

/-- The end of a range whose first character has been read. -/
def rangeEnd (fs : Flags) (first : Primitive) (cs : List Char) :
    Except SyntaxError (ClassPart × List Char) := do
  let (second, left) ← scanClassItem fs cs
  let lo ← classChar fs first
  let hi ← classChar fs second
  if lo ≤ hi then .ok (⟨.range lo hi, 0⟩, left) else .error .bracketRange

theorem suffix_rangeEnd {first : Primitive} {part : ClassPart} {left : List Char}
    (h : rangeEnd fs first cs = .ok (part, left)) : left <:+ cs := by
  rw [rangeEnd] at h
  grind

theorem parallel_rangeEnd (first : Primitive) (h : Continued cs more) :
    Parallel Beside (fun b => Unclosed b.2) (rangeEnd fs first cs) (rangeEnd fs first more) := by
  rw [rangeEnd, rangeEnd]
  refine (parallel_scanClassItem h).bind ?_ ?_
  · rintro ⟨second, left⟩ ⟨_, left'⟩ ⟨rfl, hleft⟩
    dsimp only
    cases classChar fs first with
    | error e => trivial
    | ok lo =>
      cases classChar fs second with
      | error e => trivial
      | ok hi =>
        show Parallel _ _ (ite _ _ _) (ite _ _ _)
        split_ifs
        · exact ⟨rfl, hleft⟩
        · trivial
  · rintro ⟨second, left⟩ (hspent | ⟨l, rfl⟩) ⟨part, left'⟩ hok
    · refine hspent.unclosed.of_suffix ?_
      grind
    · grind [classChar]

/-- What follows the first character of an item in brackets: the end of a range, or nothing. -/
def rangeFrom (fs : Flags) (first : Primitive) :
    List Char → Except SyntaxError (ClassPart × List Char)
  | [] => .error .bracketUnclosed
  | '-' :: after =>
      if peekPast fs after = some ']' ∨ peekPast fs after = some '-' then do
        .ok (← classItem fs first, '-' :: after)
      else rangeEnd fs first (skip fs after)
  | left => do .ok (← classItem fs first, left)

theorem scanClassRange_eq (fs : Flags) (cs : List Char) :
    scanClassRange fs cs =
      scanClassItem fs cs >>= fun p => rangeFrom fs p.1 (skip fs p.2) := by
  rw [scanClassRange]
  refine bind_congr fun p => ?_
  have hnil : rangeEnd fs p.1 [] = .error .bracketUnclosed := rfl
  obtain ⟨first, rest⟩ := p
  dsimp only
  generalize skip fs rest = r
  unfold rangeFrom
  split
  · rfl
  · rename_i after
    cases hr : skip fs after <;> grind [rangeEnd]
  · grind

theorem suffix_rangeFrom {first : Primitive} {part : ClassPart} {left : List Char}
    (h : rangeFrom fs first cs = .ok (part, left)) : left <:+ cs := by
  unfold rangeFrom at h
  grind [→ suffix_rangeEnd]

/-- A condition is no item in brackets, nor does it begin a range. -/
theorem rangeFrom_look_ne_ok {l : Look} {r : ClassPart × List Char} :
    rangeFrom fs (.look l) cs ≠ .ok r := by
  intro hok
  unfold rangeFrom at hok
  split at hok
  · cases hok
  · split_ifs at hok
    · cases hok
    · obtain ⟨second, -, hok⟩ := bind_eq_ok.1 hok
      cases hok
  · cases hok

theorem parallel_rangeFrom (first : Primitive) (h : Continued cs more) :
    Parallel Beside (fun b => Unclosed b.2) (rangeFrom fs first cs) (rangeFrom fs first more) := by
  have hplain : ∀ left left', Continued left left' → Parallel Beside (fun b => Unclosed b.2)
      (classItem fs first >>= fun part => .ok (part, left))
      (classItem fs first >>= fun part => .ok (part, left')) := fun left left' h => .same _ h
  rcases h.head_cases (c := '-') (by decide) with
    ⟨after, after', rfl, rfl, hafter⟩ | ⟨hcs, hmore⟩
  · have hbracket : ']' ≠ ')' := by decide
    have hhyphen : '-' ≠ ')' := by decide
    simp only [rangeFrom, ← peekPast_eq_some_iff fs hbracket hafter,
      ← peekPast_eq_some_iff fs hhyphen hafter]
    split_ifs
    · exact hplain _ _ h
    · exact parallel_rangeEnd first (continued_skip fs hafter)
  · cases h with
    | swallowed => trivial
    | follows =>
      cases cs with
      | nil =>
        show Parallel _ _ (.error .bracketUnclosed)
          (classItem fs first >>= fun part => .ok (part, closing))
        cases classItem fs first with
        | error e => trivial
        | ok part => exact unclosed_closing
      | cons c rest =>
        have := hplain _ _ (.follows (c :: rest))
        grind [rangeFrom]

theorem parallel_scanClassRange (h : Continued cs more) :
    Parallel Beside (fun b => Unclosed b.2) (scanClassRange fs cs) (scanClassRange fs more) := by
  rw [scanClassRange_eq, scanClassRange_eq]
  refine (parallel_scanClassItem h).bind ?_ ?_
  · rintro ⟨first, rest⟩ ⟨_, rest'⟩ ⟨rfl, hrest⟩
    exact parallel_rangeFrom first (continued_skip fs hrest)
  · rintro ⟨first, rest⟩ (hspent | ⟨l, hlook⟩) ⟨part, left⟩ hok
    · exact hspent.unclosed.of_suffix ((suffix_rangeFrom hok).trans (suffix_skip fs rest))
    · obtain rfl : first = .look l := hlook
      exact absurd hok rangeFrom_look_ne_ok

/-! ## Signs between the items -/

theorem classOp?_cases (h : Continued cs more) :
    (∃ op left left', classOp? cs = some (op, left) ∧ classOp? more = some (op, left') ∧
        Continued left left') ∨
      (classOp? cs = none ∧ classOp? more = none) := by
  cases h with
  | swallowed => exact .inr ⟨rfl, rfl⟩
  | follows =>
    rcases cs with _ | ⟨c, _ | ⟨d, rest⟩⟩
    · exact .inr ⟨rfl, rfl⟩
    · simp [classOp?, closing]
    · have hrest : Continued rest (rest ++ closing) := .follows rest
      by_cases hand : c = '&' ∧ d = '&'
      · obtain ⟨rfl, rfl⟩ := hand
        exact .inl ⟨.inter, rest, _, rfl, rfl, hrest⟩
      by_cases hminus : c = '-' ∧ d = '-'
      · obtain ⟨rfl, rfl⟩ := hminus
        exact .inl ⟨.diff, rest, _, rfl, rfl, hrest⟩
      by_cases htilde : c = '~' ∧ d = '~'
      · obtain ⟨rfl, rfl⟩ := htilde
        exact .inl ⟨.symmDiff, rest, _, rfl, rfl, hrest⟩
      right
      simp only [not_and] at hand hminus htilde
      constructor <;> simp [classOp?] <;> grind

theorem beside_takeCaret (h : Continued cs more) : Beside (takeCaret cs) (takeCaret more) := by
  rcases h.head_cases (c := '^') (by decide) with ⟨rest, rest', rfl, rfl, hrest⟩ | ⟨hcs, hmore⟩
  · exact ⟨rfl, hrest⟩
  · have : Beside (false, cs) (false, more) := ⟨rfl, h⟩
    grind [takeCaret]

theorem namedClass?_cases (h : Continued cs more) :
    (∃ s negated left left', namedClass? cs = some (s, negated, left) ∧
        namedClass? more = some (s, negated, left') ∧ Continued left left') ∨
      (namedClass? cs = none ∧ namedClass? more = none) := by
  rcases h.head_cases (c := ':') (by decide) with ⟨rest, rest', rfl, rfl, hrest⟩ | ⟨hcs, hmore⟩
  · obtain ⟨negated, name, name', hname, hname', hcaret⟩ := (beside_takeCaret hrest).out
    rw [namedClass?_colon, namedClass?_colon, hname, hname']
    dsimp only
    rcases cut_cases (c := ':') (by decide) (by decide) hcaret with
      ⟨left, left', hd, hd', ht, hleft⟩ | ⟨hd, hd'⟩
    · rw [hd, hd', ht]
      rcases hleft.head_cases (c := ']') (by decide) with ⟨q, q', rfl, rfl, hq⟩ | ⟨hl, hl'⟩
      · cases namedClasses.lookup (String.ofList (name.takeWhile (· ≠ ':'))) with
        | none => exact .inr ⟨rfl, rfl⟩
        | some s => exact .inl ⟨s, negated, q, q', rfl, rfl, hq⟩
      · right
        grind
    · rw [hd, hd']
      exact .inr ⟨rfl, rfl⟩
  · right
    grind [namedClass?]

/-! ## The beginning of a bracket -/

theorem parallel_leadingHyphens (fs : Flags) {n : Nat} (items : List ClassPart)
    (h : Continued cs more) (hn : more.length ≤ n) :
    Parallel Beside (fun b => Unclosed b.2) (leadingHyphens fs items n cs)
      (leadingHyphens fs items n more) := by
  induction n generalizing items cs more with
  | zero =>
    obtain rfl := List.length_eq_zero_iff.1 (Nat.le_zero.1 hn)
    obtain rfl := h.eq_nil
    exact ⟨rfl, h⟩
  | succ n ih =>
    rcases h.head_cases (c := '-') (by decide) with ⟨rest, rest', rfl, rfl, hrest⟩ | ⟨hcs, hmore⟩
    · have hskip := continued_skip fs hrest
      have hlength := (length_skip_le fs rest').trans (Nat.le_of_succ_le_succ hn)
      simp only [leadingHyphens]
      generalize skip fs rest = r at hskip ⊢
      generalize skip fs rest' = r' at hskip hlength ⊢
      cases hskip with
      | swallowed => trivial
      | follows =>
        cases r with
        | nil =>
          show Parallel _ _ (.error _) (leadingHyphens fs _ n closing)
          rw [leadingHyphens_of_ne (by simp [closing])]
          exact unclosed_closing
        | cons c r => exact ih _ (.follows (c :: r)) hlength
    · rw [leadingHyphens_of_ne hcs, leadingHyphens_of_ne hmore]
      exact ⟨rfl, h⟩

theorem parallel_firstItems (fs : Flags) {n : Nat} (negated : Bool) (h : Continued cs more)
    (hn : more.length ≤ n) :
    Parallel (fun a b => a.1 = b.1 ∧ Beside a.2 b.2) (fun b => Unclosed b.2.2)
      (firstItems fs n negated cs) (firstItems fs n negated more) := by
  have hhyphens := parallel_leadingHyphens fs [] h hn
  cases h with
  | swallowed => trivial
  | follows =>
    cases cs with
    | nil =>
      show Parallel _ _ (.error _) (firstItems fs n negated closing)
      have hclosing : leadingHyphens fs [] n closing = .ok ([], closing) :=
        leadingHyphens_of_ne (by simp [closing])
      simp only [firstItems, hclosing]
      exact unclosed_closing
    | cons c rest =>
      simp only [firstItems, List.cons_append, reduceCtorEq, if_false]
      refine hhyphens.bind ?_ ?_
      · rintro ⟨items, r⟩ ⟨_, r'⟩ ⟨rfl, hr⟩
        have hplain : Parallel (fun a b => a.1 = b.1 ∧ Beside a.2 b.2) (fun b => Unclosed b.2.2)
            (.ok (negated, items, r)) (.ok (negated, items, r')) := ⟨rfl, rfl, hr⟩
        cases items with
        | cons item items => exact hplain
        | nil =>
          rcases hr.head_cases (c := ']') (by decide) with ⟨q, q', rfl, rfl, hq⟩ | ⟨hl, hl'⟩
          · have hmore := continued_skip fs hq
            simp only
            generalize skip fs q = left at hmore ⊢
            generalize skip fs q' = left' at hmore ⊢
            cases hmore with
            | swallowed => trivial
            | follows =>
              cases left with
              | nil => exact unclosed_closing
              | cons d left => exact ⟨rfl, rfl, .follows (d :: left)⟩
          · grind
      · rintro ⟨items, r⟩ hover ⟨negated', items', r'⟩ hok
        grind [Unclosed]

theorem parallel_openBracket {n : Nat} (h : Continued cs more) (hn : more.length ≤ n) :
    Parallel (fun a b => a.1 = b.1 ∧ Beside a.2 b.2) (fun b => Unclosed b.2.2)
      (openBracket fs n cs) (openBracket fs n more) := by
  rw [openBracket_eq, openBracket_eq]
  have hskip := continued_skip fs h
  have hlength := (length_skip_le fs more).trans hn
  rcases hskip.head_cases (c := '^') (by decide) with ⟨rest, rest', hr, hr', hrest⟩ | ⟨hcs, hmore⟩
  · rw [hr'] at hlength
    rw [hr, hr']
    simp only
    exact parallel_firstItems fs _ (continued_skip fs hrest)
      ((length_skip_le fs rest').trans (Nat.le_of_succ_le hlength))
  · have := parallel_firstItems fs false hskip hlength
    grind

/-! ## Whole brackets -/

theorem parallel_scanItems {n : Nat} {frames : List ClassFrame} {items : List ClassPart}
    (h : Continued cs more) (hn : more.length ≤ n) :
    Parallel Beside (fun _ => False) (scanItems fs n frames items cs)
      (scanItems fs n frames items more) := by
  induction n generalizing cs more frames items with
  | zero => exact True.intro
  | succ n ih =>
    have hskip := continued_skip fs h
    cases hr : skip fs cs with
    | nil =>
      rw [scanItems_of_nil hr]
      rw [hr] at hskip
      exact Parallel.failed fun _ hok => hskip.unclosed (mem_of_scanItems hok)
    | cons c rest =>
      rw [hr] at hskip
      obtain ⟨rest', hr', hrest⟩ := hskip.cons
      rw [hr'] at hskip
      have hcons : (c :: rest').length ≤ n + 1 := hr' ▸ (length_skip_le fs more).trans hn
      have hlength : rest'.length ≤ n := Nat.le_of_succ_le_succ hcons
      have hnext : ∀ frames items {left left' : List Char}, Continued left left' →
          left' <:+ rest' →
          Parallel Beside (fun _ => False) (scanItems fs n frames items left)
            (scanItems fs n frames items left') := fun frames items left left' hleft hs' =>
        ih hleft (hs'.length_le.trans hlength)
      rw [scanItems, scanItems]
      simp only [hr, hr']
      by_cases hopen : c = '['
      · subst hopen
        simp only
        rcases namedClass?_cases hrest with ⟨s, negated, left, left', hs, hs', hleft⟩ | ⟨hs, hs'⟩
        · simp only [hs, hs']
          cases hneg : negateIf fs negated (foldCase fs s) with
          | error e => trivial
          | ok s => exact hnext _ _ hleft (suffix_namedClass? hs')
        · simp only [hs, hs']
          refine (parallel_openBracket hrest hlength).bind_of_ok ?_ ?_
          · rintro ⟨negated, first, left⟩ ⟨_, _, left'⟩ - hok ⟨rfl, rfl, hleft⟩
            exact hnext _ _ hleft (suffix_openBracket hok)
          · rintro ⟨negated, first, left⟩ hunclosed r hok
            exact hunclosed.scanItems_ne_ok hok
      by_cases hclose : c = ']'
      · subst hclose
        simp only
        generalize joinPending fs (sealUnion items) frames = joined
        obtain ⟨content, _ | ⟨_ | _, outer⟩⟩ := joined
        · trivial
        · rename_i before negated
          simp only
          cases hneg : negateIf fs negated (foldCase fs content.set) with
          | error e => trivial
          | ok s =>
            show Parallel _ _ (ite _ _ _) (ite _ _ _)
            split_ifs
            · exact ⟨rfl, hrest⟩
            · exact hnext _ _ hrest (List.suffix_refl _)
        · trivial
      · rcases classOp?_cases hskip with ⟨op, left, left', hop, hop', hleft⟩ | ⟨hop, hop'⟩
        · have := hnext (.pending op (joinPending fs (sealUnion items) frames).1 ::
            (joinPending fs (sealUnion items) frames).2) [] hleft (suffix_classOp? hop')
          grind
        · have : Parallel Beside (fun _ => False)
              (scanClassRange fs (c :: rest) >>= fun p =>
                scanItems fs n frames (p.1 :: items) p.2)
              (scanClassRange fs (c :: rest') >>= fun p =>
                scanItems fs n frames (p.1 :: items) p.2) := by
            refine (parallel_scanClassRange hskip).bind_of_ok ?_ ?_
            · rintro ⟨part, left⟩ ⟨_, left'⟩ - hok ⟨rfl, hleft⟩
              exact hnext _ _ hleft (suffix_scanClassRange hok)
            · exact fun b hunclosed r => hunclosed.scanItems_ne_ok
          grind

theorem parallel_scanBracket {n : Nat} (h : Continued cs more) (hn : more.length ≤ n) :
    Parallel Beside (fun _ => False) (scanBracket fs n cs) (scanBracket fs n more) := by
  rw [scanBracket, scanBracket]
  refine (parallel_openBracket h hn).bind_of_ok ?_ ?_
  · rintro ⟨negated, items, left⟩ ⟨_, _, left'⟩ - hok ⟨rfl, rfl, hleft⟩
    exact parallel_scanItems hleft ((suffix_openBracket hok).length_le.trans hn)
  · exact fun b hunclosed r => hunclosed.scanItems_ne_ok

end CallAtlas.Regex
