/-
# `CallAtlas.Proofs.Regex.Leftover` — what reading leaves of a pattern

Every function of the reading takes the rest of a pattern and gives back what it
leaves of it.  What it leaves is always the end of what it was given: nothing
is put back, and nothing is invented.  So the reading of an item makes the rest
shorter, and characters that do not stand in the rest will not be met.

There is one lemma for each function, in the order in which the functions use
each other.  All but the recursive ones follow from those before them along the
branches of the function; each is tagged for `grind`, which walks those branches and
finds the lemmas of the functions called there.

The functions that go on until the text ends are given fuel.  As each of their
rounds makes the rest shorter, the length of the text is enough of it, and more
makes no difference (`scanAll_fuel`).
-/
import CallAtlas.Proofs.Outcome
import CallAtlas.Regex.Parser
import Mathlib.Data.List.Infix
import Mathlib.Tactic.SplitIfs

namespace CallAtlas.Regex

open Outcome (bind_eq_ok bind_congr_of_ok)

attribute [local grind =] bind_eq_ok
attribute [local grind →] List.IsSuffix.trans

theorem suffix_of_cons {α : Type} {c : α} {left cs : List α} (h : c :: left <:+ cs) :
    left <:+ cs :=
  (List.suffix_cons c left).trans h

attribute [local grind →] suffix_of_cons

variable {fs : Flags} {cs left : List Char}

/-! ## Small parts -/

theorem suffix_skipBlanks (inComment : Bool) (cs : List Char) : skipBlanks inComment cs <:+ cs := by
  induction cs generalizing inComment with
  | nil => exact List.suffix_refl _
  | cons c rest ih =>
    rw [skipBlanks]
    split_ifs
    · exact (ih _).trans (List.suffix_cons c rest)
    · exact (ih _).trans (List.suffix_cons c rest)
    · exact (ih _).trans (List.suffix_cons c rest)
    · exact List.suffix_refl _

@[grind! .]
theorem suffix_skip (fs : Flags) (cs : List Char) : skip fs cs <:+ cs := by
  rw [skip]
  split
  · exact suffix_skipBlanks false cs
  · exact List.suffix_refl cs

theorem suffix_takeSpacedFrom (fs : Flags) (kind : Char → Bool) (spaced inComment : Bool)
    (cs : List Char) : (takeSpacedFrom fs kind spaced inComment cs).2 <:+ cs := by
  induction cs generalizing spaced inComment with
  | nil => exact List.suffix_refl _
  | cons c rest ih =>
    rw [takeSpacedFrom]
    split_ifs
    · exact (ih _ _).trans (List.suffix_cons c rest)
    · exact (ih _ _).trans (List.suffix_cons c rest)
    · exact (ih _ _).trans (List.suffix_cons c rest)
    · exact (ih _ _).trans (List.suffix_cons c rest)
    · exact List.suffix_refl _

@[grind! .]
theorem suffix_takeSpaced (fs : Flags) (kind : Char → Bool) (cs : List Char) :
    (takeSpaced fs kind cs).2 <:+ cs :=
  suffix_takeSpacedFrom fs kind false false cs

@[grind! .]
theorem suffix_takeCount (fs : Flags) (cs : List Char) : (takeCount fs cs).2 <:+ cs := by
  rw [takeCount]
  grind [List.dropWhile_suffix]

@[grind →]
theorem suffix_takeHexDigits {n : Nat} {digits : List Char}
    (h : takeHexDigits fs n cs = .ok (digits, left)) : left <:+ cs := by
  induction n generalizing cs digits with
  | zero =>
    cases h
    exact List.suffix_refl _
  | succ n ih =>
    cases cs with
    | nil => cases h
    | cons c rest =>
      rw [takeHexDigits] at h
      grind

/-! ## Escapes -/

section Escapes

variable {item : Primitive}

@[grind →]
theorem suffix_scanCode {letter : Char} (h : scanCode fs letter cs = .ok (item, left)) :
    left <:+ cs := by
  unfold scanCode at h
  split at h <;> grind

@[grind →]
theorem suffix_scanProperty {negated : Bool} (h : scanProperty fs negated cs = .ok (item, left)) :
    left <:+ cs := by
  unfold scanProperty at h
  split at h <;> grind

@[grind →]
theorem suffix_scanWordLook (h : scanWordLook fs cs = .ok (item, left)) : left <:+ cs := by
  unfold scanWordLook at h
  grind

@[grind →]
theorem suffix_scanEscape (h : scanEscape fs cs = .ok (item, left)) : left <:+ cs := by
  unfold scanEscape at h
  split at h <;> grind

theorem suffix_scanClassItem_cons {c : Char} (h : scanClassItem fs (c :: cs) = .ok (item, left)) :
    left <:+ cs := by
  unfold scanClassItem at h
  grind

@[grind →]
theorem suffix_scanClassItem (h : scanClassItem fs cs = .ok (item, left)) : left <:+ cs := by
  cases cs with
  | nil => cases h
  | cons c cs => exact (suffix_scanClassItem_cons h).trans (List.suffix_cons c cs)

end Escapes

/-! ## Brackets -/

section Brackets

variable {part : ClassPart} {items found : List ClassPart} {negated : Bool} {n : Nat}

theorem suffix_scanClassRange {c : Char} (h : scanClassRange fs (c :: cs) = .ok (part, left)) :
    left <:+ cs := by
  rw [scanClassRange] at h
  obtain ⟨⟨first, rest⟩, hfirst, h⟩ := bind_eq_ok.1 h
  have hrest := suffix_scanClassItem_cons hfirst
  grind

theorem suffix_classOp? {op : ClassOp} {c : Char} (h : classOp? (c :: cs) = some (op, left)) :
    left <:+ cs := by
  unfold classOp? at h
  grind

/-- Whether a sign of negation comes first, and the rest. -/
def takeCaret : List Char → Bool × List Char
  | '^' :: rest => (true, rest)
  | cs => (false, cs)

theorem suffix_takeCaret (cs : List Char) : (takeCaret cs).2 <:+ cs := by
  unfold takeCaret
  grind

theorem namedClass?_colon (rest : List Char) :
    namedClass? (':' :: rest) =
      match (takeCaret rest).2.dropWhile (· ≠ ':') with
      | ':' :: ']' :: left =>
          (namedClasses.lookup
            (String.ofList ((takeCaret rest).2.takeWhile (· ≠ ':')))).map fun s =>
              (s, (takeCaret rest).1, left)
      | _ => none := by
  have hcaret : takeCaret rest = match rest with
      | '^' :: more => (true, more)
      | _ => (false, rest) := by
    unfold takeCaret
    split <;> simp_all
  rw [hcaret]
  rfl

@[grind →]
theorem suffix_namedClass? {s : CharSet} (h : namedClass? cs = some (s, negated, left)) :
    left <:+ cs := by
  cases cs with
  | nil => cases h
  | cons c rest =>
    by_cases hc : c = ':'
    · subst hc
      rw [namedClass?_colon] at h
      split at h
      · rename_i left' hdrop
        obtain ⟨s', -, hok⟩ := Option.map_eq_some_iff.1 h
        cases hok
        have hname := List.dropWhile_suffix (l := (takeCaret rest).2) (· ≠ ':')
        rw [hdrop] at hname
        exact (suffix_of_cons (suffix_of_cons hname)).trans
          ((suffix_takeCaret rest).trans (List.suffix_cons ':' rest))
      · cases h
    · simp [namedClass?, hc] at h

@[grind →]
theorem suffix_leadingHyphens (h : leadingHyphens fs items n cs = .ok (found, left)) :
    left <:+ cs := by
  induction n generalizing cs items with
  | zero =>
    cases h
    exact List.suffix_refl _
  | succ n ih =>
    unfold leadingHyphens at h
    grind

@[grind →]
theorem suffix_openBracket (h : openBracket fs n cs = .ok (negated, items, left)) :
    left <:+ cs := by
  rw [openBracket] at h
  grind

@[grind →]
theorem suffix_scanItems {frames : List ClassFrame}
    (h : scanItems fs n frames items cs = .ok (part, left)) : left <:+ cs := by
  induction n generalizing cs items frames with
  | zero => cases h
  | succ n ih =>
    have hskip := suffix_skip fs cs
    rw [scanItems] at h
    cases hr : skip fs cs with
    | nil =>
      rw [hr] at h
      cases h
    | cons c rest =>
      rw [hr] at h hskip
      grind [→ suffix_scanClassRange, → suffix_classOp?]

@[grind →]
theorem suffix_scanBracket (h : scanBracket fs n cs = .ok (part, left)) : left <:+ cs := by
  rw [scanBracket] at h
  grind

end Brackets

/-! ## Items -/

section Items

variable {st next : State} {least : Nat} {most : Option Nat}

@[grind →]
theorem suffix_scanCount (h : scanCount fs cs = .ok (least, most, left)) : left <:+ cs := by
  rw [scanCount] at h
  grind

@[grind! .]
theorem suffix_takeLazy (cs : List Char) : (takeLazy cs).2 <:+ cs := by
  unfold takeLazy
  grind

@[grind →]
theorem suffix_scanRepeat (h : scanRepeat st least most cs = .ok (next, left)) : left <:+ cs := by
  rw [scanRepeat] at h
  grind

@[grind →]
theorem suffix_flagItems {clearing dangling closed : Bool} {seen items : List (Flag × Bool)}
    (h : flagItems clearing dangling seen cs = .ok (items, closed, left)) : left <:+ cs := by
  induction cs generalizing clearing dangling seen with
  | nil => cases h
  | cons c rest ih =>
    rw [flagItems] at h
    grind

@[grind →]
theorem suffix_groupName {name : List Char} (h : groupName cs = .ok (name, left)) :
    left <:+ cs := by
  rw [groupName] at h
  grind [List.dropWhile_suffix]

@[grind →]
theorem suffix_scanNamed (h : scanNamed st cs = .ok (next, left)) : left <:+ cs := by
  rw [scanNamed] at h
  grind

@[grind →]
theorem suffix_scanGroup (h : scanGroup st cs = .ok (next, left)) : left <:+ cs := by
  rw [scanGroup] at h
  grind

theorem suffix_scanItem {n : Nat} {c : Char} (h : scanItem n st c cs = .ok (next, left)) :
    left <:+ cs := by
  unfold scanItem at h
  split at h <;> grind

end Items

/-! ## Fuel -/

section Fuel

variable {n m : Nat}

theorem length_skip_le (fs : Flags) (cs : List Char) : (skip fs cs).length ≤ cs.length :=
  (suffix_skip fs cs).length_le

theorem leadingHyphens_of_ne {n : Nat} {items : List ClassPart}
    (h : ∀ rest, cs = '-' :: rest → False) : leadingHyphens fs items n cs = .ok (items, cs) := by
  rw [leadingHyphens]
  exact fun _ rest _ hcs => h rest hcs

/-- The first items of a bracket, after its sign of negation. -/
def firstItems (fs : Flags) (fuel : Nat) (negated : Bool) (cs : List Char) :
    Except SyntaxError (Bool × List ClassPart × List Char) :=
  if cs = [] then .error .bracketUnclosed
  else do
    let (items, rest) ← leadingHyphens fs [] fuel cs
    match items, rest with
    | [], ']' :: more =>
        match skip fs more with
        | [] => .error .bracketUnclosed
        | left => .ok (negated, [⟨.singleton ']', 0⟩], left)
    | _, _ => .ok (negated, items, rest)

theorem openBracket_eq (fs : Flags) (n : Nat) (cs : List Char) :
    openBracket fs n cs =
      match skip fs cs with
      | '^' :: more => firstItems fs n true (skip fs more)
      | more => firstItems fs n false more := by
  rw [openBracket]
  split
  grind [firstItems]

theorem scanItems_of_nil {n : Nat} {frames : List ClassFrame} {items : List ClassPart}
    (h : skip fs cs = []) : scanItems fs n frames items cs = .error .bracketUnclosed := by
  cases n with
  | zero => rfl
  | succ n => rw [scanItems, h]

theorem leadingHyphens_fuel {items : List ClassPart} (hn : cs.length ≤ n) (hm : cs.length ≤ m) :
    leadingHyphens fs items n cs = leadingHyphens fs items m cs := by
  induction n generalizing items cs m with
  | zero =>
    obtain rfl := List.length_eq_zero_iff.1 (Nat.le_zero.1 hn)
    rw [leadingHyphens_of_ne (by simp), leadingHyphens_of_ne (by simp)]
  | succ n ih =>
    by_cases hcs : ∃ rest, cs = '-' :: rest
    · obtain ⟨rest, rfl⟩ := hcs
      cases m with
      | zero => exact absurd hm (Nat.not_succ_le_zero _)
      | succ m =>
        have hskip := length_skip_le fs rest
        simp only [leadingHyphens]
        cases hr : skip fs rest with
        | nil => rfl
        | cons c r =>
          rw [hr] at hskip
          exact ih (hskip.trans (Nat.le_of_succ_le_succ hn))
            (hskip.trans (Nat.le_of_succ_le_succ hm))
    · have hne : ∀ rest, cs = '-' :: rest → False := fun rest h => hcs ⟨rest, h⟩
      rw [leadingHyphens_of_ne hne, leadingHyphens_of_ne hne]

theorem openBracket_fuel (hn : cs.length ≤ n) (hm : cs.length ≤ m) :
    openBracket fs n cs = openBracket fs m cs := by
  have hfirst : ∀ negated {rest : List Char}, rest <:+ cs →
      firstItems fs n negated rest = firstItems fs m negated rest := by
    intro negated rest hs
    rw [firstItems, firstItems,
      leadingHyphens_fuel (hs.length_le.trans hn) (hs.length_le.trans hm)]
  have hskip := suffix_skip fs cs
  rw [openBracket_eq, openBracket_eq]
  split
  · rename_i more hr
    rw [hr] at hskip
    exact hfirst true ((suffix_skip fs more).trans (suffix_of_cons hskip))
  · exact hfirst false hskip

theorem scanItems_fuel {frames : List ClassFrame} {items : List ClassPart} (hn : cs.length ≤ n)
    (hm : cs.length ≤ m) : scanItems fs n frames items cs = scanItems fs m frames items cs := by
  induction n generalizing cs m frames items with
  | zero =>
    obtain rfl := List.length_eq_zero_iff.1 (Nat.le_zero.1 hn)
    have hskip : skip fs [] = [] := List.suffix_nil.1 (suffix_skip fs [])
    rw [scanItems_of_nil hskip, scanItems_of_nil hskip]
  | succ n ih =>
    cases hr : skip fs cs with
    | nil => rw [scanItems_of_nil hr, scanItems_of_nil hr]
    | cons c rest =>
      have hlength := length_skip_le fs cs
      rw [hr, List.length_cons] at hlength
      cases m with
      | zero => omega
      | succ m =>
        have hnext : ∀ frames items {left : List Char}, left <:+ rest →
            scanItems fs n frames items left = scanItems fs m frames items left :=
          fun frames items left hs =>
            have := hs.length_le
            ih (by omega) (by omega)
        rw [scanItems, scanItems, hr]
        split
        · rfl
        · rename_i rest' heq
          cases heq
          split
          · rename_i hnamed
            exact bind_congr_of_ok fun s _ => hnext _ _ (suffix_namedClass? hnamed)
          · rw [openBracket_fuel (n := n) (m := m) (by omega) (by omega)]
            exact bind_congr_of_ok fun ⟨negated, first, left⟩ hopen =>
              hnext _ _ (suffix_openBracket hopen)
        · rename_i rest' heq
          cases heq
          split
          · refine bind_congr_of_ok fun s _ => ?_
            split_ifs
            · rfl
            · exact hnext _ _ (List.suffix_refl _)
          · rfl
        · rename_i hopen hclose
          split
          · rename_i hop
            exact hnext _ _ (suffix_classOp? hop)
          · exact bind_congr_of_ok fun ⟨part, left⟩ hrange =>
              hnext _ _ (suffix_scanClassRange hrange)

theorem scanBracket_fuel (fs : Flags) (hn : cs.length ≤ n) (hm : cs.length ≤ m) :
    scanBracket fs n cs = scanBracket fs m cs := by
  rw [scanBracket, scanBracket, openBracket_fuel hn hm]
  refine bind_congr_of_ok fun ⟨negated, items, rest⟩ hopen => ?_
  have := (suffix_openBracket hopen).length_le
  exact scanItems_fuel (by omega) (by omega)

theorem scanItem_fuel {st : State} {c : Char} (hn : cs.length ≤ n) (hm : cs.length ≤ m) :
    scanItem n st c cs = scanItem m st c cs := by
  simp only [scanItem, scanBracket_fuel st.flags hn hm]

/-- More fuel than characters makes no difference. -/
theorem scanAll_fuel {st : State} (hn : cs.length < n) (hm : cs.length < m) :
    scanAll n st cs = scanAll m st cs := by
  induction n generalizing cs m st with
  | zero => exact absurd hn (Nat.not_lt_zero _)
  | succ n ih =>
    cases m with
    | zero => exact absurd hm (Nat.not_lt_zero _)
    | succ m =>
      have hlength := length_skip_le st.flags cs
      rw [scanAll, scanAll]
      split
      · rfl
      · rename_i c rest hr
        rw [hr, List.length_cons] at hlength
        rw [scanItem_fuel (n := n) (m := m) (by omega) (by omega)]
        refine bind_congr_of_ok fun ⟨next, left⟩ hitem => ?_
        have := (suffix_scanItem hitem).length_le
        exact ih (by omega) (by omega)

end Fuel

end CallAtlas.Regex
