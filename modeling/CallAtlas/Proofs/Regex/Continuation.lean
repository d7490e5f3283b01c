/-
# `CallAtlas.Proofs.Regex.Continuation` — a pattern with the closing of its anchors

A name pattern is compiled with `)$` behind it.  Here the reading of a pattern is
followed beside the reading of the same pattern with this closing: each function
of the reading gets the rest of the pattern in the one and the continued rest in
the other, and the two results are compared.

They nearly always agree: either they hold the same value and rests that belong
together again (`Beside`), or both are errors.  Two things can go another way.  A
comment that is open at the end of the pattern runs on through the closing, so that
nothing is left in either (`Continued.swallowed`).  And where the pattern ends in
the middle of an item, which is an error, the closing may be taken for the rest of
that item: a backslash at the end becomes an escaped parenthesis.  Then nothing but
the `$` is left (`Spent`), or the brace of a condition on words that got no name
(`BraceLeft`).  That nothing else happens is what `Parallel` says.

This module holds the small parts and the escapes.
-/
import CallAtlas.Proofs.Regex.Leftover

namespace CallAtlas.Regex

open Outcome (bind_eq_ok)

attribute [local grind =] bind_eq_ok
attribute [local grind →] List.IsSuffix.trans suffix_of_cons

/-- What stands behind a pattern between anchors. -/
def closing : List Char := [')', '$']

/-- The rest of a pattern, and the rest of the pattern with the closing: the closing stands
behind it too, unless an open comment has taken it. -/
inductive Continued : List Char → List Char → Prop
  | follows (rest : List Char) : Continued rest (rest ++ closing)
  | swallowed : Continued [] []

/-- The same value, and rests that belong together. -/
def Beside {α : Type} (a b : α × List Char) : Prop := a.1 = b.1 ∧ Continued a.2 b.2

theorem Beside.out {α : Type} {p p' : α × List Char} (h : Beside p p') :
    ∃ a left left', p = (a, left) ∧ p' = (a, left') ∧ Continued left left' := by
  obtain ⟨a, left⟩ := p
  obtain ⟨_, left'⟩ := p'
  obtain ⟨rfl, hleft⟩ := h
  exact ⟨a, left, left', rfl, rfl, hleft⟩

/-! ## Two readings -/

/-- The reading of a pattern and that of the pattern with the closing: both succeed alike, or
both fail, or the pattern fails alone and the other has run into the closing. -/
def Parallel {γ : Type} (R : γ → γ → Prop) (Over : γ → Prop) :
    Except SyntaxError γ → Except SyntaxError γ → Prop
  | .ok a, .ok b => R a b
  | .ok _, .error _ => False
  | .error _, .ok b => Over b
  | .error _, .error _ => True

section Parallel

variable {γ δ : Type} {R : γ → γ → Prop} {Over : γ → Prop} {R' : δ → δ → Prop} {Over' : δ → Prop}

theorem Parallel.bind_of_ok {x y : Except SyntaxError γ} {f g : γ → Except SyntaxError δ}
    (h : Parallel R Over x y)
    (hboth : ∀ a b, x = .ok a → y = .ok b → R a b → Parallel R' Over' (f a) (g b))
    (hover : ∀ b, Over b → ∀ c, g b = .ok c → Over' c) :
    Parallel R' Over' (x >>= f) (y >>= g) := by
  match x, y, h with
  | .ok a, .ok b, h => exact hboth a b rfl rfl h
  | .error e, .ok b, h =>
    show Parallel R' Over' (.error e) (g b)
    cases hg : g b with
    | error e' => trivial
    | ok c => exact hover b h c hg
  | .error e, .error e', h => trivial

theorem Parallel.bind {x y : Except SyntaxError γ} {f g : γ → Except SyntaxError δ}
    (h : Parallel R Over x y) (hboth : ∀ a b, R a b → Parallel R' Over' (f a) (g b))
    (hover : ∀ b, Over b → ∀ c, g b = .ok c → Over' c) :
    Parallel R' Over' (x >>= f) (y >>= g) :=
  h.bind_of_ok (fun a b _ _ => hboth a b) hover

theorem Parallel.mono {x y : Except SyntaxError γ} {Over' : γ → Prop} (h : Parallel R Over x y)
    (hover : ∀ b, Over b → Over' b) : Parallel R Over' x y := by
  match x, y, h with
  | .ok a, .ok b, h => exact h
  | .error e, .ok b, h => exact hover b h
  | .error e, .error e', h => trivial

theorem Parallel.failed {e : SyntaxError} {y : Except SyntaxError γ}
    (h : ∀ b, y = .ok b → Over b) : Parallel R Over (.error e) y := by
  cases y with
  | error e' => trivial
  | ok b => exact h b rfl

/-- What does not depend on the rest is the same in both. -/
theorem Parallel.same {α β : Type} {Over : β × List Char → Prop} (x : Except SyntaxError α)
    {f : α → β} {left left' : List Char} (h : Continued left left') :
    Parallel Beside Over (x >>= fun a => .ok (f a, left)) (x >>= fun a => .ok (f a, left')) := by
  cases x with
  | error e => trivial
  | ok a => exact ⟨rfl, h⟩

theorem Parallel.alike {α : Type} (x : Except SyntaxError α) {left left' : List Char}
    (h : Continued left left') :
    Parallel Beside (fun _ => False) (x >>= fun a => .ok (a, left))
      (x >>= fun a => .ok (a, left')) :=
  .same x h

end Parallel

variable {fs : Flags} {cs more : List Char}

theorem Continued.length_le (h : Continued cs more) : cs.length ≤ more.length := by
  cases h with
  | follows => exact (List.prefix_append cs closing).length_le
  | swallowed => exact Nat.le_refl _

theorem Continued.eq_nil (h : Continued cs []) : cs = [] :=
  List.length_eq_zero_iff.1 (Nat.le_zero.1 h.length_le)

/-! ## The first character -/

theorem Continued.cons {c : Char} {rest : List Char} (h : Continued (c :: rest) more) :
    ∃ rest', more = c :: rest' ∧ Continued rest rest' := by
  cases h
  exact ⟨rest ++ closing, rfl, .follows rest⟩

/-- Unless it is the closing parenthesis, a character comes first in both rests or in neither. -/
theorem Continued.head_cases {c : Char} (hc : c ≠ ')') (h : Continued cs more) :
    (∃ rest rest', cs = c :: rest ∧ more = c :: rest' ∧ Continued rest rest') ∨
      ((∀ rest, cs = c :: rest → False) ∧ ∀ rest, more = c :: rest → False) := by
  cases h with
  | swallowed => exact .inr ⟨nofun, nofun⟩
  | follows =>
    cases cs with
    | nil =>
      refine .inr ⟨nofun, fun rest hrest => hc ?_⟩
      cases hrest
      rfl
    | cons d rest =>
      by_cases hd : d = c
      · subst hd
        exact .inl ⟨rest, rest ++ closing, rfl, rfl, .follows rest⟩
      · exact .inr ⟨fun _ heq => hd (List.cons.inj heq).1, fun _ heq => hd (List.cons.inj heq).1⟩

theorem head?_eq_some_iff {c : Char} (hc : c ≠ ')') (h : Continued cs more) :
    cs.head? = some c ↔ more.head? = some c := by
  rcases h.head_cases hc with ⟨rest, rest', rfl, rfl, -⟩ | ⟨hcs, hmore⟩
  · exact Iff.rfl
  · rw [List.head?_eq_some_iff, List.head?_eq_some_iff]
    exact iff_of_false (fun ⟨_, h⟩ => hcs _ h) (fun ⟨_, h⟩ => hmore _ h)

/-! ## Small parts -/

theorem isBlank_paren : isBlank ')' = false := by decide +kernel

theorem continued_skip (fs : Flags) (h : Continued cs more) :
    Continued (skip fs cs) (skip fs more) := by
  cases h with
  | swallowed =>
    simp only [skip, skipBlanks, ite_self]
    exact .swallowed
  | follows =>
    -- in a comment the closing is skipped with all the rest, elsewhere it stops the skipping
    have hblanks : ∀ inComment,
        Continued (skipBlanks inComment cs) (skipBlanks inComment (cs ++ closing)) := by
      induction cs with
      | nil =>
        rintro (_ | _)
        · exact .follows []
        · exact .swallowed
      | cons c rest ih =>
        intro inComment
        simp only [List.cons_append, skipBlanks]
        split_ifs
        · exact ih _
        · exact ih _
        · exact ih _
        · exact .follows (c :: rest)
    simp only [skip]
    split
    · exact hblanks false
    · exact .follows cs

theorem skip_closing (fs : Flags) : skip fs closing = closing := by
  rw [skip, closing, skipBlanks, isBlank_paren]
  simp

theorem continued_dropWhile {kind : Char → Bool} (hkind : kind ')' = false)
    (h : Continued cs more) : Continued (cs.dropWhile kind) (more.dropWhile kind) := by
  cases h with
  | swallowed => exact .swallowed
  | follows =>
    induction cs with
    | nil =>
      rw [List.nil_append, closing, List.dropWhile_cons_of_neg (by simp [hkind])]
      exact .follows []
    | cons c rest ih =>
      simp only [List.cons_append, List.dropWhile]
      split
      · exact ih
      · exact .follows (c :: rest)

/-- A text is cut at the same character, or it stands in neither. -/
theorem cut_cases {c : Char} (hparen : c ≠ ')') (hdollar : c ≠ '$') (h : Continued cs more) :
    (∃ left left', cs.dropWhile (· ≠ c) = c :: left ∧ more.dropWhile (· ≠ c) = c :: left' ∧
        more.takeWhile (· ≠ c) = cs.takeWhile (· ≠ c) ∧ Continued left left') ∨
      (cs.dropWhile (· ≠ c) = [] ∧ more.dropWhile (· ≠ c) = []) := by
  cases h with
  | swallowed => exact .inr ⟨rfl, rfl⟩
  | follows =>
    induction cs with
    | nil =>
      right
      simp [closing, hparen.symm, hdollar.symm]
    | cons d rest ih =>
      by_cases hd : d = c
      · left
        refine ⟨rest, rest ++ closing, ?_, ?_, ?_, .follows rest⟩ <;> simp [hd]
      · simpa [hd] using ih

theorem beside_takeSpaced (fs : Flags) {kind : Char → Bool} (hkind : kind ')' = false)
    (h : Continued cs more) : Beside (takeSpaced fs kind cs) (takeSpaced fs kind more) := by
  cases h with
  | swallowed => exact ⟨rfl, .swallowed⟩
  | follows =>
    suffices hfrom : ∀ spaced inComment, Beside (takeSpacedFrom fs kind spaced inComment cs)
        (takeSpacedFrom fs kind spaced inComment (cs ++ closing)) from hfrom false false
    induction cs with
    | nil =>
      rintro spaced (_ | _)
      · have hstop : takeSpacedFrom fs kind spaced false closing = ([], closing) := by
          simp [takeSpacedFrom, closing, isBlank_paren, hkind]
        rw [List.nil_append, hstop]
        exact ⟨rfl, .follows []⟩
      · exact ⟨rfl, .swallowed⟩
    | cons c rest ih =>
      intro spaced inComment
      simp only [List.cons_append, takeSpacedFrom]
      split_ifs
      · exact ih _ _
      · exact ih _ _
      · exact ih _ _
      · obtain ⟨htaken, hleft⟩ := ih (fs.has .verbose) false
        exact ⟨congrArg (c :: ·) htaken, hleft⟩
      · exact ⟨rfl, .follows (c :: rest)⟩

/-- The query of a property ends at the same brace, or it has no end in either. -/
theorem takeSpaced_query (fs : Flags) (h : Continued cs more) :
    (∃ query left left', takeSpaced fs (· ≠ '\x7d') cs = (query, '\x7d' :: left) ∧
        takeSpaced fs (· ≠ '\x7d') more = (query, '\x7d' :: left') ∧ Continued left left') ∨
      ((takeSpaced fs (· ≠ '\x7d') cs).2 = [] ∧ (takeSpaced fs (· ≠ '\x7d') more).2 = []) := by
  cases h with
  | swallowed => exact .inr ⟨rfl, rfl⟩
  | follows =>
    simp only [takeSpaced]
    generalize hkind : (fun c : Char => decide (c ≠ '\x7d')) = kind
    have hparen : kind ')' = true := by rw [← hkind]; rfl
    have hdollar : kind '$' = true := by rw [← hkind]; rfl
    suffices hfrom : ∀ spaced inComment,
        (∃ query left left',
          takeSpacedFrom fs kind spaced inComment cs = (query, '\x7d' :: left) ∧
          takeSpacedFrom fs kind spaced inComment (cs ++ closing) = (query, '\x7d' :: left') ∧
          Continued left left') ∨
        ((takeSpacedFrom fs kind spaced inComment cs).2 = [] ∧
          (takeSpacedFrom fs kind spaced inComment (cs ++ closing)).2 = []) from
      hfrom false false
    induction cs with
    | nil =>
      have hblank : isBlank '$' = false := by decide +kernel
      rintro spaced (_ | _) <;> right <;>
        simp [takeSpacedFrom, closing, isBlank_paren, hblank, hparen, hdollar]
    | cons c rest ih =>
      intro spaced inComment
      simp only [List.cons_append, takeSpacedFrom]
      split_ifs with _ _ _ hc
      · exact ih _ _
      · exact ih _ _
      · exact ih _ _
      · rcases ih (fs.has .verbose) false with ⟨query, left, left', hq, hq', h⟩ | hnone
        · exact .inl ⟨c :: query, left, left', by rw [hq], by rw [hq'], h⟩
        · exact .inr hnone
      · obtain rfl : c = '\x7d' := by simpa [← hkind] using hc
        exact .inl ⟨[], rest, rest ++ closing, rfl, rfl, .follows rest⟩

theorem beside_takeCount (fs : Flags) (h : Continued cs more) :
    Beside (takeCount fs cs) (takeCount fs more) := by
  have hblanks := continued_dropWhile isBlank_paren h
  have hdecimal : isDecimal ')' = false := by decide
  obtain ⟨hdigits, hrest⟩ := beside_takeSpaced fs hdecimal hblanks
  refine ⟨?_, continued_skip fs (continued_dropWhile isBlank_paren hrest)⟩
  simp only [takeCount, hdigits]

theorem parallel_takeHexDigits {n : Nat} (h : Continued cs more) :
    Parallel Beside (fun _ => False) (takeHexDigits fs n cs) (takeHexDigits fs n more) := by
  induction n generalizing cs more with
  | zero => exact ⟨rfl, h⟩
  | succ n ih =>
    cases h with
    | swallowed => trivial
    | follows =>
      cases cs with
      | nil => trivial
      | cons c rest =>
        simp only [List.cons_append, takeHexDigits]
        split_ifs
        · refine (ih (continued_skip fs (.follows rest))).bind ?_ fun _ => False.elim
          rintro ⟨digits, left⟩ ⟨_, left'⟩ ⟨rfl, hleft⟩
          exact ⟨rfl, hleft⟩
        · trivial

/-! ## Escapes -/

theorem parallel_scanCode {letter : Char} (h : Continued cs more) :
    Parallel Beside (fun _ => False) (scanCode fs letter cs) (scanCode fs letter more) := by
  have hskip := continued_skip fs h
  unfold scanCode
  generalize skip fs cs = cs at hskip ⊢
  generalize skip fs more = more at hskip ⊢
  cases hskip with
  | swallowed => trivial
  | follows =>
    cases cs with
    | nil =>
      dsimp only
      split_ifs <;> exact True.intro
    | cons c rest =>
      by_cases hc : c = '\x7b'
      · subst hc
        have hhex : isHex ')' = false := by decide
        obtain ⟨digits, left, left', hdigits, hdigits', hleft⟩ :=
          (beside_takeSpaced fs hhex (continued_skip fs (.follows rest))).out
        rcases hleft.head_cases (c := '\x7d') (by decide) with ⟨q, q', rfl, rfl, hq⟩ | ⟨hl, hl'⟩
        · have := Parallel.alike
            (literalOfHex digits false) (continued_skip fs hq)
          grind [Parallel]
        · grind [Parallel]
      · simp only [List.cons_append, List.cons.injEq, hc, false_and, imp_self, implies_true]
        refine (parallel_takeHexDigits (.follows (c :: rest))).bind ?_ fun _ => False.elim
        rintro ⟨digits, left⟩ ⟨_, left'⟩ ⟨rfl, hleft⟩
        exact .same _ hleft

theorem parallel_scanProperty {negated : Bool} (h : Continued cs more) :
    Parallel Beside (fun _ => False) (scanProperty fs negated cs)
      (scanProperty fs negated more) := by
  have hskip := continued_skip fs h
  unfold scanProperty
  generalize skip fs cs = cs at hskip ⊢
  generalize skip fs more = more at hskip ⊢
  cases hskip with
  | swallowed => trivial
  | follows =>
    cases cs with
    | nil =>
      -- no property has the name `)`
      have hnone : namedProperty? (String.singleton ')') = none := by decide +kernel
      change Parallel _ _ (.error .escape) (if ')' = '\\' then .error .unknownProperty else
        if fs.has .unicode then do
          .ok (← classOf fs negated (namedProperty? (String.singleton ')')), skip fs ['$'])
        else .error .notOfBytes)
      rw [hnone]
      split_ifs <;> exact True.intro
    | cons c rest =>
      by_cases hc : c = '\x7b'
      · subst hc
        rcases takeSpaced_query fs (continued_skip fs (.follows rest)) with
          ⟨query, left, left', hq, hq', hleft⟩ | hnone
        · have := Parallel.alike
            (queryClass fs negated query) hleft
          grind [Parallel]
        · grind [Parallel]
      · have := Parallel.alike
          (classOf fs negated (namedProperty? (String.singleton c)))
          (continued_skip fs (.follows rest))
        grind [Parallel]

/-- A condition on words has been read without a name, and its brace is left with the closing
behind it, where only a count could stand. -/
def BraceLeft (fs : Flags) (b : Primitive × List Char) : Prop :=
  (∃ l, b.1 = .look l) ∧ ∃ rest, b.2 = '\x7b' :: rest ∧ skip fs rest = closing

theorem parallel_scanWordLook (h : Continued cs more) :
    Parallel Beside (BraceLeft fs) (scanWordLook fs cs) (scanWordLook fs more) := by
  have hplain : Parallel Beside (BraceLeft fs)
      (.ok (.look (.word .boundary (fs.has .unicode)), cs))
      (.ok (.look (.word .boundary (fs.has .unicode)), more)) := ⟨rfl, h⟩
  unfold scanWordLook
  rcases h.head_cases (c := '\x7b') (by decide) with ⟨rest, rest', rfl, rfl, hrest⟩ | ⟨hcs, hmore⟩
  · have hskip := continued_skip fs hrest
    generalize hr : skip fs rest = r at hskip
    generalize hr' : skip fs rest' = r' at hskip
    simp only [hr, hr']
    cases hskip with
    | swallowed => trivial
    | follows =>
      cases r with
      | nil => exact ⟨⟨_, rfl⟩, rest', rfl, hr'⟩
      | cons c tail =>
        dsimp only [List.cons_append]
        split_ifs
        · have hword : isWordLookChar ')' = false := by decide
          obtain ⟨name, left, left', hname, hname', hleft⟩ :=
            (beside_takeSpaced fs hword (.follows (c :: tail))).out
          rcases hleft.head_cases (c := '\x7d') (by decide) with ⟨q, q', rfl, rfl, hq⟩ | ⟨hl, hl'⟩
          · have hnamed : ∀ l, Parallel Beside (BraceLeft fs) (.ok (.look l, q))
                (.ok (.look l, q')) := fun l => ⟨rfl, hq⟩
            grind [Parallel]
          · grind [Parallel]
        · exact hplain
  · grind [Parallel]

/-- The reading has run into the closing and left its last sign at most. -/
def Spent (left : List Char) : Prop := left <:+ ['$']

theorem parallel_scanEscape (h : Continued cs more) :
    Parallel Beside (fun b => Spent b.2 ∨ BraceLeft fs b) (scanEscape fs cs)
      (scanEscape fs more) := by
  cases h with
  | swallowed => trivial
  | follows =>
    cases cs with
    | nil =>
      have hparen : scanEscape fs closing = .ok (.literal ')' false, ['$']) := rfl
      rw [List.nil_append, hparen]
      exact .inl (List.suffix_refl ['$'])
    | cons c rest =>
      have hrest : Continued rest (rest ++ closing) := .follows rest
      simp only [List.cons_append, scanEscape]
      split_ifs
      · exact (parallel_scanCode hrest).mono fun _ => False.elim
      · exact (parallel_scanProperty hrest).mono fun _ => False.elim
      · exact .same _ hrest
      · exact (parallel_scanWordLook hrest).mono fun _ => .inr
      · exact ⟨rfl, hrest⟩
      · cases controlOf? c with
        | some d => exact ⟨rfl, hrest⟩
        | none =>
          cases lookOf? (fs.has .unicode) c with
          | some l => exact ⟨rfl, hrest⟩
          | none => trivial

end CallAtlas.Regex
