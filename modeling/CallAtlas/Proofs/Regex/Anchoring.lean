/-
# `CallAtlas.Proofs.Regex.Anchoring` — reading a pattern between anchors

A pattern `p` is anchored by reading `^(?:p)$` in its place.  The anchor and the
opening are read in a few steps, which leave a state like the initial one, within
one further group; from there the reading follows that of `p` alone, item by item.

Say that `p` can be read alone.  Then the reading comes to its end with only the
closing left, which ends the group and adds the second anchor
(`scanAll_closing`); unless a comment that is open at the end of `p` has swallowed
the closing, and the group stays open (`TakesClosing`).

Say that it cannot.  Then the whole cannot be read either (`outer_of_failed`): where
the reading has run into the closing, too little of it is left to end the group.
The exception is a `)` that closes no group in `p`, for it closes the one around it,
and what comes after it is read outside.

Which of the two it is does not depend on the limits, so `read` is the reading
without them.
-/
import CallAtlas.Proofs.Regex.Items

namespace CallAtlas.Regex

open Outcome (bind_eq_ok)

variable {cs more : List Char} {n m : Nat}

/-! ## The reading to the end -/

theorem scanAll_nil {st : State} (h : skip st.flags cs = []) : scanAll (n + 1) st cs = .ok st := by
  rw [scanAll, h]

theorem scanAll_cons {st : State} {c : Char} {rest : List Char} (h : skip st.flags cs = c :: rest) :
    scanAll (n + 1) st cs = scanItem n st c rest >>= fun p => scanAll n p.1 p.2 := by
  rw [scanAll, h]

/-- Outside of all groups a `)` is an error. -/
theorem scanItem_unopened {st : State} (h : st.outer = []) :
    scanItem n st ')' cs = .error .groupUnopened := by
  have hclose : st.closeGroup = .error .groupUnopened := by rw [State.closeGroup, h]
  have hitem : scanItem n st ')' cs = st.closeGroup >>= fun next => .ok (next, cs) := rfl
  rw [hitem, hclose]
  rfl

theorem outer_of_scanItem {st : State} {c : Char} {r : State × List Char}
    (h : scanItem n st c cs = .ok r) : c = ')' → st.outer ≠ [] := by
  rintro rfl houter
  rw [scanItem_unopened houter] at h
  cases h

/-- One step of the reading, beside the same step with the closing behind the rest. -/
theorem step_continued {st : State} {c : Char} {rest : List Char} (h : Continued cs more)
    (hn : more.length < n + 1) (hr : skip st.flags cs = c :: rest) :
    ∃ rest', rest'.length < n ∧
      Parallel Beside Overrun (scanItem n st c rest) (scanItem n st c rest') ∧
      ∀ bottom, (c = ')' → st.outer ≠ []) → scanAll (n + 1) (st.above bottom) more =
        outcomeAbove bottom (scanItem n st c rest') >>= fun p => scanAll n p.1 p.2 := by
  have hskip := continued_skip st.flags h
  rw [hr] at hskip
  obtain ⟨rest', hr', hrest⟩ := hskip.cons
  have hlength := length_skip_le st.flags more
  rw [hr', List.length_cons] at hlength
  refine ⟨rest', by omega, parallel_scanItem hrest (by omega), fun bottom hc => ?_⟩
  have hr' : skip (st.above bottom).flags more = c :: rest' := hr'
  rw [scanAll_cons hr', scanItem_above bottom st rest' hc]

/-- Where a pattern can be read alone, it is read alike with the closing behind it, until only
the closing is left or a comment has taken that too. -/
theorem scanAll_continued {st st' : State} (h : Continued cs more) (hn : more.length < n)
    (hok : scanAll n st cs = .ok st') :
    (∃ k, ∀ bottom,
        scanAll n (st.above bottom) more = scanAll (k + 3) (st'.above bottom) closing) ∨
      ∀ bottom, scanAll n (st.above bottom) more = .ok (st'.above bottom) := by
  induction n generalizing cs more st with
  | zero => cases hok
  | succ n ih =>
    cases hr : skip st.flags cs with
    | nil =>
      rw [scanAll_nil hr] at hok
      obtain rfl : st = st' := Except.ok.inj hok
      have hskip := continued_skip st.flags h
      have hlength := length_skip_le st.flags more
      rw [hr] at hskip
      generalize hr' : skip st.flags more = r' at hskip hlength
      -- the pattern has come to its end; the closing is left, or a comment has it
      cases hskip with
      | swallowed =>
        refine .inr fun bottom => scanAll_nil ?_
        exact hr'
      | follows =>
        obtain ⟨k, rfl⟩ : ∃ k, n = k + 2 :=
          Nat.exists_eq_add_of_le' (hlength.trans (Nat.lt_succ_iff.1 hn))
        refine .inl ⟨k, fun bottom => ?_⟩
        rw [scanAll, scanAll, State.above_flags, hr', skip_closing]
        rfl
    | cons c rest =>
      obtain ⟨rest', hlength, hparallel, hstep⟩ := step_continued h hn hr
      rw [scanAll_cons hr] at hok
      obtain ⟨⟨next, left⟩, hitem, hok⟩ := bind_eq_ok.1 hok
      rw [hitem] at hparallel
      cases hitem' : scanItem n st c rest' with
      | error e =>
        rw [hitem'] at hparallel
        cases hparallel
      | ok p =>
        rw [hitem'] at hparallel
        obtain ⟨next', left'⟩ := p
        obtain ⟨rfl, hleft⟩ := hparallel
        have hstep : ∀ bottom, scanAll (n + 1) (st.above bottom) more =
            scanAll n (next.above bottom) left' := by
          intro bottom
          rw [hstep bottom (outer_of_scanItem hitem), hitem']
          rfl
        simp only [hstep]
        exact ih hleft ((suffix_scanItem hitem').length_le.trans_lt hlength) hok

/-- What is left of the closing opens no group and closes none. -/
theorem outer_of_spent {st st' : State} (h : Spent cs) (hok : scanAll n st cs = .ok st') :
    st'.outer = st.outer := by
  have hend : ∀ {n : Nat} {st : State}, scanAll n st [] = .ok st' → st'.outer = st.outer := by
    intro n st hok
    cases n with
    | zero => cases hok
    | succ n =>
      rw [scanAll_nil (List.suffix_nil.1 (suffix_skip st.flags []))] at hok
      cases hok
      rfl
  rcases List.suffix_cons_iff.1 h with rfl | h
  · cases n with
    | zero => cases hok
    | succ n =>
      have hskip : skip st.flags ['$'] = ['$'] := by
        have hblank : isBlank '$' = false := by decide +kernel
        simp [skip, skipBlanks, hblank]
      obtain ⟨l, hitem⟩ : ∃ l, scanItem n st '$' [] = .ok (st.pushLeaf (.look l), []) := ⟨_, rfl⟩
      rw [scanAll_cons hskip, hitem] at hok
      have houter : (st.pushLeaf (.look l)).outer = st.outer := rfl
      exact houter ▸ hend hok
  · obtain rfl := List.suffix_nil.1 h
    exact hend hok

/-- A brace before the closing is no count. -/
theorem scanAll_brace {st st' : State} {rest : List Char} (h : skip st.flags rest = closing) :
    scanAll n st ('\x7b' :: rest) ≠ .ok st' := by
  intro hok
  cases n with
  | zero => cases hok
  | succ n =>
    have hskip : skip st.flags ('\x7b' :: rest) = '\x7b' :: rest := by
      have hblank : isBlank '\x7b' = false := by decide +kernel
      simp [skip, skipBlanks, hblank]
    have hcount : scanCount st.flags rest = .error .repeatCount := by
      have hnone : (takeCount st.flags closing).1 = none := by
        have hdigit : isDecimal ')' = false := by decide
        simp [takeCount, closing, takeSpaced, takeSpacedFrom, isBlank_paren, hdigit]
      rw [scanCount, h]
      grind
    rw [scanAll_cons hskip] at hok
    obtain ⟨p, hitem, -⟩ := bind_eq_ok.1 hok
    have hbrace : scanItem n st '\x7b' rest = scanCount st.flags rest >>= fun bounds =>
        scanRepeat st bounds.1 bounds.2.1 (skip st.flags bounds.2.2) := rfl
    rw [hbrace, hcount] at hitem
    cases hitem

/-- Where a pattern cannot be read alone, it cannot be read within groups either with the
closing behind it, but for a `)` that closed none: it is an error, or a group stays open. -/
theorem outer_of_failed {st st' : State} {e : SyntaxError} {bottom : List Outer}
    (h : Continued cs more) (hn : more.length < n) (herror : scanAll n st cs = .error e)
    (he : e ≠ .groupUnopened) (hbottom : bottom ≠ [])
    (hok : scanAll n (st.above bottom) more = .ok st') : st'.outer ≠ [] := by
  induction n generalizing cs more st with
  | zero => cases hok
  | succ n ih =>
    cases hr : skip st.flags cs with
    | nil =>
      rw [scanAll_nil hr] at herror
      cases herror
    | cons c rest =>
      obtain ⟨rest', hlength, hparallel, hstep⟩ := step_continued h hn hr
      rw [scanAll_cons hr] at herror
      have hc : c = ')' → st.outer ≠ [] := by
        rintro rfl houter
        rw [scanItem_unopened houter] at herror
        cases herror
        exact he rfl
      rw [hstep bottom hc] at hok
      cases hitem' : scanItem n st c rest' with
      | error e' =>
        rw [hitem'] at hok
        cases hok
      | ok p =>
        obtain ⟨next', left'⟩ := p
        rw [hitem'] at hok hparallel
        cases hitem : scanItem n st c rest with
        | ok p =>
          obtain ⟨next, left⟩ := p
          rw [hitem] at herror hparallel
          obtain ⟨rfl, hleft⟩ := hparallel
          exact ih hleft ((suffix_scanItem hitem').length_le.trans_lt hlength) herror hok
        | error e' =>
          -- the item has run into the closing, and what it left cannot end the groups
          rw [hitem] at hparallel
          rcases hparallel with hspent | ⟨rest, rfl, hrest⟩
          · rw [outer_of_spent hspent hok]
            exact List.append_ne_nil_of_right_ne_nil _ hbottom
          · exact absurd hok (scanAll_brace hrest)

/-! ## Whole patterns -/

/-- Reads a pattern, however deep it is nested. -/
def read (pattern : List Char) : Except SyntaxError Piece := do
  let st ← scanAll (pattern.length + 1) .initial pattern
  if !st.outer.isEmpty then .error .groupUnclosed else .ok st.content

theorem parse_eq (pattern : List Char) :
    parse pattern = read pattern >>= fun p =>
      if p.height > nestLimit then .error .nestedTooDeep else .ok p.expr := by
  rw [parse, read]
  cases scanAll (pattern.length + 1) .initial pattern with
  | error e => rfl
  | ok st =>
    show (if !st.outer.isEmpty then _ else _) = (ite (!st.outer.isEmpty) _ _ >>= _)
    cases st.outer.isEmpty <;> rfl

theorem read_eq {pattern : List Char} (hn : pattern.length < n) :
    read pattern = scanAll n .initial pattern >>= fun st =>
      if !st.outer.isEmpty then .error .groupUnclosed else .ok st.content := by
  rw [read, scanAll_fuel (Nat.lt_succ_self _) hn]

theorem read_eq_ok_iff {pattern : List Char} {p : Piece} (hn : pattern.length < n) :
    read pattern = .ok p ↔
      ∃ st, scanAll n .initial pattern = .ok st ∧ st.outer = [] ∧ st.content = p := by
  rw [read_eq hn, bind_eq_ok]
  refine exists_congr fun st => and_congr_right fun _ => ?_
  cases st.outer <;> simp

theorem ne_ok_of_outer {pattern : List Char} (hn : pattern.length < n)
    (h : ∀ st, scanAll n .initial pattern = .ok st → st.outer ≠ []) (p : Piece) :
    read pattern ≠ .ok p := by
  intro hok
  obtain ⟨st, hst, houter, -⟩ := (read_eq_ok_iff hn).1 hok
  exact h st hst houter

/-- A pattern takes the closing in if it can be read with the closing behind it, though alone
it opens no group: it ends in a comment that is open. -/
def TakesClosing (pattern : List Char) : Prop := ∃ p, read (pattern ++ closing) = .ok p

/-- A pattern between the anchors. -/
def betweenAnchors (pattern : List Char) : List Char :=
  '^' :: '(' :: '?' :: ':' :: (pattern ++ closing)

/-- What a group comes back to that stands behind the first anchor. -/
def afterAnchor : Outer := ⟨⟨[], [.leaf (.look .textStart)]⟩, .initial, false⟩

theorem scanAll_betweenAnchors (n : Nat) (pattern : List Char) :
    scanAll (n + 2) .initial (betweenAnchors pattern) =
      scanAll n (State.initial.above [afterAnchor]) (pattern ++ closing) := by
  rfl

/-- The expression of a pattern between the anchors. -/
def Expr.anchored (e : Expr) : Expr :=
  .seq (.look .textStart) (.seq (.group false e) (.look .textEnd))

/-- What is read of a pattern between the anchors. -/
def Piece.anchored (p : Piece) : Piece := ⟨p.expr.anchored, p.height + 2, false⟩

/-- After the closing has been read, the group around the pattern and the anchors stand beside
each other. -/
theorem scanAll_closing (n : Nat) {st : State} (h : st.outer = []) :
    ∃ st', scanAll (n + 3) (st.above [afterAnchor]) closing = .ok st' ∧ st'.outer = [] ∧
      st'.content = st.content.anchored := by
  obtain ⟨flags, level, outer, names⟩ := st
  obtain rfl : outer = [] := h
  generalize hbody : State.content ⟨flags, level, [], names⟩ = body
  let group : Piece := ⟨.group false body.expr, 1 + body.height, false⟩
  refine ⟨⟨.initial, ⟨[], [.leaf (.look .textEnd), group, .leaf (.look .textStart)]⟩, [], names⟩,
    ?_, rfl, ?_⟩
  · subst hbody
    rw [scanAll_cons (skip_closing _)]
    rfl
  · show Piece.mk _ (1 + max (max (max 0 0) (1 + body.height)) 0) false = body.anchored
    have hheight : 1 + max (max (max 0 0) (1 + body.height)) 0 = body.height + 2 := by omega
    rw [hheight]
    rfl

theorem outer_of_closing {st st' : State} {bottom : List Outer} (h : st.outer ≠ [])
    (hbottom : bottom ≠ []) (hok : scanAll n (st.above bottom) closing = .ok st') :
    st'.outer ≠ [] := by
  obtain ⟨flags, level, outer, names⟩ := st
  cases outer with
  | nil => exact absurd rfl h
  | cons o outer =>
    cases n with
    | zero => cases hok
    | succ n =>
      rw [scanAll_cons (skip_closing _)] at hok
      rw [outer_of_spent (List.suffix_refl ['$']) hok]
      exact List.append_ne_nil_of_right_ne_nil outer hbottom

section Between

variable {pattern : List Char}

theorem length_betweenAnchors :
    (betweenAnchors pattern).length = pattern.length + 6 := by
  simp [betweenAnchors, closing]

/-- Between the anchors a pattern is read as it is alone, unless it takes the closing in; then
the group around it stays open. -/
theorem read_betweenAnchors {p : Piece} (h : read pattern = .ok p) :
    (¬ TakesClosing pattern ∧ read (betweenAnchors pattern) = .ok p.anchored) ∨
      (TakesClosing pattern ∧ ∀ q, read (betweenAnchors pattern) ≠ .ok q) := by
  have hlength : (pattern ++ closing).length < pattern.length + 5 := by simp [closing]
  have hwhole : (betweenAnchors pattern).length < pattern.length + 5 + 2 := by
    rw [length_betweenAnchors]
    omega
  obtain ⟨st, hst, houter, rfl⟩ := (read_eq_ok_iff (n := pattern.length + 5) (by omega)).1 h
  have htakes : TakesClosing pattern ↔
      ∃ st', scanAll (pattern.length + 5) .initial (pattern ++ closing) = .ok st' ∧
        st'.outer = [] := by
    simp only [TakesClosing, read_eq_ok_iff hlength]
    constructor
    · rintro ⟨_, st', hst', houter', -⟩
      exact ⟨st', hst', houter'⟩
    · rintro ⟨st', hst', houter'⟩
      exact ⟨_, st', hst', houter', rfl⟩
  rcases scanAll_continued (.follows pattern) hlength hst with ⟨k, hclosing⟩ | hswallowed
  · refine .inl ⟨?_, ?_⟩
    · -- outside of all groups the closing itself is an error
      rw [htakes]
      rintro ⟨st', hst', -⟩
      have hunopened := hclosing []
      rw [scanAll_cons (skip_closing _), scanItem_unopened (by simp [houter])] at hunopened
      rw [← State.above_nil .initial, hunopened] at hst'
      cases hst'
    · obtain ⟨st', hst', houter', hcontent⟩ := scanAll_closing k houter
      refine (read_eq_ok_iff hwhole).2 ⟨st', ?_, houter', hcontent⟩
      rw [scanAll_betweenAnchors, hclosing, hst']
  · refine .inr ⟨htakes.2 ⟨st.above [], hswallowed [], by simp [houter]⟩, ?_⟩
    refine ne_ok_of_outer hwhole fun st' hst' => ?_
    rw [scanAll_betweenAnchors, hswallowed] at hst'
    cases hst'
    simp

/-- What is an error alone is an error between the anchors, but for a `)` that opens no group. -/
theorem read_betweenAnchors_ne_ok {e : SyntaxError} (h : read pattern = .error e)
    (he : e ≠ .groupUnopened) (q : Piece) : read (betweenAnchors pattern) ≠ .ok q := by
  have hlength : (pattern ++ closing).length < pattern.length + 5 := by simp [closing]
  have hwhole : (betweenAnchors pattern).length < pattern.length + 5 + 2 := by
    rw [length_betweenAnchors]
    omega
  refine ne_ok_of_outer hwhole (fun st' hok => ?_) q
  rw [scanAll_betweenAnchors] at hok
  have hbottom : [afterAnchor] ≠ [] := List.cons_ne_nil _ _
  rw [read_eq (n := pattern.length + 5) (by omega)] at h
  cases hst : scanAll (pattern.length + 5) .initial pattern with
  | error e' =>
    rw [hst] at h
    cases h
    exact outer_of_failed (.follows pattern) hlength hst he hbottom hok
  | ok st =>
    have houter : st.outer ≠ [] := by
      intro houter
      rw [hst] at h
      change (if !st.outer.isEmpty then _ else _) = _ at h
      rw [houter] at h
      cases h
    rcases scanAll_continued (.follows pattern) hlength hst with ⟨k, hclosing⟩ | hswallowed
    · rw [hclosing] at hok
      exact outer_of_closing houter hbottom hok
    · rw [hswallowed] at hok
      cases hok
      exact List.append_ne_nil_of_right_ne_nil _ hbottom

end Between

end CallAtlas.Regex
