/-
# `CallAtlas.Proofs.Regex.WholeName` — what a name pattern accepts

A name pattern is compiled between anchors, as part of a longer pattern, and a name
is accepted if some stretch of it matches that longer pattern.  Where the text can
be read as a pattern of its own this comes to what is meant: the stretch has to be
the whole name, and the pattern itself has to match it (`isMatch_wholeName_iff`).

Whether the text compiles between the anchors is another matter than whether it
compiles alone, and `anchorsWhole_iff` says when the two agree.  A pattern may take
the closing in, it may be nested too deep or be too large for the two further
groups; and a text that closes the group around it may be no pattern at all and yet
compile between the anchors.
-/
import CallAtlas.Pattern
import CallAtlas.Proofs.Regex.Counts

namespace CallAtlas

open Outcome (bind_eq_ok)

namespace Regex

/-! ## What compiles -/

/-- What was read keeps to the limits: it is not nested too deep, and its automata are not too
large. -/
structure Piece.Fits (p : Piece) : Prop where
  height : p.height ≤ nestLimit
  size : p.expr.shape.fits = true

theorem compile_eq_ok_iff {source : String} {r : Regex} :
    compile source = .ok r ↔
      ∃ p, read source.toList = .ok p ∧ p.Fits ∧ r = ⟨source, p.expr⟩ := by
  rw [compile, parse_eq]
  constructor
  · intro hok
    obtain ⟨expr, hexpr, hok⟩ := bind_eq_ok.1 hok
    obtain ⟨p, hp, hexpr⟩ := bind_eq_ok.1 hexpr
    split_ifs at hexpr with hheight
    cases hexpr
    split_ifs at hok with hsize
    cases hok
    exact ⟨p, hp, ⟨Nat.le_of_not_lt hheight, hsize⟩, rfl⟩
  · rintro ⟨p, hp, ⟨hheight, hsize⟩, rfl⟩
    refine bind_eq_ok.2 ⟨p.expr, bind_eq_ok.2 ⟨p, hp, ?_⟩, ?_⟩
    · exact if_neg (Nat.not_lt_of_le hheight)
    · exact if_pos hsize

/-- A compiled pattern is found in a text exactly if its expression matches some stretch of it. -/
theorem isMatch_of_compile {source : String} {r : Regex} (hr : compile source = .ok r)
    (text : String) : r.isMatch text = true ↔ r.expr.MatchesSomewhere text.toList := by
  obtain ⟨p, hp, -, rfl⟩ := compile_eq_ok_iff.1 hr
  exact Expr.isMatch_iff (countsFit_read hp) text.toList

/-! ## What matches between anchors -/

theorem eq_zero_of_charBefore {text : List Char} {i : Nat} (hi : i ≤ text.length)
    (h : charBefore text i = none) : i = 0 := by
  cases i with
  | zero => rfl
  | succ i => exact absurd hi (Nat.not_le_of_lt (Nat.lt_succ_of_le (List.getElem?_eq_none_iff.1 h)))

/-- The only stretch between the two ends of a text is the whole text. -/
theorem Expr.matchesSomewhere_anchored {e : Expr} {text : List Char} :
    e.anchored.MatchesSomewhere text ↔ e.MatchesWhole text := by
  constructor
  · rintro ⟨i, j, hi, _, ⟨rfl, hstart⟩, j, hspan, rfl, hend⟩
    have hj := (forward_spans text e i j hspan hi).2
    obtain rfl : i = 0 := eq_zero_of_charBefore hi (Option.isNone_iff_eq_none.1 hstart)
    obtain rfl : j = text.length :=
      Nat.le_antisymm hj (List.getElem?_eq_none_iff.1 (Option.isNone_iff_eq_none.1 hend))
    exact hspan
  · intro hspan
    have hend : Look.holds .textEnd (charBefore text text.length) text[text.length]? = true :=
      Option.isNone_iff_eq_none.2 (List.getElem?_eq_none_iff.2 (Nat.le_refl _))
    exact ⟨0, text.length, Nat.zero_le _, 0, ⟨rfl, rfl⟩, text.length, hspan, rfl, hend⟩

end Regex

namespace Pattern

open Regex (Piece TakesClosing betweenAnchors read)

variable {pattern : String}

theorem toList_anchored (pattern : String) :
    (anchored pattern).toList = betweenAnchors pattern.toList := by
  simp [anchored, betweenAnchors, Regex.closing]

theorem compileAs_eq_ok_iff {text : String} {r : Regex} :
    compileAs text pattern = .ok r ↔ Regex.compile text = .ok r := by
  rw [compileAs]
  cases Regex.compile text <;> simp

theorem wholeName_eq_ok_iff {r : Regex} :
    wholeName pattern = .ok r ↔ Regex.compile (anchored pattern) = .ok r :=
  compileAs_eq_ok_iff

theorem anywhere_eq_ok_iff {r : Regex} :
    anywhere pattern = .ok r ↔ Regex.compile pattern = .ok r :=
  compileAs_eq_ok_iff

/-! ## Patterns between the anchors -/

section Read

variable {p : Piece} (hp : read pattern.toList = .ok p)
include hp

/-- What compiles between the anchors is the pattern with the anchors, if it does not take the
closing in. -/
theorem wholeName_eq_ok_iff_of_read {r : Regex} :
    wholeName pattern = .ok r ↔ ¬TakesClosing pattern.toList ∧ p.anchored.Fits ∧
      r = ⟨anchored pattern, p.expr.anchored⟩ := by
  rw [wholeName_eq_ok_iff, Regex.compile_eq_ok_iff, toList_anchored]
  rcases Regex.read_betweenAnchors hp with ⟨htakes, hread⟩ | ⟨htakes, hread⟩
  · rw [hread]
    constructor
    · rintro ⟨_, ⟨⟩, hfits, rfl⟩
      exact ⟨htakes, hfits, rfl⟩
    · rintro ⟨-, hfits, rfl⟩
      exact ⟨p.anchored, rfl, hfits, rfl⟩
  · exact iff_of_false (fun ⟨q, hq, _⟩ => hread q hq) fun h => h.1 htakes

theorem exists_wholeName_iff :
    (∃ r, wholeName pattern = .ok r) ↔ ¬TakesClosing pattern.toList ∧ p.anchored.Fits := by
  simp only [wholeName_eq_ok_iff_of_read hp]
  constructor
  · rintro ⟨_, htakes, hfits, -⟩
    exact ⟨htakes, hfits⟩
  · rintro ⟨htakes, hfits⟩
    exact ⟨_, htakes, hfits, rfl⟩

/-- A name is accepted exactly if the pattern matches it as a whole. -/
theorem isMatch_wholeName_iff {r : Regex} (hr : wholeName pattern = .ok r) (name : String) :
    r.isMatch name = true ↔ p.expr.MatchesWhole name.toList := by
  obtain ⟨-, -, rfl⟩ := (wholeName_eq_ok_iff_of_read hp).1 hr
  have hcounts : p.expr.anchored.CountsFit := ⟨trivial, Regex.countsFit_read hp, trivial⟩
  exact (Regex.Expr.isMatch_iff hcounts name.toList).trans
    Regex.Expr.matchesSomewhere_anchored

end Read

/-- What compiles between the anchors can be read alone, or it begins with a pattern whose
group it closes. -/
theorem read_of_wholeName {r : Regex} (hr : wholeName pattern = .ok r) :
    (∃ p, read pattern.toList = .ok p) ∨ read pattern.toList = .error .groupUnopened := by
  obtain ⟨q, hq, -, -⟩ := Regex.compile_eq_ok_iff.1 (wholeName_eq_ok_iff.1 hr)
  rw [toList_anchored] at hq
  cases hread : read pattern.toList with
  | ok p => exact .inl ⟨p, rfl⟩
  | error e =>
    by_cases he : e = .groupUnopened
    · exact .inr (he ▸ rfl)
    · exact absurd hq (Regex.read_betweenAnchors_ne_ok hread he q)

/-! ## Where the anchors hold -/

/-- A text compiles as a name pattern exactly if it is a pattern of its own, and then it accepts
the names that this pattern matches as a whole. -/
structure AnchorsWhole (pattern : String) : Prop where
  compiles : (∃ r, wholeName pattern = .ok r) ↔ ∃ own, Regex.compile pattern = .ok own
  whole : ∀ r own, wholeName pattern = .ok r → Regex.compile pattern = .ok own →
    ∀ name : String, r.isMatch name = true ↔ own.expr.MatchesWhole name.toList

/-- A text keeps to the group that it is put into: where it can be read alone, it leaves the
closing to the group and the limits admit it with the anchors exactly if they admit it without;
and where it would close the group, it does not compile. -/
structure KeepsToGroup (pattern : String) : Prop where
  fits : ∀ p, read pattern.toList = .ok p →
    (p.Fits ↔ ¬TakesClosing pattern.toList ∧ p.anchored.Fits)
  unopened : read pattern.toList = .error .groupUnopened → ∀ r, wholeName pattern ≠ .ok r

theorem anchorsWhole_iff : AnchorsWhole pattern ↔ KeepsToGroup pattern := by
  have hown : (∃ own, Regex.compile pattern = .ok own) ↔
      ∃ p, read pattern.toList = .ok p ∧ p.Fits := by
    simp only [Regex.compile_eq_ok_iff]
    constructor
    · rintro ⟨_, p, hp, hfits, -⟩
      exact ⟨p, hp, hfits⟩
    · rintro ⟨p, hp, hfits⟩
      exact ⟨_, p, hp, hfits, rfl⟩
  constructor
  · rintro ⟨hcompiles, -⟩
    refine ⟨fun p hp => ?_, fun hread r hr => ?_⟩
    · rw [← exists_wholeName_iff hp, hcompiles, hown]
      refine ⟨fun hfits => ⟨p, hp, hfits⟩, ?_⟩
      rintro ⟨q, hq, hfits⟩
      obtain rfl : p = q := Except.ok.inj (hp.symm.trans hq)
      exact hfits
    · obtain ⟨p, hp, -⟩ := hown.1 (hcompiles.1 ⟨r, hr⟩)
      exact absurd (hread.symm.trans hp) nofun
  · rintro ⟨hfits, hunopened⟩
    refine ⟨⟨?_, ?_⟩, ?_⟩
    · rintro ⟨r, hr⟩
      rcases read_of_wholeName hr with ⟨p, hp⟩ | hread
      · exact hown.2 ⟨p, hp, (hfits p hp).2 ((exists_wholeName_iff hp).1 ⟨r, hr⟩)⟩
      · exact absurd hr (hunopened hread r)
    · intro h
      obtain ⟨p, hp, hown⟩ := hown.1 h
      exact (exists_wholeName_iff hp).2 ((hfits p hp).1 hown)
    · intro r own hr hcompile name
      obtain ⟨p, hp, -, rfl⟩ := Regex.compile_eq_ok_iff.1 hcompile
      exact isMatch_wholeName_iff hp hr name

end Pattern

end CallAtlas
