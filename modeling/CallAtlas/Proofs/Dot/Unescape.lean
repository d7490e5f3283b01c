/-
# `CallAtlas.Proofs.Dot.Unescape` — no text gets out of its label

A quote closes a label if the backslashes in front of it are even in number, and a label
whose text ends in an odd number of backslashes runs on over its closing quote.  Escaping
leaves neither: each character of a text becomes an escape behind which the number of
backslashes is even again (`Sealed.escapeChar`), and so the whole text does.

`unescape?` is a strict reader.  It takes the three escapes, refuses every other one, and
refuses what has to be escaped and is not.  The labels it takes are just those that escaping
gives, each for one text (`unescape?_eq_some_iff`).
-/
import CallAtlas.Proofs.Dot.Escape
import Mathlib.Algebra.Ring.Parity
import Mathlib.Data.List.DropRight

namespace CallAtlas.Dot

theorem escapeChars_cons (c : Char) (cs : List Char) :
    escapeChars (c :: cs) = escapeChar c ++ escapeChars cs := by
  rw [escapeChars_eq, escapeChars_eq, List.flatMap_cons]

/-! ## Runs of backslashes -/

/-- The number of backslashes that a text ends in. -/
def backslashes (cs : List Char) : Nat := (cs.rtakeWhile (· == '\\')).length

theorem backslashes_concat (cs : List Char) (c : Char) :
    backslashes (cs ++ [c]) = if c = '\\' then backslashes cs + 1 else 0 := by
  unfold backslashes
  rw [List.rtakeWhile_concat]
  by_cases hback : c = '\\'
  · rw [if_pos (beq_iff_eq.2 hback), if_pos hback, List.length_append, List.length_singleton]
  · rw [if_neg (mt beq_iff_eq.1 hback), if_neg hback, List.length_nil]

/-- Behind another character there is no backslash. -/
theorem backslashes_concat_of_ne (cs : List Char) {c : Char} (hback : c ≠ '\\') :
    backslashes (cs ++ [c]) = 0 := by
  rw [backslashes_concat, if_neg hback]

/-- Each quote stands behind an odd number of backslashes. -/
def Guarded (cs : List Char) : Prop :=
  ∀ before after, cs = before ++ '"' :: after → Odd (backslashes before)

theorem guarded_nil : Guarded [] := by
  intro before after h
  simp at h

theorem Guarded.concat {cs : List Char} {c : Char} (h : Guarded cs)
    (hc : c = '"' → Odd (backslashes cs)) : Guarded (cs ++ [c]) := by
  intro before after hsplit
  rcases List.eq_nil_or_concat after with rfl | ⟨after, d, rfl⟩
  · obtain ⟨rfl, hquote⟩ := List.append_inj' hsplit rfl
    exact hc (List.singleton_inj.1 hquote)
  · have hsplit' : cs ++ [c] = (before ++ '"' :: after) ++ [d] := by
      rw [hsplit, List.append_assoc, List.cons_append, List.concat_eq_append]
    exact h before after (List.append_inj' hsplit' rfl).1

/-- The text may stand in a label: each quote in it is guarded, and so is none that comes
behind it. -/
structure Sealed (cs : List Char) : Prop where
  guarded : Guarded cs
  even : Even (backslashes cs)

theorem sealed_nil : Sealed [] := ⟨guarded_nil, Even.zero⟩

theorem Sealed.escapeChar {cs : List Char} (h : Sealed cs) (c : Char) :
    Sealed (cs ++ escapeChar c) := by
  -- the backslash of an escape makes their number odd
  have hodd : Odd (backslashes (cs ++ ['\\'])) := by
    rw [backslashes_concat, if_pos rfl]
    exact h.even.add_one
  have hguarded : Guarded (cs ++ ['\\']) := h.guarded.concat nofun
  unfold Dot.escapeChar
  split
  · rw [← List.singleton_append, ← List.append_assoc]
    refine ⟨hguarded.concat nofun, ?_⟩
    rw [backslashes_concat, if_pos rfl]
    exact hodd.add_one
  · rename_i hback
    split
    · rw [← List.singleton_append, ← List.append_assoc]
      refine ⟨hguarded.concat fun _ => hodd, ?_⟩
      rw [backslashes_concat_of_ne _ (by decide)]
      exact Even.zero
    · rename_i hquote
      split
      · rw [← List.singleton_append, ← List.append_assoc]
        refine ⟨hguarded.concat nofun, ?_⟩
        rw [backslashes_concat_of_ne _ (by decide)]
        exact Even.zero
      · refine ⟨h.guarded.concat fun hc => absurd hc hquote, ?_⟩
        rw [backslashes_concat_of_ne _ hback]
        exact Even.zero

/-- Escaped text may stand in a label.  The induction is from the right, since what is in front
of a quote decides. -/
theorem sealed_escapeChars (cs : List Char) : Sealed (escapeChars cs) := by
  induction cs using List.reverseRecOn with
  | nil => exact sealed_nil
  | append_singleton cs c ih =>
    have hlast : escapeChars [c] = escapeChar c :=
      (escapeChars_cons c []).trans (List.append_nil _)
    rw [escapeChars_append, hlast]
    exact ih.escapeChar c

/-! ## Reading back -/

/-- The text that a label is written for, if it is written by the rules. -/
def unescape? : List Char → Option (List Char)
  | [] => some []
  | '\\' :: '\\' :: rest => (unescape? rest).map ('\\' :: ·)
  | '\\' :: '"' :: rest => (unescape? rest).map ('"' :: ·)
  | '\\' :: 'n' :: rest => (unescape? rest).map ('\n' :: ·)
  | '\\' :: _ => none
  | '"' :: _ => none
  | '\n' :: _ => none
  | c :: rest => (unescape? rest).map (c :: ·)

theorem unescape?_cons_of_plain {c : Char} (hback : c ≠ '\\') (hquote : c ≠ '"')
    (hbreak : c ≠ '\n') (cs : List Char) : unescape? (c :: cs) = (unescape? cs).map (c :: ·) := by
  rw [unescape?]
  · exact fun _ h => absurd h hback
  · exact fun _ h => absurd h hback
  · exact fun _ h => absurd h hback
  · exact hback
  · exact hquote
  · exact hbreak

theorem unescape?_escapeChar (c : Char) (cs : List Char) :
    unescape? (escapeChar c ++ cs) = (unescape? cs).map (c :: ·) := by
  unfold escapeChar
  split
  · rename_i hback
    subst hback
    rfl
  · rename_i hback
    split
    · rename_i hquote
      subst hquote
      rfl
    · rename_i hquote
      split
      · rename_i hbreak
        subst hbreak
        rfl
      · rename_i hbreak
        rw [List.singleton_append, unescape?_cons_of_plain hback hquote hbreak]

theorem unescape?_escapeChars (cs : List Char) : unescape? (escapeChars cs) = some cs := by
  induction cs with
  | nil => rfl
  | cons c cs ih => rw [escapeChars_cons, unescape?_escapeChar, ih, Option.map_some]

/-- A reader that goes on with a character has seen the escape of the character. -/
theorem escapeChar_append_eq {c : Char} {rest cs : List Char}
    (ih : ∀ {cs}, unescape? rest = some cs → rest = escapeChars cs)
    (h : (unescape? rest).map (c :: ·) = some cs) : escapeChar c ++ rest = escapeChars cs := by
  obtain ⟨ds, hds, rfl⟩ := Option.map_eq_some_iff.1 h
  rw [escapeChars_cons, ← ih hds]

theorem eq_escapeChars_of_unescape? {label cs : List Char} (h : unescape? label = some cs) :
    label = escapeChars cs := by
  fun_induction unescape? label generalizing cs with
  | case1 =>
    cases h
    rfl
  | case2 rest ih => exact escapeChar_append_eq ih h
  | case3 rest ih => exact escapeChar_append_eq ih h
  | case4 rest ih => exact escapeChar_append_eq ih h
  | case5 => cases h
  | case6 => cases h
  | case7 => cases h
  | case8 c rest _ _ _ hback hquote hbreak ih =>
    have hplain : escapeChar c = [c] := by
      rw [escapeChar, if_neg hback, if_neg hquote, if_neg hbreak]
    have hrest := escapeChar_append_eq ih h
    rwa [hplain] at hrest

theorem unescape?_eq_some_iff {label cs : List Char} :
    unescape? label = some cs ↔ label = escapeChars cs := by
  constructor
  · exact eq_escapeChars_of_unescape?
  · rintro rfl
    exact unescape?_escapeChars cs

/-! ## Labels -/

/-- No two texts have the same label.  Whatever the text is, its label has no line break, each
quote in it stands behind an odd number of backslashes, it does not end in an odd number of
backslashes, and reading it from left to right gives back the text; and nothing else is read as
the text. -/
theorem escape_sealed :
    Function.Injective escape ∧
    ∀ s : String,
      '\n' ∉ (escape s).toList ∧
      (∀ before after, (escape s).toList = before ++ '"' :: after → Odd (backslashes before)) ∧
      ¬Odd (backslashes (escape s).toList) ∧
      unescape? (escape s).toList = some s.toList ∧
      ∀ label : String, unescape? label.toList = some s.toList → label = escape s := by
  have hlabel : ∀ s, (escape s).toList = escapeChars s.toList := fun _ => String.toList_ofList
  have hread : ∀ s, unescape? (escape s).toList = some s.toList :=
    fun s => unescape?_eq_some_iff.2 (hlabel s)
  refine ⟨fun s t h => ?_, fun s => ?_⟩
  · have hsame := hread s
    rw [h, hread t] at hsame
    exact String.toList_injective (Option.some.inj hsame).symm
  · obtain ⟨hguarded, heven⟩ := sealed_escapeChars s.toList
    rw [← hlabel] at hguarded heven
    refine ⟨?_, hguarded, Nat.not_odd_iff_even.2 heven, hread s, fun label h => ?_⟩
    · rw [hlabel]
      exact newline_not_mem_escapeChars s.toList
    · exact String.toList_injective ((unescape?_eq_some_iff.1 h).trans (hlabel s).symm)

/-- A quote behind a backslash, and a backslash at the end. -/
example : escape "a\\\"n\\" = "a\\\\\\\"n\\\\" ∧
    unescape? (escape "a\\\"n\\").toList = some ['a', '\\', '"', 'n', '\\'] := by
  decide +kernel

end CallAtlas.Dot
