/-
# `CallAtlas.Proofs.Dot.Escape` — labels are read as they are written

Escaping runs over a text three times, each time for another character, and so
each time over what the times before have put in.  Because backslashes come first it does
no more than to put an escape for each character of the text (`escapeChars_eq`), and
that can be read back from left to right (`readQuoted_escapeChars`): whatever the text,
the first quote that no backslash stands for is the one that closes the label.
-/
import CallAtlas.Dot
import Mathlib.Data.List.Basic

namespace CallAtlas.Dot

/-- What a character becomes inside of a label. -/
def escapeChar (c : Char) : List Char :=
  if c = '\\' then ['\\', '\\']
  else if c = '"' then ['\\', '"']
  else if c = '\n' then ['\\', 'n']
  else [c]

theorem escapeChars_eq (cs : List Char) : escapeChars cs = cs.flatMap escapeChar := by
  unfold escapeChars replaceChar
  rw [List.flatMap_assoc, List.flatMap_assoc]
  congr 1
  funext c
  unfold escapeChar
  split
  · rfl
  · split
    · rename_i hquote
      subst hquote
      rfl
    · rename_i hquote
      simp [hquote]

theorem escapeChars_append (cs ds : List Char) :
    escapeChars (cs ++ ds) = escapeChars cs ++ escapeChars ds := by
  rw [escapeChars_eq, escapeChars_eq, escapeChars_eq, List.flatMap_append]

/-- The characters stand for themselves inside of quotes. -/
def Plain (cs : List Char) : Prop := ∀ c ∈ cs, c ≠ '\\' ∧ c ≠ '"' ∧ c ≠ '\n'

instance (cs : List Char) : Decidable (Plain cs) := List.decidableBAll _ cs

theorem escapeChars_of_plain {cs : List Char} (h : Plain cs) : escapeChars cs = cs := by
  have hsame : ∀ c ∈ cs, escapeChar c = [c] := by
    intro c hc
    obtain ⟨hback, hquote, hbreak⟩ := h c hc
    rw [escapeChar, if_neg hback, if_neg hquote, if_neg hbreak]
  rw [escapeChars_eq, List.flatMap_congr hsame, List.flatMap_singleton']

theorem newline_not_mem_escapeChars (cs : List Char) : '\n' ∉ escapeChars cs := by
  rw [escapeChars_eq, List.mem_flatMap]
  rintro ⟨c, -, hc⟩
  unfold escapeChar at hc
  split at hc
  · simp at hc
  · split at hc
    · simp at hc
    · split at hc
      · simp at hc
      · rename_i hbreak
        exact hbreak (List.mem_singleton.1 hc).symm

/-- The character that a backslash and a character stand for. -/
def unescapeChar (c : Char) : Char := if c = 'n' then '\n' else c

/-- A text up to its closing quote, and what is behind it. -/
def readQuoted : List Char → Option (List Char × List Char)
  | [] => none
  | '"' :: rest => some ([], rest)
  | ['\\'] => none
  | '\\' :: c :: rest => (readQuoted rest).map fun (text, rest) => (unescapeChar c :: text, rest)
  | c :: rest => (readQuoted rest).map fun (text, rest) => (c :: text, rest)

theorem readQuoted_escapeChar (c : Char) (cs : List Char) :
    readQuoted (escapeChar c ++ cs) =
      (readQuoted cs).map fun (text, rest) => (c :: text, rest) := by
  unfold escapeChar
  split
  · rename_i hback
    subst hback
    rfl
  · rename_i hback
    split
    · rename_i hquote
      subst hquote
      rfl
    · rename_i hquote
      split
      · rename_i hbreak
        subst hbreak
        rfl
      · simp [readQuoted, hback]

theorem readQuoted_escapeChars (cs rest : List Char) :
    readQuoted (escapeChars cs ++ '"' :: rest) = some (cs, rest) := by
  rw [escapeChars_eq]
  induction cs with
  | nil => rfl
  | cons c cs ih => rw [List.flatMap_cons, List.append_assoc, readQuoted_escapeChar, ih, Option.map_some]

end CallAtlas.Dot
