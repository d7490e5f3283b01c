/-
# `CallAtlas.Proofs.Text.Fields` — cutting and trimming, said by what is left

The fields of a text are the one list of pieces without the separator that gives the
text when it is joined again (`fields_eq_iff`).  A text is trimmed to the one piece
that neither begins nor ends with white space and has only white space around it
(`trim_eq_iff`).  So nothing that is read out of fields has to look at the way in
which they are found.
-/
import CallAtlas.Text.Fields
import Mathlib.Data.List.TakeWhile

namespace CallAtlas.Text

/-! ## Fields -/

section Fields

variable {sep : Char}

theorem fields_sep_cons (cs : List Char) : fields sep (sep :: cs) = [] :: fields sep cs := by
  obtain ⟨w, ws, h⟩ := List.exists_cons_of_ne_nil (fields_ne_nil sep cs)
  simp [fields, h]

theorem fields_cons_of_ne {c : Char} (hc : c ≠ sep) {cs w : List Char} {ws : List (List Char)}
    (h : fields sep cs = w :: ws) : fields sep (c :: cs) = (c :: w) :: ws := by
  simp [fields, h, hc]

theorem fields_of_not_mem {w : List Char} (hw : sep ∉ w) : fields sep w = [w] := by
  induction w with
  | nil => rfl
  | cons c w ih =>
    obtain ⟨hc, hw⟩ := List.ne_and_not_mem_of_not_mem_cons hw
    exact fields_cons_of_ne (Ne.symm hc) (ih hw)

/-- The first field ends where the first separator stands. -/
theorem fields_append_sep {w : List Char} (hw : sep ∉ w) (rest : List Char) :
    fields sep (w ++ sep :: rest) = w :: fields sep rest := by
  induction w with
  | nil => exact fields_sep_cons rest
  | cons c w ih =>
    obtain ⟨hc, hw⟩ := List.ne_and_not_mem_of_not_mem_cons hw
    exact fields_cons_of_ne (Ne.symm hc) (ih hw)

theorem not_mem_of_mem_fields (cs : List Char) : ∀ w ∈ fields sep cs, sep ∉ w := by
  induction cs with
  | nil => simp [fields]
  | cons c cs ih =>
    by_cases hc : c = sep
    · subst hc
      rw [fields_sep_cons]
      exact List.forall_mem_cons.2 ⟨List.not_mem_nil, ih⟩
    · obtain ⟨w, ws, h⟩ := List.exists_cons_of_ne_nil (fields_ne_nil sep cs)
      rw [h] at ih
      obtain ⟨hw, hws⟩ := List.forall_mem_cons.1 ih
      rw [fields_cons_of_ne hc h]
      exact List.forall_mem_cons.2 ⟨List.not_mem_cons_of_ne_of_not_mem (Ne.symm hc) hw, hws⟩

/-- There is one field more than there are separators. -/
theorem length_fields (cs : List Char) : (fields sep cs).length = cs.count sep + 1 := by
  induction cs with
  | nil => rfl
  | cons c cs ih =>
    by_cases hc : c = sep
    · subst hc
      rw [fields_sep_cons, List.length_cons, ih, List.count_cons_self]
    · obtain ⟨w, ws, h⟩ := List.exists_cons_of_ne_nil (fields_ne_nil sep cs)
      rw [List.count_cons_of_ne hc, ← ih, fields_cons_of_ne hc h, h]
      rfl

theorem fields_joinFields {ws : List (List Char)} (hne : ws ≠ []) (hws : ∀ w ∈ ws, sep ∉ w) :
    fields sep (joinFields sep ws) = ws := by
  induction ws with
  | nil => exact absurd rfl hne
  | cons w ws ih =>
    obtain ⟨hw, hws⟩ := List.forall_mem_cons.1 hws
    cases ws with
    | nil => exact fields_of_not_mem hw
    | cons v vs =>
      rw [joinFields, fields_append_sep hw, ih (List.cons_ne_nil v vs) hws]
      exact List.cons_ne_nil v vs

/-- The fields of a text are pieces without the separator that give the text when they are
joined, and no other pieces do. -/
theorem fields_eq_iff {cs : List Char} {ws : List (List Char)} :
    fields sep cs = ws ↔ ws ≠ [] ∧ (∀ w ∈ ws, sep ∉ w) ∧ joinFields sep ws = cs := by
  constructor
  · rintro rfl
    exact ⟨fields_ne_nil sep cs, not_mem_of_mem_fields cs, joinFields_fields sep cs⟩
  · rintro ⟨hne, hws, rfl⟩
    exact fields_joinFields hne hws

end Fields

/-! ## White space at the ends -/

/-- Nothing but white space. -/
def AllWhite (cs : List Char) : Prop := ∀ c ∈ cs, Unicode.whiteSpace.contains c = true

/-- Text that neither begins nor ends with white space. -/
structure Trimmed (cs : List Char) : Prop where
  start : ∀ c, cs.head? = some c → Unicode.whiteSpace.contains c = false
  finish : ∀ c, cs.getLast? = some c → Unicode.whiteSpace.contains c = false

private theorem head_dropWhile {p : Char → Bool} {cs : List Char} {c : Char}
    (h : (cs.dropWhile p).head? = some c) : p c = false := by
  have hnot := List.head?_dropWhile_not p cs
  rw [h] at hnot
  exact hnot

private theorem dropWhile_of_head {p : Char → Bool} {cs : List Char}
    (h : ∀ c, cs.head? = some c → p c = false) : cs.dropWhile p = cs := by
  cases cs with
  | nil => rfl
  | cons c cs => exact List.dropWhile_cons_of_neg (by simp [h c rfl])

/-- Text has white space around what it is trimmed to. -/
theorem exists_trim (cs : List Char) :
    ∃ before after, cs = before ++ trim cs ++ after ∧ AllWhite before ∧ AllWhite after := by
  generalize hrest : cs.dropWhile Unicode.whiteSpace.contains = rest
  refine ⟨cs.takeWhile Unicode.whiteSpace.contains,
    (rest.reverse.takeWhile Unicode.whiteSpace.contains).reverse, ?_, ?_, ?_⟩
  · have hcut : rest = trim cs ++ (rest.reverse.takeWhile Unicode.whiteSpace.contains).reverse := by
      rw [trim, hrest, ← List.reverse_append, List.takeWhile_append_dropWhile, List.reverse_reverse]
    rw [List.append_assoc, ← hcut, ← hrest, List.takeWhile_append_dropWhile]
  · exact fun c hc => List.mem_takeWhile_imp hc
  · exact fun c hc => List.mem_takeWhile_imp (List.mem_reverse.1 hc)

theorem trimmed_trim (cs : List Char) : Trimmed (trim cs) where
  start c hc := by
    -- what is left begins where white space was first taken off
    generalize hrest : cs.dropWhile Unicode.whiteSpace.contains = rest
    have hbegins : trim cs <+: rest := by
      rw [trim, hrest, ← List.reverse_suffix, List.reverse_reverse]
      exact List.dropWhile_suffix _
    obtain ⟨after, hafter⟩ := hbegins
    have hhead : (cs.dropWhile Unicode.whiteSpace.contains).head? = some c := by
      rw [hrest, ← hafter, List.head?_append, hc]
      rfl
    exact head_dropWhile hhead
  finish c hc := by
    rw [trim, List.getLast?_reverse] at hc
    exact head_dropWhile hc

theorem trim_append {before core after : List Char} (hbefore : AllWhite before)
    (hcore : Trimmed core) (hafter : AllWhite after) : trim (before ++ core ++ after) = core := by
  have hfinish : ∀ c, core.reverse.head? = some c → Unicode.whiteSpace.contains c = false := by
    simpa only [List.head?_reverse] using hcore.finish
  have hends : (core.reverse.dropWhile Unicode.whiteSpace.contains).reverse = core := by
    rw [dropWhile_of_head hfinish, List.reverse_reverse]
  have hback : (after.reverse ++ core.reverse).dropWhile Unicode.whiteSpace.contains =
      core.reverse.dropWhile Unicode.whiteSpace.contains :=
    List.dropWhile_append_of_pos fun c hc => hafter c (List.mem_reverse.1 hc)
  rw [trim, List.append_assoc, List.dropWhile_append_of_pos hbefore]
  cases core with
  | nil =>
    rw [List.nil_append, List.dropWhile_eq_nil_iff.2 hafter]
    rfl
  | cons c core =>
    have hfront : (c :: core ++ after).dropWhile Unicode.whiteSpace.contains = c :: core ++ after :=
      dropWhile_of_head fun d hd => hcore.start d hd
    rw [hfront, List.reverse_append, hback, hends]

/-- What a text is trimmed to neither begins nor ends with white space and has only white space
around it, and no other piece of the text is so. -/
theorem trim_eq_iff {cs core : List Char} :
    trim cs = core ↔ Trimmed core ∧
      ∃ before after, cs = before ++ core ++ after ∧ AllWhite before ∧ AllWhite after := by
  constructor
  · rintro rfl
    exact ⟨trimmed_trim cs, exists_trim cs⟩
  · rintro ⟨hcore, before, after, rfl, hbefore, hafter⟩
    exact trim_append hbefore hcore hafter

end CallAtlas.Text
