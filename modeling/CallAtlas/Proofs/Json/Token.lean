/-
# `CallAtlas.Proofs.Json.Token` — blanks, numbers and strings are read as they are written

The reader takes each token as far as it goes.  For blanks that means that any
number of them may be put in front (`skip_append`).  For a number it needs to be
known that what follows does not continue it (`Stops`).  A string ends at its
closing quote, whatever follows: no character that is written inside of a string
comes out as a bare quote, and each comes back as one unit that stands for it
(`exists_unit_escape`).
-/
import CallAtlas.Json.Record

namespace CallAtlas.Json

/-! ## Blanks -/

/-- Text that is white space only. -/
def Blank (gap : List Char) : Prop := ∀ c ∈ gap, isBlank c = true

theorem blank_nil : Blank [] := fun _ h => absurd h List.not_mem_nil

theorem skip_append {gap : List Char} (h : Blank gap) (cs : List Char) :
    skip (gap ++ cs) = skip cs :=
  List.dropWhile_append_of_pos h

theorem skip_of_not_blank {c : Char} (h : isBlank c = false) (cs : List Char) :
    skip (c :: cs) = c :: cs :=
  List.dropWhile_cons_of_neg (Bool.not_eq_true _ ▸ h)

/-- Of white space and a sign the sign is left. -/
theorem skip_append_cons {gap : List Char} (h : Blank gap) (c : Char) (hc : isBlank c = false)
    (cs : List Char) : skip (gap ++ c :: cs) = c :: cs :=
  (skip_append h (c :: cs)).trans (skip_of_not_blank hc cs)

/-! ## Numbers -/

/-- Whether a character can continue a number. -/
def continues (c : Char) : Bool := isDigit c || c = '.' || c = 'e' || c = 'E'

/-- The text does not continue a number in front of it. -/
def Stops (rest : List Char) : Prop := ∀ c cs, rest = c :: cs → continues c = false

theorem stops_nil : Stops [] := fun _ _ h => nomatch h

theorem stops_cons {c : Char} (h : continues c = false) (cs : List Char) : Stops (c :: cs) := by
  rintro _ _ ⟨⟩
  exact h

theorem continues_of_isBlank {c : Char} (h : isBlank c = true) : continues c = false := by
  unfold isBlank at h
  simp only [Bool.or_eq_true, decide_eq_true_eq] at h
  rcases h with ((rfl | rfl) | rfl) | rfl <;> rfl

theorem Stops.append {rest : List Char} (h : Stops rest) {gap : List Char} (hgap : Blank gap) :
    Stops (gap ++ rest) := by
  cases gap with
  | nil => exact h
  | cons c gap => exact stops_cons (continues_of_isBlank (hgap c List.mem_cons_self)) (gap ++ rest)

theorem not_isBlank_of_isDigit {c : Char} (h : isDigit c = true) : isBlank c = false := by
  rw [Bool.eq_false_iff]
  intro hblank
  have hcontinues := continues_of_isBlank hblank
  rw [continues, h] at hcontinues
  cases hcontinues

/-- Digits without a superfluous zero. -/
structure Numeral (ds : List Char) : Prop where
  digits : ∀ c ∈ ds, isDigit c = true
  whole : ds = ['0'] ∨ ∃ d more, ds = d :: more ∧ d ≠ '0'

theorem Numeral.ne_nil {ds : List Char} (h : Numeral ds) : ds ≠ [] := by
  rcases h.whole with rfl | ⟨d, more, rfl, -⟩ <;> exact List.cons_ne_nil _ _

theorem Numeral.exists_cons {ds : List Char} (h : Numeral ds) :
    ∃ d more, ds = d :: more ∧ isDigit d = true := by
  obtain ⟨d, more, rfl⟩ := List.exists_cons_of_ne_nil h.ne_nil
  exact ⟨d, more, rfl, h.digits d List.mem_cons_self⟩

theorem readDigits_append {ds rest : List Char} (hne : ds ≠ []) (hds : ∀ c ∈ ds, isDigit c = true)
    (hrest : Stops rest) : readDigits (ds ++ rest) = some (ds, rest) := by
  have hstop : rest.takeWhile isDigit = [] ∧ rest.dropWhile isDigit = rest := by
    cases rest with
    | nil => exact ⟨rfl, rfl⟩
    | cons c cs =>
      have hc : isDigit c = false := by
        have := hrest c cs rfl
        unfold continues at this
        simp only [Bool.or_eq_false_iff] at this
        exact this.1.1.1
      simp [hc]
  unfold readDigits
  rw [List.takeWhile_append_of_pos hds, List.dropWhile_append_of_pos hds, hstop.1, hstop.2,
    List.append_nil]
  cases ds with
  | nil => exact absurd rfl hne
  | cons d ds => rfl

theorem Stops.readFraction {rest : List Char} (h : Stops rest) :
    readFraction rest = some ([], rest) := by
  unfold Json.readFraction
  split
  · exact absurd (h _ _ rfl) (by decide)
  · rfl

theorem Stops.readExponent {rest : List Char} (h : Stops rest) :
    readExponent rest = some ([], rest) := by
  cases rest with
  | nil => rfl
  | cons c cs =>
    have hc := h c cs rfl
    unfold continues at hc
    simp only [Bool.or_eq_false_iff, decide_eq_false_iff_not] at hc
    unfold Json.readExponent
    exact if_neg (not_or.2 ⟨hc.1.2, hc.2⟩)

/-- A number is read up to where it stops. -/
theorem Numeral.readNumber {ds rest : List Char} (h : Numeral ds) (hrest : Stops rest) :
    readNumber (ds ++ rest) = some (ds, rest) := by
  have hdigits := readDigits_append h.ne_nil h.digits hrest
  have hwhole : readWhole (ds ++ rest) = some (ds, rest) := by
    unfold readWhole
    rw [hdigits]
    rcases h.whole with rfl | ⟨d, more, rfl, hd⟩
    · rfl
    · simp only [Option.bind_eq_bind, Option.bind_some]
      split
      · rename_i heq
        exact absurd (List.cons.inj heq).1 hd
      · rfl
  have hunsigned : readUnsigned (ds ++ rest) = some (ds, rest) := by
    unfold readUnsigned
    simp [hwhole, hrest.readFraction, hrest.readExponent]
  unfold Json.readNumber
  split
  · rename_i heq
    obtain ⟨d, more, rfl, hd⟩ := h.exists_cons
    obtain ⟨rfl, -⟩ := List.cons.inj heq
    exact absurd hd (by decide)
  · exact hunsigned

/-! ## Strings -/

/-- The unit stands for the character, whatever units come after it. -/
def Stands (u : Unit16) (c : Char) : Prop := ∀ us, textOf (u :: us) = (textOf us).map (c :: ·)

theorem stands_char (c : Char) : Stands (.char c) c := fun _ => rfl

/-- A code that is not half of a surrogate pair stands for its character. -/
theorem stands_code {n : Nat} (h : n < 0xD800) : Stands (.code n) (Char.ofNat n) := by
  have hlow : ¬(0xD800 ≤ n ∧ n ≤ 0xDFFF) := by omega
  have hfirst : ¬(0xD800 ≤ n ∧ n ≤ 0xDBFF) := by omega
  have hsecond : ¬(0xDC00 ≤ n ∧ n ≤ 0xDFFF) := by omega
  intro us
  match us with
  | [] => exact if_neg hlow
  | .char c :: us => exact if_neg hlow
  | .code m :: us =>
    rw [textOf, if_neg hfirst, if_neg hsecond]

/-- The two last digits of a code below 32 are enough. -/
theorem hexFour?_hexDigit : ∀ n < 32,
    hexFour? '0' '0' (hexDigit (n / 16)) (hexDigit (n % 16)) = some n := by
  decide

theorem units_short {e c : Char} (he : shortEscape? e = some c) (rest : List Char) :
    units ('\\' :: e :: rest) = (units rest).map fun p => (.char c :: p.1, p.2) := by
  have hu : e ≠ 'u' := by
    rintro rfl
    cases he
  rw [units, he]
  · cases units rest with
    | none => rfl
    | some p => rfl
  · exact fun _ _ _ _ _ h _ => hu h

theorem units_code {n : Nat} (h : n < 32) (rest : List Char) :
    units ('\\' :: 'u' :: '0' :: '0' :: hexDigit (n / 16) :: hexDigit (n % 16) :: rest) =
      (units rest).map fun p => (.code n :: p.1, p.2) := by
  rw [units, hexFour?_hexDigit n h]
  cases units rest with
  | none => rfl
  | some p => rfl

theorem units_bare {c : Char} (hquote : c ≠ '"') (hslash : c ≠ '\\') (hlow : ¬c.toNat < 32)
    (rest : List Char) : units (c :: rest) = (units rest).map fun p => (.char c :: p.1, p.2) := by
  rw [units, if_neg (not_or.2 ⟨hslash, hlow⟩)]
  · cases units rest with
    | none => rfl
    | some p => rfl
  · exact hquote
  · exact fun _ _ _ _ _ h _ => hslash h
  · exact fun _ _ h _ => hslash h

/-- A character that is written inside of a string is read as a unit that stands for it. -/
theorem exists_unit_escape (c : Char) (rest : List Char) :
    ∃ u, Stands u c ∧ units (escape c ++ rest) = (units rest).map fun p => (u :: p.1, p.2) := by
  have hshort : ∀ {e}, shortEscape? e = some c → escape c = ['\\', e] →
      ∃ u, Stands u c ∧ units (escape c ++ rest) = (units rest).map fun p => (u :: p.1, p.2) := by
    intro e he hescape
    rw [hescape]
    exact ⟨.char c, stands_char c, units_short he rest⟩
  by_cases hself : c = '"' ∨ c = '\\'
  · refine hshort (e := c) ?_ (if_pos hself)
    rcases hself with rfl | rfl <;> rfl
  by_cases hn : c = '\n'
  · subst hn
    exact hshort (e := 'n') rfl rfl
  by_cases ht : c = '\t'
  · subst ht
    exact hshort (e := 't') rfl rfl
  by_cases hr : c = '\r'
  · subst hr
    exact hshort (e := 'r') rfl rfl
  by_cases hb : c = '\x08'
  · subst hb
    exact hshort (e := 'b') rfl rfl
  by_cases hf : c = '\x0c'
  · subst hf
    exact hshort (e := 'f') rfl rfl
  unfold escape
  rw [if_neg hself, if_neg hn, if_neg ht, if_neg hr, if_neg hb, if_neg hf]
  obtain ⟨hquote, hslash⟩ := not_or.1 hself
  by_cases hlow : c.toNat < 32
  · have hstands := stands_code (n := c.toNat) (by omega)
    rw [Char.ofNat_toNat] at hstands
    rw [if_pos hlow]
    exact ⟨.code c.toNat, hstands, units_code hlow rest⟩
  · rw [if_neg hlow]
    exact ⟨.char c, stands_char c, units_bare hquote hslash hlow rest⟩

/-- A string is read up to its closing quote. -/
theorem readString_flatMap_escape (cs rest : List Char) :
    readString (cs.flatMap escape ++ '"' :: rest) = some (some (String.ofList cs), rest) := by
  have hunits : ∃ us, units (cs.flatMap escape ++ '"' :: rest) = some (us, rest) ∧
      textOf us = some cs := by
    induction cs with
    | nil => exact ⟨[], by rw [List.flatMap_nil, List.nil_append, units], rfl⟩
    | cons c cs ih =>
      obtain ⟨us, hread, htext⟩ := ih
      obtain ⟨u, hstands, hunit⟩ := exists_unit_escape c (cs.flatMap escape ++ '"' :: rest)
      refine ⟨u :: us, ?_, ?_⟩
      · rw [List.flatMap_cons, List.append_assoc, hunit, hread]
        rfl
      · rw [hstands, htext]
        rfl
  obtain ⟨us, hread, htext⟩ := hunits
  unfold readString
  rw [hread]
  simp [htext]

end CallAtlas.Json
