/-
# `CallAtlas.Proofs.Json.Spelling` — texts that spell a value, and that they are read as it

`Spells` says of a text that it is a value written out, with any amount of white
space between the tokens: more than one text spells a value, and the layouts of
`CallAtlas.Json.Value` are two ways to write one.  Only some values are spelled:
numbers are natural ones, and strings stand for text.

The reader reads each such text back (`parse?_of_spells`), by induction on how it
is spelled.  It looks at what follows a value only to see that a number has come
to its end.  The fuel goes with the text: a value needs no more than two units a
character, and items or members one more than that, for they ask first and read
then.
-/
import CallAtlas.Proofs.Json.Token

namespace CallAtlas.Json

/-! ## Spelling -/

mutual

/-- The text spells the value, from its first sign to its last. -/
inductive Spells : List Char → Json → Prop
  | null : Spells "null".toList .null
  | yes : Spells "true".toList (.bool true)
  | no : Spells "false".toList (.bool false)
  | number {ds : List Char} : Numeral ds → Spells ds (.number ds)
  | string (s : String) : Spells (writeString s) (.string (some s))
  | noItems {gap : List Char} : Blank gap → Spells ('[' :: (gap ++ [']'])) (.array [])
  | array {text : List Char} {vs : List Json} : SpellsItems text vs →
      Spells ('[' :: text) (.array vs)
  | noMembers {gap : List Char} : Blank gap → Spells ('\x7b' :: (gap ++ ['\x7d'])) (.object [])
  | object {text : List Char} {ms : List (Option String × Json)} : SpellsMembers text ms →
      Spells ('\x7b' :: text) (.object ms)

/-- The text spells the items of an array, with the sign that closes it. -/
inductive SpellsItems : List Char → List Json → Prop
  | last {before text after : List Char} {v : Json} : Blank before → Spells text v → Blank after →
      SpellsItems (before ++ (text ++ (after ++ [']']))) [v]
  | more {before text after rest : List Char} {v : Json} {vs : List Json} : Blank before →
      Spells text v → Blank after → SpellsItems rest vs →
      SpellsItems (before ++ (text ++ (after ++ ',' :: rest))) (v :: vs)

/-- The text spells the members of an object, with the sign that closes it. -/
inductive SpellsMembers : List Char → List (Option String × Json) → Prop
  | last {before colon between text after : List Char} {k : String} {v : Json} : Blank before →
      Blank colon → Blank between → Spells text v → Blank after →
      SpellsMembers (before ++ (writeString k ++ (colon ++ ':' ::
        (between ++ (text ++ (after ++ ['\x7d'])))))) [(some k, v)]
  | more {before colon between text after rest : List Char} {k : String} {v : Json}
      {ms : List (Option String × Json)} : Blank before →
      Blank colon → Blank between → Spells text v → Blank after → SpellsMembers rest ms →
      SpellsMembers (before ++ (writeString k ++ (colon ++ ':' ::
        (between ++ (text ++ (after ++ ',' :: rest)))))) ((some k, v) :: ms)

end

/-! ## One step of the reader -/

theorem readValue_append {gap : List Char} (h : Blank gap) (fuel : Nat) (cs : List Char) :
    readValue fuel (gap ++ cs) = readValue fuel cs := by
  cases fuel with
  | zero => rw [readValue, readValue]
  | succ fuel => rw [readValue, readValue, skip_append h]

theorem writeString_append (s : String) (rest : List Char) :
    writeString s ++ rest = '"' :: (s.toList.flatMap escape ++ '"' :: rest) := by
  unfold writeString
  rw [List.cons_append, List.cons_append, List.append_assoc, List.singleton_append]

theorem readValue_number {ds rest : List Char} (h : Numeral ds) (hrest : Stops rest) (fuel : Nat) :
    readValue (fuel + 1) (ds ++ rest) = some (.number ds, rest) := by
  have hread := h.readNumber hrest
  obtain ⟨d, more, rfl, hd⟩ := h.exists_cons
  rw [List.cons_append] at hread ⊢
  rw [readValue, skip_of_not_blank (not_isBlank_of_isDigit hd)]
  have hother : ∀ c cs, isDigit c = false → d :: (more ++ rest) ≠ c :: cs := by
    rintro c cs hc heq
    obtain ⟨rfl, -⟩ := List.cons.inj heq
    exact absurd hd (hc ▸ Bool.false_ne_true)
  split
  case h_7 => rw [hread, Option.map_some]
  all_goals exact absurd ‹_› (hother _ _ rfl)

theorem readValue_array {cs more : List Char} {c : Char} (h : skip cs = c :: more) (hc : c ≠ ']')
    (fuel : Nat) :
    readValue (fuel + 1) ('[' :: cs) = (readItems fuel cs).map fun p => (.array p.1, p.2) := by
  rw [readValue, skip_of_not_blank rfl]
  simp only [h]
  split
  · rename_i heq
    exact absurd (List.cons.inj heq).1 hc
  · rfl

theorem readValue_object {cs more : List Char} {c : Char} (h : skip cs = c :: more)
    (hc : c ≠ '\x7d') (fuel : Nat) :
    readValue (fuel + 1) ('\x7b' :: cs) =
      (readMembers fuel cs).map fun p => (.object p.1, p.2) := by
  rw [readValue, skip_of_not_blank rfl]
  simp only [h]
  split
  · rename_i heq
    exact absurd (List.cons.inj heq).1 hc
  · rfl

/-! ## Reading what is spelled -/

/-- A value starts with a sign that is neither white space nor the end of an array. -/
theorem Spells.starts {text : List Char} {v : Json} (h : Spells text v) :
    ∃ c more, text = c :: more ∧ isBlank c = false ∧ c ≠ ']' := by
  cases h with
  | number hds =>
    obtain ⟨d, more, rfl, hd⟩ := hds.exists_cons
    refine ⟨d, more, rfl, not_isBlank_of_isDigit hd, ?_⟩
    rintro rfl
    exact absurd hd (by decide)
  | _ => exact ⟨_, _, rfl, rfl, by decide⟩

theorem SpellsItems.starts {text : List Char} {vs : List Json} (h : SpellsItems text vs)
    (rest : List Char) : ∃ c more, skip (text ++ rest) = c :: more ∧ c ≠ ']' := by
  have hskip : ∀ {before text : List Char} {v : Json}, Blank before → Spells text v → ∀ after,
      ∃ c more, skip (before ++ (text ++ after)) = c :: more ∧ c ≠ ']' := by
    intro before text v hbefore htext after
    obtain ⟨c, more, rfl, hblank, hc⟩ := htext.starts
    refine ⟨c, more ++ after, ?_, hc⟩
    exact skip_append_cons hbefore c hblank (more ++ after)
  cases h with
  | last hbefore htext _ =>
    rw [List.append_assoc, List.append_assoc]
    exact hskip hbefore htext _
  | more hbefore htext _ _ =>
    rw [List.append_assoc, List.append_assoc]
    exact hskip hbefore htext _

theorem SpellsMembers.starts {text : List Char} {ms : List (Option String × Json)}
    (h : SpellsMembers text ms) (rest : List Char) :
    ∃ more, skip (text ++ rest) = '"' :: more := by
  have hskip : ∀ {before : List Char}, Blank before → ∀ (k : String) (after : List Char),
      ∃ more, skip (before ++ (writeString k ++ after)) = '"' :: more := by
    intro before hbefore k after
    refine ⟨k.toList.flatMap escape ++ '"' :: after, ?_⟩
    rw [writeString_append]
    exact skip_append_cons hbefore '"' rfl _
  cases h with
  | last hbefore _ _ _ _ =>
    rw [List.append_assoc, List.append_assoc]
    exact hskip hbefore _ _
  | more hbefore _ _ _ _ _ =>
    rw [List.append_assoc, List.append_assoc]
    exact hskip hbefore _ _

mutual

/-- What spells a value is read as it. -/
theorem Spells.read {text : List Char} {v : Json} (h : Spells text v) {fuel : Nat}
    {rest : List Char} (hfuel : 2 * text.length ≤ fuel) (hrest : Stops rest) :
    readValue fuel (text ++ rest) = some (v, rest) := by
  obtain ⟨fuel, rfl⟩ : ∃ n, fuel = n + 1 := by
    obtain ⟨c, more, rfl, -⟩ := h.starts
    rw [List.length_cons] at hfuel
    exact Nat.exists_eq_succ_of_ne_zero (by omega)
  match h with
  | .null => rfl
  | .yes => rfl
  | .no => rfl
  | .number hds => exact readValue_number hds hrest fuel
  | .string s =>
    rw [writeString_append, readValue, skip_of_not_blank rfl]
    simp only [readString_flatMap_escape, String.ofList_toList, Option.map_some]
  | .noItems hgap =>
    rw [List.cons_append, List.append_assoc, readValue, skip_of_not_blank rfl]
    simp only [skip_append hgap, List.singleton_append]
    rfl
  | .array hitems =>
    obtain ⟨c, more, hskip, hc⟩ := hitems.starts rest
    rw [List.length_cons] at hfuel
    rw [List.cons_append, readValue_array hskip hc, hitems.read (by omega)]
    rfl
  | .noMembers hgap =>
    rw [List.cons_append, List.append_assoc, readValue, skip_of_not_blank rfl]
    simp only [skip_append hgap, List.singleton_append]
    rfl
  | .object hmembers =>
    obtain ⟨more, hskip⟩ := hmembers.starts rest
    rw [List.length_cons] at hfuel
    rw [List.cons_append, readValue_object hskip (by decide), hmembers.read (by omega)]
    rfl

theorem SpellsItems.read {text : List Char} {vs : List Json} (h : SpellsItems text vs) {fuel : Nat}
    {rest : List Char} (hfuel : 2 * text.length < fuel) :
    readItems fuel (text ++ rest) = some (vs, rest) := by
  obtain ⟨fuel, rfl⟩ : ∃ n, fuel = n + 1 := Nat.exists_eq_succ_of_ne_zero (by omega)
  match h with
  | .last hbefore htext hafter =>
    simp only [List.length_append, List.length_cons, List.length_nil] at hfuel
    simp only [List.append_assoc, List.singleton_append]
    rw [readItems, readValue_append hbefore,
      htext.read (by omega) ((stops_cons rfl rest).append hafter)]
    simp only [Option.bind_eq_bind, Option.bind_some, skip_append_cons hafter ']' rfl]
  | .more hbefore htext hafter hitems =>
    simp only [List.length_append, List.length_cons] at hfuel
    simp only [List.append_assoc, List.cons_append]
    have hmore : readItems fuel (_ ++ rest) = _ := hitems.read (by omega)
    rw [readItems, readValue_append hbefore,
      htext.read (by omega) ((stops_cons rfl (_ ++ rest)).append hafter)]
    simp only [Option.bind_eq_bind, Option.bind_some, skip_append_cons hafter ',' rfl, hmore,
      Option.map_some]

theorem SpellsMembers.read {text : List Char} {ms : List (Option String × Json)}
    (h : SpellsMembers text ms) {fuel : Nat} {rest : List Char} (hfuel : 2 * text.length < fuel) :
    readMembers fuel (text ++ rest) = some (ms, rest) := by
  obtain ⟨fuel, rfl⟩ : ∃ n, fuel = n + 1 := Nat.exists_eq_succ_of_ne_zero (by omega)
  match h with
  | .last hbefore hcolon hbetween htext hafter =>
    simp only [List.length_append, List.length_cons, List.length_nil] at hfuel
    simp only [List.append_assoc, List.cons_append, List.nil_append]
    rw [readMembers, writeString_append, skip_append_cons hbefore '"' rfl]
    simp only [readString_flatMap_escape, Option.bind_eq_bind, Option.bind_some,
      skip_append_cons hcolon ':' rfl]
    rw [readValue_append hbetween, htext.read (by omega) ((stops_cons rfl rest).append hafter)]
    simp only [Option.bind_some, skip_append_cons hafter '\x7d' rfl, String.ofList_toList]
  | .more hbefore hcolon hbetween htext hafter hmembers =>
    simp only [List.length_append, List.length_cons] at hfuel
    simp only [List.append_assoc, List.cons_append]
    have hmore : readMembers fuel (_ ++ rest) = _ := hmembers.read (by omega)
    rw [readMembers, writeString_append, skip_append_cons hbefore '"' rfl]
    simp only [readString_flatMap_escape, Option.bind_eq_bind, Option.bind_some,
      skip_append_cons hcolon ':' rfl]
    rw [readValue_append hbetween,
      htext.read (by omega) ((stops_cons rfl (_ ++ rest)).append hafter)]
    simp only [Option.bind_some, skip_append_cons hafter ',' rfl, hmore, Option.map_some,
      String.ofList_toList]

end

/-- A text that spells a value, with white space around it, is read as the value. -/
theorem parse?_of_spells {before text after : List Char} {v : Json} (hbefore : Blank before)
    (h : Spells text v) (hafter : Blank after) :
    parse? (String.ofList (before ++ (text ++ after))) = some v := by
  have hread : readValue (2 * (before ++ (text ++ after)).length + 2) (before ++ (text ++ after)) =
      some (v, after) := by
    rw [readValue_append hbefore]
    refine h.read ?_ ?_
    · simp only [List.length_append]
      omega
    · exact List.append_nil after ▸ stops_nil.append hafter
  have hskip : skip after = [] := by
    rw [← List.append_nil after, skip_append hafter]
    rfl
  unfold parse?
  simp only [String.toList_ofList, hread, hskip, if_true]

end CallAtlas.Json
