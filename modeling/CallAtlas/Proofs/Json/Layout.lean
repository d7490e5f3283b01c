/-
# `CallAtlas.Proofs.Json.Layout` — both layouts spell the value that they write

The layouts differ in the white space only: they leave some after a colon and
between items, or none (`Layout`).  So what is between the brackets is taken care
of for both at once, and what is left is an induction on the values that can be
written (`Plain`).  The reader has no part in it.  That a written value is read
back follows from `parse?_of_spells` (`parse?_toCompact`, `parse?_toPretty`).
-/
import CallAtlas.Proofs.Json.Spelling

namespace CallAtlas.Json

/-- The members of an object whose keys are texts. -/
def keyed (ms : List (String × Json)) : List (Option String × Json) :=
  ms.map fun m => (some m.1, m.2)

/-- The value can be written: its numbers are natural ones, and its strings stand for text. -/
inductive Plain : Json → Prop
  | null : Plain .null
  | bool (b : Bool) : Plain (.bool b)
  | number {ds : List Char} : Numeral ds → Plain (.number ds)
  | string (s : String) : Plain (.string (some s))
  | array {vs : List Json} : (∀ v ∈ vs, Plain v) → Plain (.array vs)
  | object {ms : List (String × Json)} : (∀ m ∈ ms, Plain m.2) → Plain (.object (keyed ms))

/-! ## Natural numbers -/

theorem toDigits_whole (n : Nat) :
    Nat.toDigits 10 n = ['0'] ∨ ∃ d more, Nat.toDigits 10 n = d :: more ∧ d ≠ '0' := by
  induction n using Nat.strongRecOn with
  | ind n ih =>
    by_cases hlt : n < 10
    · rw [Nat.toDigits_of_lt_base hlt]
      have hdigit : ∀ m < 10, m = 0 ∨ Nat.digitChar m ≠ '0' := by decide
      rcases hdigit n hlt with rfl | hne
      · exact Or.inl rfl
      · exact Or.inr ⟨_, _, rfl, hne⟩
    · have hle : 10 ≤ n := Nat.not_lt.1 hlt
      rw [Nat.toDigits_of_base_le (by decide) hle]
      right
      -- all but the last digit are those of a smaller number, which is not zero
      rcases ih (n / 10) (by omega) with hzero | ⟨d, more, hdigits, hd⟩
      · have hvalue := Nat.ofDigitChars_toDigits (b := 10) (n := n / 10) (by decide) (by decide)
        rw [hzero] at hvalue
        have : n / 10 = 0 := hvalue.symm
        omega
      · rw [hdigits]
        exact ⟨d, _, rfl, hd⟩

theorem numeral_toDigits (n : Nat) : Numeral (Nat.toDigits 10 n) where
  digits _ hc := Nat.isDigit_of_mem_toDigits (by decide) (by decide) hc
  whole := toDigits_whole n

theorem plain_ofNat (n : Nat) : Plain (.ofNat n) := .number (numeral_toDigits n)

/-! ## Items and members -/

theorem blank_newLine (level : Nat) : Blank (newLine level) := by
  intro c hc
  rcases List.mem_cons.1 hc with rfl | hc
  · rfl
  · rw [List.eq_of_mem_replicate hc]
    rfl

theorem blank_space : Blank [' '] := by
  intro c hc
  rw [List.mem_singleton.1 hc]
  rfl

/-- Items and members are written one after the other, each value with `write`; white space is
left after the colon of a member, `space`, and after the comma between two of them, `gap`. -/
structure Layout (write : Json → List Char) (space gap : List Char)
    (items : List Json → List Char) (members : List (Option String × Json) → List Char) :
    Prop where
  blankSpace : Blank space
  blankGap : Blank gap
  lastItem : ∀ v, items [v] = write v
  moreItems : ∀ v w vs, items (v :: w :: vs) = write v ++ ',' :: (gap ++ items (w :: vs))
  lastMember : ∀ k v, members [(some k, v)] = writeString k ++ ':' :: (space ++ write v)
  moreMembers : ∀ k v m ms, members ((some k, v) :: m :: ms) =
    writeString k ++ ':' :: (space ++ (write v ++ ',' :: (gap ++ members (m :: ms))))

theorem layout_compact : Layout compact [] [] compactItems compactMembers where
  blankSpace := blank_nil
  blankGap := blank_nil
  lastItem v := by rw [compactItems]
  moreItems v w vs := by
    rw [compactItems]
    · rfl
    · exact List.cons_ne_nil w vs
  lastMember k v := by
    rw [compactMembers]
    rfl
  moreMembers k v m ms := by
    rw [compactMembers]
    · simp only [List.append_assoc, List.cons_append]
      rfl
    · exact List.cons_ne_nil m ms

theorem layout_pretty (level : Nat) :
    Layout (pretty level) [' '] (newLine level) (prettyItems level) (prettyMembers level) where
  blankSpace := blank_space
  blankGap := blank_newLine level
  lastItem v := by rw [prettyItems]
  moreItems v w vs := by
    rw [prettyItems]
    · simp only [List.append_assoc, List.cons_append]
    · exact List.cons_ne_nil w vs
  lastMember k v := by
    rw [prettyMembers]
    rfl
  moreMembers k v m ms := by
    rw [prettyMembers]
    · simp only [List.append_assoc, List.cons_append]
      rfl
    · exact List.cons_ne_nil m ms

section Layout

variable {write : Json → List Char} {space gap : List Char} {items : List Json → List Char}
  {members : List (Option String × Json) → List Char}
  (hlayout : Layout write space gap items members) {before after : List Char} (hbefore : Blank before) (hafter : Blank after)
include hlayout hbefore hafter

theorem Layout.spellsItems {v : Json} {vs : List Json} (h : ∀ w ∈ v :: vs, Spells (write w) w) :
    SpellsItems (before ++ (items (v :: vs) ++ (after ++ [']']))) (v :: vs) := by
  have hv := h v List.mem_cons_self
  induction vs generalizing v before with
  | nil =>
    rw [hlayout.lastItem]
    exact .last hbefore hv hafter
  | cons w vs ih =>
    have hrest := fun u hu => h u (List.mem_cons_of_mem v hu)
    rw [hlayout.moreItems]
    simp only [List.append_assoc, List.cons_append]
    exact .more hbefore hv blank_nil (ih hlayout.blankGap hrest (hrest w List.mem_cons_self))

theorem Layout.spellsMembers {m : String × Json} {ms : List (String × Json)}
    (h : ∀ n ∈ m :: ms, Spells (write n.2) n.2) :
    SpellsMembers (before ++ (members (keyed (m :: ms)) ++ (after ++ ['\x7d'])))
      (keyed (m :: ms)) := by
  have hm := h m List.mem_cons_self
  unfold keyed
  induction ms generalizing m before with
  | nil =>
    rw [List.map_cons, List.map_nil, hlayout.lastMember]
    simp only [List.append_assoc, List.cons_append]
    exact .last hbefore blank_nil hlayout.blankSpace hm hafter
  | cons n ms ih =>
    have hrest := fun l hl => h l (List.mem_cons_of_mem m hl)
    rw [List.map_cons, List.map_cons, hlayout.moreMembers]
    simp only [List.append_assoc, List.cons_append]
    exact .more hbefore blank_nil hlayout.blankSpace hm blank_nil
      (ih hlayout.blankGap hrest (hrest n List.mem_cons_self))

end Layout

/-! ## Values -/

/-- What is written without white space spells the value. -/
theorem Plain.spells_compact {v : Json} (h : Plain v) : Spells v.compact v := by
  induction h with
  | null => exact .null
  | bool b =>
    cases b with
    | true => exact .yes
    | false => exact .no
  | number hds => exact .number hds
  | string s => exact .string s
  | @array vs _ ih =>
    cases vs with
    | nil => exact .noItems blank_nil
    | cons v vs => exact .array (layout_compact.spellsItems blank_nil blank_nil ih)
  | @object ms _ ih =>
    cases ms with
    | nil => exact .noMembers blank_nil
    | cons m ms => exact .object (layout_compact.spellsMembers blank_nil blank_nil ih)

/-- What is written with one item a line spells the value. -/
theorem Plain.spells_pretty {v : Json} (h : Plain v) (level : Nat) :
    Spells (pretty level v) v := by
  induction h generalizing level with
  | null => exact .null
  | bool b =>
    cases b with
    | true => exact .yes
    | false => exact .no
  | number hds => exact .number hds
  | string s => exact .string s
  | @array vs _ ih =>
    cases vs with
    | nil => exact .noItems blank_nil
    | cons v vs =>
      have hitems := (layout_pretty (level + 1)).spellsItems (blank_newLine (level + 1))
        (blank_newLine level) fun w hw => ih w hw (level + 1)
      rw [pretty]
      simp only [List.append_assoc, List.cons_append]
      exact .array hitems
  | @object ms _ ih =>
    cases ms with
    | nil => exact .noMembers blank_nil
    | cons m ms =>
      have hmembers := (layout_pretty (level + 1)).spellsMembers (blank_newLine (level + 1))
        (blank_newLine level) fun n hn => ih n hn (level + 1)
      unfold keyed at hmembers ⊢
      rw [List.map_cons, pretty]
      simp only [List.append_assoc, List.cons_append]
      exact .object hmembers

/-! ## Reading back -/

theorem parse?_toCompact {v : Json} (h : Plain v) : parse? v.toCompact = some v := by
  have hread := parse?_of_spells blank_nil h.spells_compact blank_nil
  rwa [List.append_nil] at hread

theorem parse?_toPretty {v : Json} (h : Plain v) : parse? v.toPretty = some v := by
  have hread := parse?_of_spells blank_nil (h.spells_pretty 0) blank_nil
  rwa [List.append_nil] at hread

end CallAtlas.Json
