/-
# `CallAtlas.Proofs.Address.Covering` — what an address selects

An address covers a symbol if the file part, the line part and the name part each
admit it, and a part that is open admits everything (`Covers`).  A filter by an
address asks one conjunction of the parts that are there, and the conjunction holds
where each of its members does (`holds_conjunction`), so a part that is left out does
as one that is true.

What a part admits is said with compiled expressions alone (`FoundIn`); that the
filter compiles the parts so, and matches what there is to be found, is proved.

Together with the grammar of addresses this says what a written address means
(`reads_and_covers`): the text is read as the parts that it has, and these decide what
is kept.
-/
import CallAtlas.Proofs.Address.Grammar
import CallAtlas.Proofs.Predicate.NameFilter
import CallAtlas.Proofs.Predicate.Noting
import CallAtlas.Proofs.Regex.WholeName

namespace CallAtlas

open Outcome (bind_eq_ok bind_eq_error exists_error_iff)

/-- The lines that a selector stands for. -/
def LineSelector.Admits : LineSelector → Nat → Prop
  | .any, _ => True
  | .exact n, line => line = n
  | .oneOf ns, line => line ∈ ns

namespace Address

/-- The pattern compiles, and some part of the text matches it. -/
def FoundIn (pattern text : String) : Prop :=
  ∃ r, Regex.compile pattern = .ok r ∧ r.expr.MatchesSomewhere text.toList

/-- The symbol stands where the address says, and is named as it says.  The file part is looked
for as it is, and the name part between anchors. -/
structure Covers (a : Address) (m : Symbol) : Prop where
  file : ∀ p, a.file = some p → FoundIn p m.file
  line : a.line.Admits m.line
  name : ∀ p, a.name = some p → FoundIn ("^(?:" ++ p ++ ")$") m.name

/-- The matcher finds what is there to be found. -/
theorem foundIn_iff_isMatch {pattern text : String} :
    FoundIn pattern text ↔ ∃ r, Regex.compile pattern = .ok r ∧ r.isMatch text = true := by
  unfold FoundIn
  constructor
  · rintro ⟨r, hr, hmatch⟩
    exact ⟨r, hr, (Regex.isMatch_of_compile hr text).2 hmatch⟩
  · rintro ⟨r, hr, hmatch⟩
    exact ⟨r, hr, (Regex.isMatch_of_compile hr text).1 hmatch⟩

/-! ## The tests of an address -/

/-- The test that a part makes of a field: none if the part is open. -/
def textTests (compile : String → Except QueryError Regex) (f : TextField) :
    Option String → Except QueryError (List Predicate)
  | none => .ok []
  | some p => (compile p).map fun r => [.field (.matchText f r)]

/-- The test that a line part makes: none if it is open. -/
def lineTests : LineSelector → List Predicate
  | .any => []
  | .exact n => [.numberEquals .line n]
  | .oneOf ns => [.field (.numberIn .line (ns.map Int.ofNat))]

theorem predicates_eq (a : Address) :
    a.predicates =
      textTests Pattern.anywhere .file a.file >>= fun file =>
        textTests Pattern.wholeName .name a.name >>= fun name =>
          .ok (file ++ lineTests a.line ++ name) := by
  obtain ⟨file, line, name⟩ := a
  -- with the two results at hand both sides are the same list
  rcases file with _ | file <;> rcases name with _ | name
  · rfl
  · cases hname : Pattern.wholeName name <;>
      simp only [predicates, textTests, Predicate.fieldMatches, hname] <;> rfl
  · cases hfile : Pattern.anywhere file <;>
      simp only [predicates, textTests, Predicate.fieldSearch, hfile] <;> rfl
  · cases hfile : Pattern.anywhere file <;> cases hname : Pattern.wholeName name <;>
      simp only [predicates, textTests, Predicate.fieldSearch, Predicate.fieldMatches, hfile,
        hname] <;> rfl

section TextTests

variable {compile : String → Except QueryError Regex} {f : TextField} {part : Option String}

theorem textTests_eq_error_iff {e : QueryError} :
    textTests compile f part = .error e ↔ ∃ p, part = some p ∧ compile p = .error e := by
  cases part with
  | none => simp [textTests]
  | some p => cases h : compile p <;> simp [textTests, h, Except.map]

theorem exists_textTests_iff :
    (∃ ps, textTests compile f part = .ok ps) ↔ ∀ p, part = some p → ∃ r, compile p = .ok r := by
  cases part with
  | none => simp [textTests]
  | some p => cases h : compile p <;> simp [textTests, h, Except.map]

/-- The test holds of a symbol exactly if the part, where there is one, is found in its field. -/
theorem all_textTests_iff {ps : List Predicate} (h : textTests compile f part = .ok ps)
    {source : String → String}
    (hsource : ∀ p r, compile p = .ok r ↔ Regex.compile (source p) = .ok r)
    (g : CallGraph) {m : Symbol} {text : String} (htext : f.get (.symbol m) = some text) :
    (∀ q ∈ ps, q.holds g (.symbol m) = true) ↔ ∀ p, part = some p → FoundIn (source p) text := by
  cases part with
  | none =>
    cases h
    simp
  | some p =>
    cases hp : compile p with
    | error e => simp [textTests, hp, Except.map] at h
    | ok r =>
      have hps : ps = [.field (.matchText f r)] := by
        simpa [textTests, hp, Except.map, eq_comm] using h
      have hholds : (Predicate.field (.matchText f r)).holds g (.symbol m) = r.isMatch text :=
        congrArg (Option.any r.isMatch) htext
      simp [hps, hholds, foundIn_iff_isMatch, (hsource p r).1 hp]

end TextTests

theorem all_lineTests_iff (lines : LineSelector) (g : CallGraph) (m : Symbol) :
    (∀ q ∈ lineTests lines, q.holds g (.symbol m) = true) ↔ lines.Admits m.line := by
  cases lines with
  | any => simp [lineTests, LineSelector.Admits]
  | exact n =>
    have hholds : (Predicate.numberEquals .line n).holds g (.symbol m) = true ↔
        (compare (m.line : Int) n == .eq) = true := Iff.rfl
    rw [lineTests, List.forall_mem_singleton, hholds, beq_iff_eq, Int.compare_eq_eq,
      Int.natCast_inj]
    rfl
  | oneOf ns =>
    have hholds :
        (Predicate.field (.numberIn .line (ns.map Int.ofNat))).holds g (.symbol m) = true ↔
          (ns.map Int.ofNat).contains (m.line : Int) = true := Iff.rfl
    rw [lineTests, List.forall_mem_singleton, hholds, List.contains_iff_mem]
    exact List.mem_map_of_injective fun _ _ => Int.ofNat.inj

/-! ## Their conjunction -/

theorem holds_foldl_and (g : CallGraph) (item : Item) (p : Predicate) (ps : List Predicate) :
    (ps.foldl .and p).holds g item = (p.holds g item && ps.all (·.holds g item)) := by
  induction ps generalizing p with
  | nil => simp
  | cons q ps ih => rw [List.foldl_cons, ih, Predicate.holds_and, List.all_cons, Bool.and_assoc]

/-- A conjunction holds where all its members do; one without members holds everywhere. -/
theorem holds_conjunction (g : CallGraph) (item : Item) (ps : List Predicate) :
    (conjunction ps).holds g item = ps.all (·.holds g item) := by
  cases ps with
  | nil => rfl
  | cons p ps => exact holds_foldl_and g item p ps

variable {a : Address}

/-- The predicate of an address holds of the symbols that the address covers. -/
theorem holds_toPredicate_iff {q : Predicate} (hq : a.toPredicate = .ok q) (g : CallGraph)
    (m : Symbol) : q.holds g (.symbol m) = true ↔ a.Covers m := by
  obtain ⟨ps, hps, hconj⟩ := bind_eq_ok.1 hq
  cases hconj
  rw [predicates_eq] at hps
  obtain ⟨file, hfile, hps⟩ := bind_eq_ok.1 hps
  obtain ⟨name, hname, hps⟩ := bind_eq_ok.1 hps
  cases hps
  have hfile := all_textTests_iff hfile (fun _ _ => Pattern.anywhere_eq_ok_iff) g (m := m) rfl
  have hline := all_lineTests_iff a.line g m
  have hname := all_textTests_iff hname (fun _ _ => Pattern.wholeName_eq_ok_iff) g (m := m) rfl
  simp only [holds_conjunction, List.all_eq_true, List.forall_mem_append, hfile, hline, hname]
  exact ⟨fun ⟨⟨hf, hl⟩, hn⟩ => ⟨hf, hl, hn⟩, fun h => ⟨⟨h.file, h.line⟩, h.name⟩⟩

/-- The predicate of an address fails with its file part, or else with its name part. -/
theorem toPredicate_eq_error_iff {e : QueryError} :
    a.toPredicate = .error e ↔
      (∃ p, a.file = some p ∧ Pattern.anywhere p = .error e) ∨
      ((∀ p, a.file = some p → ∃ r, Pattern.anywhere p = .ok r) ∧
        ∃ p, a.name = some p ∧ Pattern.wholeName p = .error e) := by
  rw [← textTests_eq_error_iff (f := .file), ← exists_textTests_iff (f := .file),
    ← textTests_eq_error_iff (f := .name), toPredicate, bind_eq_error, predicates_eq, bind_eq_error]
  constructor
  · rintro ((hfile | ⟨file, hfile, h⟩) | ⟨ps, -, h⟩)
    · exact Or.inl hfile
    · rcases bind_eq_error.1 h with hname | ⟨name, -, h⟩
      · exact Or.inr ⟨⟨file, hfile⟩, hname⟩
      · cases h
    · cases h
  · rintro (hfile | ⟨⟨file, hfile⟩, hname⟩)
    · exact Or.inl (Or.inl hfile)
    · exact Or.inl (Or.inr ⟨file, hfile, bind_eq_error.2 (Or.inl hname)⟩)

end Address

/-! ## Filters by addresses -/

namespace SymbolSet

variable {s : SymbolSet} {a : Address}

theorem filterByAddress_eq_error_iff {e : QueryError} :
    s.filterByAddress a = .error e ↔ a.toPredicate = .error e := by
  rw [filterByAddress, bind_eq_error]
  constructor
  · rintro (h | ⟨p, -, h⟩)
    · exact h
    · cases h
  · exact Or.inl

/-- A filter by an address fails exactly if one of its parts is no pattern. -/
theorem exists_filterByAddress_error_iff :
    (∃ e, s.filterByAddress a = .error e) ↔
      (∃ p, a.file = some p ∧ ∀ r, Pattern.anywhere p ≠ .ok r) ∨
        ∃ p, a.name = some p ∧ ∀ r, Pattern.wholeName p ≠ .ok r := by
  simp only [filterByAddress_eq_error_iff, Address.toPredicate_eq_error_iff]
  constructor
  · rintro ⟨e, ⟨p, hp, he⟩ | ⟨-, p, hp, he⟩⟩
    · exact Or.inl ⟨p, hp, exists_error_iff.1 ⟨e, he⟩⟩
    · exact Or.inr ⟨p, hp, exists_error_iff.1 ⟨e, he⟩⟩
  · by_cases hfile : ∀ p, a.file = some p → ∃ r, Pattern.anywhere p = .ok r
    · rintro (⟨p, hp, hnot⟩ | ⟨p, hp, hnot⟩)
      · obtain ⟨r, hr⟩ := hfile p hp
        exact absurd hr (hnot r)
      · obtain ⟨e, he⟩ := exists_error_iff.2 hnot
        exact ⟨e, Or.inr ⟨hfile, p, hp, he⟩⟩
    · -- whatever the name part is, the file part is reported
      rintro -
      push Not at hfile
      obtain ⟨p, hp, hnot⟩ := hfile
      obtain ⟨e, he⟩ := exists_error_iff.2 hnot
      exact ⟨e, Or.inl ⟨p, hp, he⟩⟩

/-- What is kept are the members that the address covers, in their order. -/
theorem filterByAddress_keeps {kept : SymbolSet} (h : s.filterByAddress a = .ok kept) :
    kept.graph = s.graph ∧ kept.ambient = s.ambient ∧ kept.toList.Sublist s.toList ∧
      ∀ m, m ∈ kept.toList ↔ m ∈ s.toList ∧ a.Covers m := by
  obtain ⟨q, hq, h⟩ := bind_eq_ok.1 h
  cases h
  refine ⟨rfl, rfl, s.filter_sublist q, fun m => ?_⟩
  rw [toList_filter, Predicate.keep_eq_filter_holds, List.mem_filter,
    Address.holds_toPredicate_iff hq]

/-- What is reported is the text of a part that is no pattern. -/
theorem filterByAddress_reports {e : QueryError} (h : s.filterByAddress a = .error e) :
    ∃ p, e = .badPattern p ∧ (a.file = some p ∨ a.name = some p) := by
  have hbad : ∀ {text p : String}, Pattern.compileAs text p = .error e → e = .badPattern p := by
    intro text p he
    rcases Pattern.compileAs_cases text p with ⟨r, hr⟩ | hbad
    · rw [hr] at he
      cases he
    · rw [hbad] at he
      cases he
      rfl
  rcases Address.toPredicate_eq_error_iff.1 (filterByAddress_eq_error_iff.1 h) with
    ⟨p, hp, he⟩ | ⟨-, p, hp, he⟩
  · exact ⟨p, hbad he, Or.inl hp⟩
  · exact ⟨p, hbad he, Or.inr hp⟩

/-- A filter by an address keeps what the address covers, unless a part is no pattern. -/
structure KeepsCovered (s : SymbolSet) (a : Address) : Prop where
  fails : (∃ e, s.filterByAddress a = .error e) ↔
    (∃ p, a.file = some p ∧ ∀ r, Regex.compile p ≠ .ok r) ∨
      ∃ p, a.name = some p ∧ ∀ r, Regex.compile ("^(?:" ++ p ++ ")$") ≠ .ok r
  reports : ∀ e, s.filterByAddress a = .error e →
    ∃ p, e = .badPattern p ∧ (a.file = some p ∨ a.name = some p)
  keeps : ∀ kept, s.filterByAddress a = .ok kept →
    kept.graph = s.graph ∧ kept.ambient = s.ambient ∧ kept.toList.Sublist s.toList ∧
      ∀ m, m ∈ kept.toList ↔ m ∈ s.toList ∧ a.Covers m

theorem keepsCovered (s : SymbolSet) (a : Address) : s.KeepsCovered a where
  fails := by
    have hfails := exists_filterByAddress_error_iff (s := s) (a := a)
    simp only [ne_eq, Pattern.anywhere_eq_ok_iff, Pattern.wholeName_eq_ok_iff] at hfails
    exact hfails
  reports _ := filterByAddress_reports
  keeps _ := filterByAddress_keeps

end SymbolSet

/-- A written address is read by the grammar, as the parts that stand in it, and a filter by an
address keeps the members that its parts admit. -/
theorem Address.reads_and_covers (text : String) :
    ReadsByGrammar text ∧ ∀ (a : Address) (s : SymbolSet), s.KeepsCovered a :=
  ⟨readsByGrammar text, fun a s => s.keepsCovered a⟩

end CallAtlas
