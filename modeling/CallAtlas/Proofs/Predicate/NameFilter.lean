/-
# `CallAtlas.Proofs.Predicate.NameFilter` — filtering a set by a name pattern

A filter by name goes through an address, and the name of an address may be left
open: by the empty text and by a star.  Such a text is not compiled, and keeps all
members; every other text is compiled as a name pattern, and is reported as it was
written if it is none.
-/
import CallAtlas.Proofs.Outcome
import CallAtlas.Proofs.Predicate.Filter

namespace CallAtlas

/-- A text is taken as a pattern or reported as it was written. -/
theorem Pattern.compileAs_cases (text pattern : String) :
    (∃ r, compileAs text pattern = .ok r) ∨
      compileAs text pattern = .error (.badPattern pattern) := by
  unfold compileAs
  cases Regex.compile text with
  | ok r => exact Or.inl ⟨r, rfl⟩
  | error e => exact Or.inr rfl

theorem Pattern.wholeName_cases (pattern : String) :
    (∃ r, wholeName pattern = .ok r) ∨ wholeName pattern = .error (.badPattern pattern) :=
  compileAs_cases (anchored pattern) pattern

/-- The texts that leave a part of an address open. -/
theorem Address.restriction_of_open {part : String} (h : part = "" ∨ part = "*") :
    restriction part = none :=
  if_pos h

theorem Address.restriction_of_pattern {part : String} (hempty : part ≠ "") (hstar : part ≠ "*") :
    restriction part = some part :=
  if_neg (not_or.2 ⟨hempty, hstar⟩)

namespace SymbolSet

variable {pattern : String}

theorem filterByName_of_open (h : pattern = "" ∨ pattern = "*") (s : SymbolSet) :
    s.filterByName pattern = .ok (s.filter .always).1 := by
  unfold filterByName filterByAddress Address.toPredicate Address.predicates Address.named
    Address.withName
  rw [Address.restriction_of_open h]
  rfl

theorem filterByName_of_pattern (hempty : pattern ≠ "") (hstar : pattern ≠ "*") (s : SymbolSet) :
    s.filterByName pattern =
      (Pattern.wholeName pattern).map fun r => (s.filter (.field (.matchText .name r))).1 := by
  unfold filterByName filterByAddress Address.toPredicate Address.predicates Address.named
    Address.withName
  rw [Address.restriction_of_pattern hempty hstar]
  cases hr : Pattern.wholeName pattern with
  | ok r =>
    simp only [Predicate.fieldMatches, hr]
    rfl
  | error e =>
    simp only [Predicate.fieldMatches, hr]
    rfl

/-- A filter by name fails only because of its pattern. -/
theorem filterByName_cases (pattern : String) (s : SymbolSet) :
    (∃ kept, s.filterByName pattern = .ok kept) ∨
      s.filterByName pattern = .error (.badPattern pattern) := by
  by_cases hopen : pattern = "" ∨ pattern = "*"
  · exact Or.inl ⟨_, filterByName_of_open hopen s⟩
  · obtain ⟨hempty, hstar⟩ := not_or.1 hopen
    rw [filterByName_of_pattern hempty hstar]
    rcases Pattern.wholeName_cases pattern with ⟨r, hr⟩ | herror
    · rw [hr]
      exact Or.inl ⟨_, rfl⟩
    · rw [herror]
      exact Or.inr rfl

/-- A filter keeps the members of which its predicate holds, where asking teaches it nothing. -/
theorem toList_filter_field (s : SymbolSet) (test : FieldTest) :
    (s.filter (.field test)).1.toList = s.toList.filter fun a => test.holds (.symbol a) := by
  rw [toList_filter, Predicate.keep_eq_filter fun _ => rfl]
  rfl

theorem toList_filter_always (s : SymbolSet) : (s.filter .always).1.toList = s.toList := by
  rw [toList_filter, Predicate.keep_eq_filter fun _ => rfl]
  exact List.filter_eq_self.2 fun _ _ => rfl

end SymbolSet

end CallAtlas
