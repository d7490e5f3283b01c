/-
# `CallAtlas.Proofs.Predicate.Selection` — name patterns select by whole names

Name patterns are taken in many places: where the name of a symbol has to match,
where a path is to begin or to be cut, where a relationship has its target.  All of
them compile the pattern in the same way, so what it accepts is the same everywhere
(`SelectsWhole`): the names that the pattern matches from end to end.

That takes a text which can be read as a pattern of its own.  A text which cannot,
but which compiles between the anchors all the same, selects by something else; that
the two agree for every text is what the anchors were meant for, and
`selects_whole_iff_keeps_to_group` says for which texts they do.
-/
import CallAtlas.Proofs.Predicate.Inquiry
import CallAtlas.Proofs.Predicate.NameFilter
import CallAtlas.Proofs.Regex.WholeName
import CallAtlas.Session.Query

namespace CallAtlas

open Outcome (bind_eq_ok)

/-- A symbol with a property stands at the place. -/
def PathPlace.Shows (Q : Symbol → Prop) : PathPlace → List Symbol → Prop
  | .anywhere, symbols => ∃ s ∈ symbols, Q s
  | .start, symbols => ∃ s, symbols.head? = some s ∧ Q s
  | .finish, symbols => ∃ s, symbols.getLast? = some s ∧ Q s

/-- A symbol with a property stands at the position, and none before it. -/
def ShowsFirst (Q : Symbol → Prop) (symbols : List Symbol) (i : Nat) : Prop :=
  ∃ h : i < symbols.length, Q symbols[i] ∧ ∀ j, (hj : j < i) → ¬Q symbols[j]

namespace Regex

variable {r : Regex} {Q : Symbol → Prop}

theorem holds_place_iff (h : ∀ s : Symbol, r.isMatch s.name = true ↔ Q s) (place : PathPlace)
    (symbols : List Symbol) : place.holds r symbols = true ↔ place.Shows Q symbols := by
  cases place with
  | anywhere => simp only [PathPlace.holds, PathPlace.Shows, List.any_eq_true, h]
  | start => simp only [PathPlace.holds, PathPlace.Shows, Option.any_eq_true, h]
  | finish => simp only [PathPlace.holds, PathPlace.Shows, Option.any_eq_true, h]

theorem resolve_name_iff (h : ∀ s : Symbol, r.isMatch s.name = true ↔ Q s) (path : CallPath)
    (whole i : Nat) :
    (PathBound.name r).resolve path whole = .ok i ↔ ShowsFirst Q path.symbols i := by
  have hfind : path.symbols.findIdx? (fun s => r.isMatch s.name) = some i ↔
      ShowsFirst Q path.symbols i := by
    simp only [List.findIdx?_eq_some_iff_getElem, ShowsFirst, h]
  rw [← hfind, PathBound.resolve]
  cases path.symbols.findIdx? (fun s => r.isMatch s.name) <;> simp

end Regex

namespace Pattern

/-- A pattern is accepted wherever names are selected by patterns, and selects those that an
expression matches as a whole.  Where members are filtered by their names, an empty pattern and
a star are not patterns. -/
structure SelectsWhole (pattern : String) (e : Regex.Expr) : Prop where
  fields : ∀ f : TextField, ∃ p, Predicate.fieldMatches f pattern = .ok p ∧
    ∀ g item, p.holds g item = true ↔ ∃ text, f.get item = some text ∧ e.MatchesWhole text.toList
  members : pattern ≠ "" → pattern ≠ "*" → ∀ s : SymbolSet,
    ∃ kept, s.filterByName pattern = .ok kept ∧
      ∀ a, a ∈ kept.toList ↔ a ∈ s.toList ∧ e.MatchesWhole a.name.toList
  bounds : ∃ b, BoundExpr.build (.name pattern) = .ok b ∧
    ∀ (path : CallPath) (whole i : Nat), b.resolve path whole = .ok i ↔
      ShowsFirst (fun s => e.MatchesWhole s.name.toList) path.symbols i
  targets : ∃ t, Target.ofPattern pattern = .ok t ∧
    ∀ (relation : Relation) g a, (Predicate.related relation t).holds g (.symbol a) = true ↔
      ∃ b ∈ (relation.imageOf g a).toList,
        ∃ c, g.Has c ∧ c.id = b.id ∧ e.MatchesWhole c.name.toList
  places : ∀ place : PathPlace, ∃ p, Predicate.pathMatches place pattern = .ok p ∧
    ∀ g symbols, p.holds g (.path symbols) = true ↔
      place.Shows (fun s => e.MatchesWhole s.name.toList) symbols

section Accepted

variable {pattern : String} {e : Regex.Expr} {r : Regex} (hr : wholeName pattern = .ok r)
include hr

theorem fieldMatches_eq (f : TextField) :
    Predicate.fieldMatches f pattern = .ok (.field (.matchText f r)) := by
  rw [Predicate.fieldMatches, hr]
  rfl

/-- Filtering by a name pattern keeps the members whose name it accepts. -/
theorem filterByName_eq (hempty : pattern ≠ "") (hstar : pattern ≠ "*") (s : SymbolSet) :
    s.filterByName pattern = .ok (s.filter (.field (.matchText .name r))).1 := by
  rw [SymbolSet.filterByName_of_pattern hempty hstar, hr]
  rfl

theorem selectsWhole
    (hwhole : ∀ name : String, r.isMatch name = true ↔ e.MatchesWhole name.toList) :
    SelectsWhole pattern e where
  fields f := by
    refine ⟨_, fieldMatches_eq hr f, fun g item => ?_⟩
    show (f.get item).any r.isMatch = true ↔ _
    simp only [Option.any_eq_true, hwhole]
  members hempty hstar s := by
    refine ⟨_, filterByName_eq hr hempty hstar s, fun a => ?_⟩
    rw [SymbolSet.toList_filter, Predicate.keep_eq_filter fun _ => rfl, List.mem_filter]
    exact and_congr_right fun _ => hwhole a.name
  bounds := by
    refine ⟨.name r, ?_, Regex.resolve_name_iff fun s => hwhole s.name⟩
    rw [BoundExpr.build, hr]
    rfl
  targets := by
    refine ⟨_, Target.ofPattern_eq hr, fun relation g a => ?_⟩
    rw [Predicate.holds_named_iff]
    simp only [Target.Meets, hwhole]
  places place := by
    refine ⟨.along place r, ?_, fun g symbols => ?_⟩
    · rw [Predicate.pathMatches, hr]
      rfl
    · exact Regex.holds_place_iff (fun s => hwhole s.name) place symbols

end Accepted

/-- The anchors do what they are meant for exactly where the text keeps to the group that it is
put into.  A pattern that can be read alone is accepted exactly if it leaves the closing to the
group and the limits admit it with the anchors; and wherever it is accepted, it selects the
names that it matches as a whole. -/
theorem selects_whole_iff_keeps_to_group (pattern : String) :
    (AnchorsWhole pattern ↔ KeepsToGroup pattern) ∧
      ∀ p, Regex.read pattern.toList = .ok p →
        ((∃ r, wholeName pattern = .ok r) ↔
          ¬Regex.TakesClosing pattern.toList ∧ p.anchored.Fits) ∧
        ((∃ r, wholeName pattern = .ok r) → SelectsWhole pattern p.expr) := by
  refine ⟨anchorsWhole_iff, fun p hp => ⟨exists_wholeName_iff hp, ?_⟩⟩
  rintro ⟨r, hr⟩
  exact selectsWhole hr (isMatch_wholeName_iff hp hr)

/-- A text that closes the group around it is no pattern and is accepted, for names that only
begin with its first half; and a pattern with a comment at its end is not accepted. -/
theorem accepts_beginning_of_name :
    (∀ own, Regex.compile "a)|(b" ≠ .ok own) ∧
      (∃ r, wholeName "a)|(b" = .ok r ∧ r.isMatch "axyz" = true) ∧
      (∃ own, Regex.compile "(?x)a #b" = .ok own) ∧
      (∀ r, wholeName "(?x)a #b" ≠ .ok r) ∧
      ¬AnchorsWhole "a)|(b" ∧ ¬AnchorsWhole "(?x)a #b" := by
  have hhalves : ∀ own, Regex.compile "a)|(b" ≠ .ok own := by
    have hnone : (Regex.compile "a)|(b").toOption.isNone = true := by decide +kernel
    intro own hown
    rw [hown] at hnone
    cases hnone
  have hbeginning : ∃ r, wholeName "a)|(b" = .ok r ∧ r.isMatch "axyz" = true := by
    have hany : (wholeName "a)|(b").toOption.any (·.isMatch "axyz") = true := by decide +kernel
    obtain ⟨r, hr, hmatch⟩ := (Option.any_eq_true _ _).1 hany
    exact ⟨r, Outcome.eq_ok_of_toOption_eq_some hr, hmatch⟩
  have hcomment : ∃ own, Regex.compile "(?x)a #b" = .ok own := by
    have hsome : (Regex.compile "(?x)a #b").toOption.isSome = true := by decide +kernel
    obtain ⟨own, hown⟩ := Option.isSome_iff_exists.1 hsome
    exact ⟨own, Outcome.eq_ok_of_toOption_eq_some hown⟩
  have hrefused : ∀ r, wholeName "(?x)a #b" ≠ .ok r := by
    have hnone : (wholeName "(?x)a #b").toOption.isNone = true := by decide +kernel
    intro r hr
    rw [hr] at hnone
    cases hnone
  refine ⟨hhalves, hbeginning, hcomment, hrefused, fun h => ?_, fun h => ?_⟩
  · obtain ⟨r, hr, -⟩ := hbeginning
    obtain ⟨own, hown⟩ := h.compiles.1 ⟨r, hr⟩
    exact hhalves own hown
  · obtain ⟨r, hr⟩ := h.compiles.2 hcomment
    exact hrefused r hr

end Pattern

end CallAtlas
