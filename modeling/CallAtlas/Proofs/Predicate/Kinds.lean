/-
# `CallAtlas.Proofs.Predicate.Kinds` — what is asked of the wrong kind of item

A test is of symbols or of paths, and it is false of every item of the other kind:
a mark and a relationship because a path is no symbol, a place because a symbol is no
path, a field because it has no value there.  So a predicate all of whose tests are of
one kind has one answer for all items of the other (`eval_of_other_kind`), namely the
one it has when its tests are false (`blank`); and that is true as soon as a single
test is negated.

Two of the predicates on symbols are negations, those of functions and of external
symbols.  They are true of every path, where the others, and on symbols those of
paths, are false (`answers_of_other_kind`).
-/
import CallAtlas.Predicate.Basic
import CallAtlas.Proofs.Graph.Chain

namespace CallAtlas

/-! ## Kinds -/

/-- What an item may be. -/
inductive ItemKind
  | symbol
  | path
deriving Repr, DecidableEq

/-- What an item is. -/
def Item.kind : Item → ItemKind
  | .symbol _ => .symbol
  | .path _ => .path

/-- The items that have a field.  Texts are those of symbols, and so are their lengths. -/
def NumberField.kind : NumberField → ItemKind
  | .line => .symbol
  | .pathLength => .path
  | .length _ => .symbol

/-- The items that a test can be true of: its left side has to have a value. -/
def FieldTest.kind : FieldTest → ItemKind
  | .compareText _ _ _ | .matchText _ _ | .startsWith _ _ | .endsWith _ _ | .containsText _ _ =>
      .symbol
  | .compareNumber f _ _ | .numberIn f _ => f.kind

/-! ## Fields -/

theorem TextField.get_path (f : TextField) (path : List Symbol) : f.get (.path path) = none := by
  induction f with
  | name => rfl
  | file => rfl
  | fileBase => rfl
  | fileDir => rfl
  | lower f ih => exact congrArg (Option.map Text.lowerCase) ih
  | upper f ih => exact congrArg (Option.map Text.upperCase) ih

theorem TextField.get_of_other_kind (f : TextField) {item : Item} (h : item.kind ≠ .symbol) :
    f.get item = none := by
  cases item with
  | symbol a => exact absurd rfl h
  | path p => exact f.get_path p

theorem NumberField.get_of_other_kind (f : NumberField) {item : Item} (h : item.kind ≠ f.kind) :
    f.get item = none := by
  cases f with
  | line =>
    cases item with
    | symbol a => exact absurd rfl h
    | path p => rfl
  | pathLength =>
    cases item with
    | symbol a => rfl
    | path p => exact absurd rfl h
  | length f => exact congrArg (Option.map fun s => (s.length : Int)) (f.get_of_other_kind h)

/-- A test is false of an item that lacks its field, whatever the test and the operand are. -/
theorem FieldTest.holds_of_other_kind (t : FieldTest) {item : Item} (h : item.kind ≠ t.kind) :
    t.holds item = false := by
  cases t with
  | compareText f op operand =>
    rw [holds, f.get_of_other_kind h]
    rfl
  | matchText f pattern =>
    rw [holds, f.get_of_other_kind h]
    rfl
  | startsWith f start =>
    rw [holds, f.get_of_other_kind h]
    rfl
  | endsWith f ending =>
    rw [holds, f.get_of_other_kind h]
    rfl
  | containsText f part =>
    rw [holds, f.get_of_other_kind h]
    rfl
  | compareNumber f op operand =>
    rw [holds, f.get_of_other_kind h]
    rfl
  | numberIn f values =>
    rw [holds, f.get_of_other_kind h]
    rfl

namespace Predicate

/-! ## Predicates of one kind -/

/-- All tests that a predicate is put together from are of one kind. -/
def Concerns (k : ItemKind) : Predicate → Prop
  | .const _ => True
  | .mark _ | .related _ _ | .relatedToSelf _ => k = .symbol
  | .and left right | .or left right => Concerns k left ∧ Concerns k right
  | .not operand => Concerns k operand
  | .field test => k = test.kind
  | .along _ _ => k = .path

/-- The answer of a predicate all of whose tests are false. -/
def blank : Predicate → Bool
  | .const value => value
  | .and left right => blank left && blank right
  | .or left right => blank left || blank right
  | .not operand => !blank operand
  | .mark _ | .related _ _ | .relatedToSelf _ | .field _ | .along _ _ => false

/-- Asked of an item of the other kind a predicate answers as if all its tests were false, and
asking leaves nothing behind. -/
theorem eval_of_other_kind (g : CallGraph) {k : ItemKind} {item : Item} (hitem : item.kind ≠ k)
    {p : Predicate} (hp : p.Concerns k) : p.eval g item = ⟨p.blank, p, g, []⟩ := by
  have hpath : k = .symbol → ∃ path, item = .path path := by
    rintro rfl
    cases item with
    | symbol a => exact absurd rfl hitem
    | path path => exact ⟨path, rfl⟩
  induction p with
  | const value => rfl
  | mark m =>
    obtain ⟨path, rfl⟩ := hpath hp
    rfl
  | and left right ihl ihr =>
    simp only [eval, ihl hp.1, ihr hp.2, blank, List.append_nil]
  | or left right ihl ihr =>
    simp only [eval, ihl hp.1, ihr hp.2, blank, List.append_nil]
  | not operand ih => simp only [eval, ih hp, blank]
  | related relation target =>
    obtain ⟨path, rfl⟩ := hpath hp
    rfl
  | relatedToSelf relation =>
    obtain ⟨path, rfl⟩ := hpath hp
    rfl
  | field test =>
    cases hp
    simp only [eval, test.holds_of_other_kind hitem, blank]
  | along place pattern =>
    cases item with
    | symbol a => rfl
    | path path => exact absurd hp.symm hitem

theorem holds_of_other_kind (g : CallGraph) {k : ItemKind} {item : Item} (hitem : item.kind ≠ k)
    {p : Predicate} (hp : p.Concerns k) : p.holds g item = p.blank :=
  congrArg Verdict.holds (eval_of_other_kind g hitem hp)

/-! ## The predicates that are given -/

/-- The predicates that are given for symbols. -/
inductive OfSymbols : Predicate → Prop
  | isVariable : OfSymbols .isVariable
  | isFunction : OfSymbols .isFunction
  | isStatic : OfSymbols .isStatic
  | isExternal : OfSymbols .isExternal
  | isDeclaration : OfSymbols .isDeclaration
  | related (relation : Relation) (target : Target) : OfSymbols (.related relation target)
  | callsItself : OfSymbols .callsItself
  | reachesItself : OfSymbols .reachesItself
  | field {test : FieldTest} (htest : test.kind = .symbol) : OfSymbols (.field test)

/-- The predicates that are given for paths. -/
inductive OfPaths : Predicate → Prop
  | along (place : PathPlace) (pattern : Regex) : OfPaths (.along place pattern)
  | field {test : FieldTest} (htest : test.kind = .path) : OfPaths (.field test)

variable {p : Predicate}

theorem OfSymbols.concerns (h : OfSymbols p) : p.Concerns .symbol := by
  cases h with
  | field htest => exact htest.symm
  | _ => rfl

theorem OfPaths.concerns (h : OfPaths p) : p.Concerns .path := by
  cases h with
  | along place pattern => rfl
  | field htest => exact htest.symm

/-- The negations among the predicates on symbols are those of functions and external symbols. -/
theorem OfSymbols.blank_eq_false_iff (h : OfSymbols p) :
    p.blank = false ↔ p ≠ .isFunction ∧ p ≠ .isExternal := by
  cases h with
  | isFunction => exact iff_of_false (by decide) fun h => h.1 rfl
  | isExternal => exact iff_of_false (by decide) fun h => h.2 rfl
  | _ => exact iff_of_true rfl ⟨nofun, nofun⟩

theorem OfPaths.blank_eq (h : OfPaths p) : p.blank = false := by
  cases h <;> rfl

/-- A predicate on symbols is false of a path exactly if it is neither that of functions nor that
of external symbols, whatever the path is, and every predicate on paths is false of a symbol.
Whatever is put together from tests of one kind has one answer for all items of the other. -/
theorem answers_of_other_kind (g : CallGraph) (path : List Symbol) (a : Symbol) :
    (∀ p, OfSymbols p →
      (p.holds g (.path path) = false ↔ p ≠ .isFunction ∧ p ≠ .isExternal)) ∧
    (∀ p, OfPaths p → p.holds g (.symbol a) = false) ∧
    ∀ (k : ItemKind) (p : Predicate), p.Concerns k → ∀ item : Item,
      item.kind ≠ k → p.eval g item = ⟨p.blank, p, g, []⟩ := by
  refine ⟨fun p hp => ?_, fun p hp => ?_, fun k p hp item hitem => ?_⟩
  · rw [holds_of_other_kind g (by simp [Item.kind]) hp.concerns]
    exact hp.blank_eq_false_iff
  · rw [holds_of_other_kind g (by simp [Item.kind]) hp.concerns]
    exact hp.blank_eq
  · exact eval_of_other_kind g hitem hp

/-- A variable. -/
def lone : Symbol := ⟨⟨"v", "v.c", 1, true, false, false⟩, 0⟩

/-- A graph of one variable, callers computed. -/
def loneGraph : CallGraph :=
  ((CallGraph.new 0 .standard).addSymbol lone.toSymbolDecl).1.computeCallers

/-- The path of a variable passes as a function, which the variable does not, and as external,
but not as a variable. -/
theorem path_of_variable_isFunction :
    loneGraph.Has lone ∧ isFunction.holds loneGraph (.symbol lone) = false ∧
      isVariable.holds loneGraph (.path [lone]) = false ∧
      isFunction.holds loneGraph (.path [lone]) = true ∧
      isExternal.holds loneGraph (.path [lone]) = true ∧
      ¬∀ p, OfSymbols p → ∀ g path, p.holds g (.path path) = false := by
  have hpath : isFunction.holds loneGraph (.path [lone]) = true := rfl
  refine ⟨rfl, rfl, rfl, hpath, rfl, fun h => ?_⟩
  exact Bool.false_ne_true ((h _ .isFunction loneGraph [lone]).symm.trans hpath)

end Predicate

end CallAtlas
