/-
# `CallAtlas.Predicate.Field` — fields of symbols and paths

A field has a value for some items and none for others: names, files and lines
are those of symbols, a length of its own only a path has.  Tests on a field
are false of an item without it, whatever the test; comparators sort such an
item before those that have the field.
-/
import CallAtlas.Path.Basic
import CallAtlas.Pattern
import CallAtlas.SymbolSet.Basic
import CallAtlas.Text.Case

namespace CallAtlas

/-- What a predicate is asked of. -/
inductive Item
  | symbol (s : Symbol)
  | path (symbols : List Symbol)
deriving Repr

/-- A field whose values are texts. -/
inductive TextField
  | name
  | file
  | fileBase
  | fileDir
  | lower (field : TextField)
  | upper (field : TextField)
deriving Repr, DecidableEq

/-- A field whose values are numbers. -/
inductive NumberField
  | line
  | pathLength
  | length (field : TextField)
deriving Repr, DecidableEq

/-- The value of a field, if the item has it. -/
def TextField.get : TextField → Item → Option String
  | .name, .symbol s => some s.name
  | .file, .symbol s => some s.file
  | .fileBase, .symbol s => some s.fileBase
  | .fileDir, .symbol s => some s.fileDir
  | .lower f, item => (f.get item).map Text.lowerCase
  | .upper f, item => (f.get item).map Text.upperCase
  | .name, .path _ | .file, .path _ | .fileBase, .path _ | .fileDir, .path _ => none

/-- The value of a field, if the item has it.  The length of a text counts its characters. -/
def NumberField.get : NumberField → Item → Option Int
  | .line, .symbol s => some s.line
  | .line, .path _ => none
  | .pathLength, .symbol _ => none
  | .pathLength, .path p => some p.length
  | .length f, item => (f.get item).map fun s => (s.length : Int)

/-- The operators of comparisons. -/
inductive CompareOp
  | eq
  | ne
  | lt
  | le
  | gt
  | ge
deriving Repr, DecidableEq

/-- Whether an operator holds of two values that stand in an order. -/
def CompareOp.holds : CompareOp → Ordering → Bool
  | .eq, o => o == .eq
  | .ne, o => o != .eq
  | .lt, o => o == .lt
  | .le, o => o != .gt
  | .gt, o => o == .gt
  | .ge, o => o != .lt

/-- The right side of a comparison: a value, or another field of the same item. -/
inductive Operand (α F : Type)
  | value (v : α)
  | field (f : F)
deriving Repr

/-- A test on a field. -/
inductive FieldTest
  | compareText (field : TextField) (op : CompareOp) (operand : Operand String TextField)
  | matchText (field : TextField) (pattern : Regex)
  | startsWith (field : TextField) (start : String)
  | endsWith (field : TextField) (ending : String)
  | containsText (field : TextField) (part : String)
  | compareNumber (field : NumberField) (op : CompareOp) (operand : Operand Int NumberField)
  | numberIn (field : NumberField) (values : List Int)
deriving Repr

/-- Whether one list of characters stands somewhere in another. -/
def hasPart (part : List Char) : List Char → Bool
  | [] => part.isEmpty
  | c :: cs => part.isPrefixOf (c :: cs) || hasPart part cs

/-- The value of an operand, if the item has it. -/
def Operand.get {α F : Type} (lookup : F → Item → Option α) (item : Item) : Operand α F → Option α
  | .value v => some v
  | .field f => lookup f item

/-- Whether both sides of a comparison have values that the operator holds of. -/
def compareValues {α : Type} [Ord α] (op : CompareOp) (a b : Option α) : Bool :=
  match a, b with
  | some a, some b => op.holds (compare a b)
  | _, _ => false

/-- Whether a test holds of an item. -/
def FieldTest.holds (item : Item) : FieldTest → Bool
  | .compareText f op operand => compareValues op (f.get item) (operand.get TextField.get item)
  | .matchText f pattern => (f.get item).any pattern.isMatch
  | .startsWith f start => (f.get item).any fun s => start.toList.isPrefixOf s.toList
  | .endsWith f ending => (f.get item).any fun s => ending.toList.isSuffixOf s.toList
  | .containsText f part => (f.get item).any fun s => hasPart part.toList s.toList
  | .compareNumber f op operand => compareValues op (f.get item) (operand.get NumberField.get item)
  | .numberIn f values => (f.get item).any values.contains

/-- What a comparator orders by. -/
inductive SortKey
  | text (field : TextField)
  | number (field : NumberField)
deriving Repr, DecidableEq

/-- An order of items by one field. -/
structure Comparator where
  key : SortKey
  descending : Bool
deriving Repr, DecidableEq

namespace Comparator

/-- The ascending order by a field. -/
def ascending (key : SortKey) : Comparator := ⟨key, false⟩

/-- The order in the other direction. -/
def reversed (c : Comparator) : Comparator := { c with descending := !c.descending }

/-- The descending order by a field. -/
def descendingBy (key : SortKey) : Comparator := (ascending key).reversed

/-- How two items compare in ascending order; an item without the field comes first. -/
def compareKey (key : SortKey) (a b : Item) : Ordering :=
  match key with
  | .text f => compare (f.get a) (f.get b)
  | .number f => compare (f.get a) (f.get b)

/-- How two items compare. -/
def compareItems (c : Comparator) (a b : Item) : Ordering :=
  let o := compareKey c.key a b
  if c.descending then o.swap else o

/-- How two items compare by several comparators: the first that tells them apart decides. -/
def compareChain : List Comparator → Item → Item → Ordering
  | [], _, _ => .eq
  | c :: cs, a, b =>
      match c.compareItems a b with
      | .eq => compareChain cs a b
      | o => o

end Comparator

namespace SymbolSet

/-- Sorts the members in place by several comparators; without one, by name. -/
def sort (s : SymbolSet) (cs : List Comparator) : SymbolSet :=
  let cs := if cs.isEmpty then [Comparator.ascending (.text .name)] else cs
  s.sortBy fun a b => Comparator.compareChain cs (.symbol a) (.symbol b)

end SymbolSet

end CallAtlas
