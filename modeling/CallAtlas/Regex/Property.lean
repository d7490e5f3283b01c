/-
# `CallAtlas.Regex.Property` — the names of character properties in patterns

A property is asked for by one name, which may be that of a yes-or-no
property, a general category or a script, or by a name and a value.  Names are
compared without regard to case, blanks, low lines and hyphens, and an
`is` in front of them counts nothing.
-/
import CallAtlas.Unicode.Age
import CallAtlas.Unicode.Property
import CallAtlas.Unicode.ScriptExtension
import CallAtlas.Unicode.Segmentation

namespace CallAtlas.Regex

open Unicode

/-- A name without its `is` in front. -/
def dropIs : List Char → List Char × Bool
  | a :: b :: rest =>
      if (a = 'i' ∨ a = 'I') ∧ (b = 's' ∨ b = 'S') then (rest, true) else (a :: b :: rest, false)
  | cs => (cs, false)

/-- A name in the form in which names are compared.  Of `isc` the whole is kept: it is an
abbreviation of its own, and not `c`. -/
def normalName (name : String) : String :=
  let (cs, dropped) := dropIs name.toList
  let kept := (cs.filter fun c => c.toNat < 128 && c != ' ' && c != '_' && c != '-').map Char.toLower
  if dropped && kept == ['c'] then "isc" else String.ofList kept

/-- The characters of a general category, by a compared name. -/
def categoryNamed? (name : String) : Option CharSet :=
  if name = "any" then some .all
  else if name = "ascii" then some ⟨[(0, 127)]⟩
  else if name = "assigned" then some unassigned.compl
  else (categoryNames.find? fun row => row.1.contains name).map fun row => category row.2

/-- The characters that one name asks for.  Three short names are those of categories and
not of the properties that share them. -/
def namedProperty? (name : String) : Option CharSet :=
  let name := normalName name
  let yesOrNo := if name = "cf" ∨ name = "sc" ∨ name = "lc" then none else property? name
  yesOrNo.or ((categoryNamed? name).or (script? name))

/-- The properties that take a value. -/
inductive ValuedProperty
  | generalCategory
  | script
  | scriptExtension
  | age
  | graphemeBreak
  | wordBreak
  | sentenceBreak
deriving Repr, DecidableEq

/-- The property of a compared name. -/
def ValuedProperty.ofName? (name : String) : Option ValuedProperty :=
  if name = "gc" ∨ name = "generalcategory" then some .generalCategory
  else if name = "sc" ∨ name = "script" then some .script
  else if name = "scx" ∨ name = "scriptextensions" then some .scriptExtension
  else if name = "age" then some .age
  else if name = "gcb" ∨ name = "graphemeclusterbreak" then some .graphemeBreak
  else if name = "wb" ∨ name = "wordbreak" then some .wordBreak
  else if name = "sb" ∨ name = "sentencebreak" then some .sentenceBreak
  else none

/-- The characters whose property has the value. -/
def valuedProperty? (name value : String) : Option CharSet :=
  let value := normalName value
  match ValuedProperty.ofName? (normalName name) with
  | some .generalCategory => categoryNamed? value
  | some .script => script? value
  | some .scriptExtension => scriptExtension? value
  | some .age => age? value
  | some .graphemeBreak => graphemeBreak? value
  | some .wordBreak => wordBreak? value
  | some .sentenceBreak => sentenceBreak? value
  | none => none

end CallAtlas.Regex
