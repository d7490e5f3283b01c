/-
# `CallAtlas.Text.Case` — text in lower case and in upper case

Case mapping goes character by character through the full mapping tables.
Only a capital sigma looks around: with a cased character before it and
none after it, characters that case ignores left aside, it ends a word and
takes the final form.
-/
import CallAtlas.Text.CharClass
import CallAtlas.Unicode.CaseMapping

namespace CallAtlas.Text

open Unicode

/-- The characters of some code points. -/
def ofCodes (codes : List Nat) : List Char := codes.map Char.ofNat

/-- Whether the first character that case does not ignore is a cased one. -/
def casedAhead (cs : List Char) : Bool :=
  match cs.dropWhile caseIgnorable.contains with
  | c :: _ => cased.contains c
  | [] => false

/-- The full lower-case mapping. -/
def lowering : CodeMap := lowerMap.append recentLowerMap

/-- The full upper-case mapping. -/
def raising : CodeMap := upperMap.append recentUpperMap

/-- One character in lower case; ASCII letters need no table. -/
def lowerChar (c : Char) : List Char :=
  if c.toNat < 128 then [c.toLower] else ofCodes (lowering.apply c.toNat)

/-- One character in upper case; ASCII letters need no table. -/
def upperChar (c : Char) : List Char :=
  if c.toNat < 128 then [c.toUpper] else ofCodes (raising.apply c.toNat)

/-- Lower case of the characters after `before`, which is kept nearest first. -/
def lowerFrom (before : List Char) : List Char → List Char
  | [] => []
  | c :: rest =>
      let image :=
        if c = 'Σ' then (if casedAhead before && !casedAhead rest then ['ς'] else ['σ'])
        else lowerChar c
      image ++ lowerFrom (c :: before) rest

/-- Text in lower case. -/
def lowerCase (s : String) : String := String.ofList (lowerFrom [] s.toList)

/-- Text in upper case. -/
def upperCase (s : String) : String := String.ofList (s.toList.flatMap upperChar)

end CallAtlas.Text
