/-
# `CallAtlas.Text.CharClass` — the classes of characters that text is made of

Operations on text know every character that patterns know and those of
the newest version of the standard besides.  Each class here is the one that
patterns use, with the newest characters of that class added.
-/
import CallAtlas.Unicode.Property
import CallAtlas.Unicode.Recent

namespace CallAtlas.Text

open Unicode

/-- Letters, letter numbers and the marks that belong to a letter. -/
def alphabetic : CharSet :=
  CharSet.unions
    (Unicode.alphabetic :: recentLetterMarks ::
      ["Ll", "Lm", "Lo", "Lu", "Nl"].map recentCategory)

/-- Digits, letter numbers and other numbers. -/
def numeric : CharSet :=
  CharSet.unions (category "N" :: ["Nd", "Nl"].map recentCategory)

/-- Characters that have a case.  The newest version counts a new modifier letter
among them, and takes the pharyngeal fricative for a letter of no case. -/
def cased : CharSet :=
  (CharSet.unions
    (Unicode.cased :: .ofText "A7F1" :: ["Ll", "Lu"].map recentCategory)).diff
    (CharSet.singleton 'ʕ')

/-- Characters that the search for a cased neighbour steps over. -/
def caseIgnorable : CharSet :=
  CharSet.unions (Unicode.caseIgnorable :: ["Mn", "Lm"].map recentCategory)

/-- Marks that are drawn onto the character before them. -/
def joining : CharSet :=
  (graphemeExtend.inter (category "M")).union (recentCategory "Mn")

/-- Characters that have a shape of their own: all but controls, format characters,
private and unassigned ones, separators other than the blank, and fillers. -/
def visible : CharSet :=
  ((CharSet.unions
    [category "C", surrogates, category "Zl", category "Zp",
     (category "Zs").diff (CharSet.singleton ' '), defaultIgnorable]).diff recent).compl

end CallAtlas.Text
