/-
# `CallAtlas.Unicode.Recent` — the characters of the newest version

Patterns know the characters of version 16.0; operations on text know those
of version 17.0 as well.  The tables list what that version added: the new
characters by category, and the case mappings that lead to or from them.
-/
import CallAtlas.Unicode.CodeMap

namespace CallAtlas.Unicode

/-- The new code points of each category, under its two-letter name. -/
def recentRows : List (String × List String) := [
  ("Ll", ["A7CF 16EBB-16ED3"]),
  ("Lm", ["A7F1 10EC5 11DD9 16FF2-16FF3 1E6FF"]),
  ("Lo",
    ["88F C5C CDC 10940-10959 10EC6-10EC7 11DB0-11DD8 11DDA-11DDB 187F8-187FF 18D09-18D1E",
     "18D80-18DF2 1E6C0-1E6DE 1E6E0-1E6E2 1E6E4-1E6E5 1E6E7-1E6ED 1E6F0-1E6F4 1E6FE 2B73A-2B73F",
     "2CEA2-2CEAD 323B0-33479"]),
  ("Lu", ["A7CE A7D2 A7D4 16EA0-16EB8"]),
  ("Mc", ["11B61 11B65 11B67"]),
  ("Mn",
    ["1ACF-1ADD 1AE0-1AEB 10EFA-10EFB 11B60 11B62-11B64 11B66 1E6E3 1E6E6 1E6EE-1E6EF 1E6F5"]),
  ("Nd", ["11DE0-11DE9"]),
  ("Nl", ["16FF4-16FF6"]),
  ("Po", ["10ED0"]),
  ("Sc", ["20C1"]),
  ("Sm", ["1CEF0 1F8D0-1F8D8"]),
  ("So",
    ["2B96 FBC3-FBD2 FD90-FD91 FDC8-FDCE 10ED1-10ED8 1CCFA-1CCFC 1CEBA-1CED0 1CEE0-1CEEF 1F6D8",
     "1F777-1F77A 1FA54-1FA57 1FA8A 1FA8E 1FAC8 1FACD 1FAEA 1FAEF 1FBFA"])]

/-- The new characters of a category, by its two-letter name. -/
def recentCategory (short : String) : CharSet :=
  match recentRows.lookup short with
  | some table => CharSet.ofTable table
  | none => .empty

/-- All new characters. -/
def recent : CharSet := CharSet.unions (recentRows.map fun row => CharSet.ofTable row.2)

/-- The new marks that belong to a letter. -/
def recentLetterMarks : CharSet :=
  .ofText "10EFA-10EFB 11B60-11B67 1E6E3 1E6E6 1E6EE-1E6EF 1E6F5"

/-- What the new characters become in lower case. -/
def recentLowerMap : CodeMap := .ofTable
  ["A7CE>A7CF A7D2-A7D4/2>A7D3 16EA0-16EB8>16EBB"]

/-- What the new characters, and those that they are the capitals of, become in upper case. -/
def recentUpperMap : CodeMap := .ofTable
  ["A7CF>A7CE A7D3-A7D5/2>A7D2 16EBB-16ED3>16EA0"]

end CallAtlas.Unicode
