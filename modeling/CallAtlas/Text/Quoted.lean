/-
# `CallAtlas.Text.Quoted` — text between quotes, for the eye of a reader

Quoted text shows every character that prints as itself.  Line breaks, tabs,
the null character, backslashes and double quotes have short escapes; marks
that would join the character before them and characters that do not print
are written by their code.  Names and paths are quoted alike.
-/
import CallAtlas.Text.CharClass

namespace CallAtlas.Text

/-- The digits of a number in hexadecimal, in lower case. -/
def hexDigits (n : Nat) : List Char := Nat.toDigits 16 n

/-- A character by its code: `\u`, then the code between braces. -/
def codeEscape (c : Char) : List Char :=
  ['\\', 'u', '\x7b'] ++ hexDigits c.toNat ++ ['\x7d']

/-- Whether a character has to be written by its code. -/
def needsCode (c : Char) : Bool :=
  if c.toNat < 128 then c.toNat < 32 || c.toNat == 127
  else joining.contains c || !visible.contains c

/-- One character inside quotes. -/
def escapeChar (c : Char) : List Char :=
  if c = '\x00' then ['\\', '0']
  else if c = '\t' then ['\\', 't']
  else if c = '\r' then ['\\', 'r']
  else if c = '\n' then ['\\', 'n']
  else if c = '\\' ∨ c = '"' then ['\\', c]
  else if needsCode c then codeEscape c
  else [c]

/-- Text between double quotes. -/
def quoted (s : String) : String :=
  String.ofList ('"' :: s.toList.flatMap escapeChar ++ ['"'])

end CallAtlas.Text
