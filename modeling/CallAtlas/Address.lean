/-
# `CallAtlas.Address` — where a symbol is to be found

An address restricts the file by a search pattern, the line by a list, and the
name by a name pattern; each part may be left open.  In writing the parts stand
between colons, as `name`, `file:name` or `file:line:name`, and an empty part
or a star leaves it open.
-/
import CallAtlas.Graph.Symbol
import CallAtlas.QueryError
import CallAtlas.Text.Fields

namespace CallAtlas

/-- The lines that an address admits. -/
inductive LineSelector
  | any
  | exact (line : Nat)
  | oneOf (lines : List Nat)
deriving Repr, DecidableEq, Inhabited

/-- Where a symbol is to be found. -/
structure Address where
  /-- a pattern that some part of the file's path matches -/
  file : Option String
  line : LineSelector
  /-- a pattern that the whole name matches -/
  name : Option String
deriving Repr, DecidableEq, Inhabited

namespace Address

/-- A part of an address: nothing, if it is empty or a star. -/
def restriction (part : String) : Option String :=
  if part = "" ∨ part = "*" then none else some part

/-- Every symbol. -/
def any : Address := ⟨none, .any, none⟩

/-- The address with a name pattern. -/
def withName (a : Address) (pattern : String) : Address := { a with name := restriction pattern }

/-- The address with a file pattern. -/
def withFile (a : Address) (pattern : String) : Address := { a with file := restriction pattern }

/-- The address with some lines. -/
def withLine (a : Address) (line : LineSelector) : Address := { a with line := line }

/-- The symbols whose name matches a pattern. -/
def named (pattern : String) : Address := any.withName pattern

/-- A number of decimal digits, perhaps with a plus sign, not above the largest line. -/
def lineNumber? (cs : List Char) : Option Nat :=
  let digits := match cs with
    | '+' :: rest => rest
    | _ => cs
  if digits ≠ [] ∧ digits.all Json.isDigit ∧ Json.digitsValue digits ≤ SymbolDecl.largestLine then
    some (Json.digitsValue digits)
  else none

/-- A list of line numbers with commas between them and white space around each. -/
def lineList? (cs : List Char) : Option (List Nat) :=
  (Text.fields ',' cs).mapM fun entry => lineNumber? (Text.trim entry)

/-- The line part of an address. -/
def lineSelector? (part : List Char) : Option LineSelector :=
  if part = [] ∨ part = ['*'] then some .any
  else
    match lineList? part with
    | some [line] => some (.exact line)
    | some lines => some (.oneOf lines)
    | none => none

/-- The parts of a written address: file, line and name. -/
def parts? (text : List Char) : Option (List Char × List Char × List Char) :=
  match Text.fields ':' text with
  | [name] => some ([], [], name)
  | [file, name] => some (file, [], name)
  | [file, line, name] => some (file, line, name)
  | _ => none

/-- Reads an address. -/
def ofText (text : String) : Except QueryError Address :=
  match parts? text.toList with
  | none => .error (.invalidAddress text "expected name, file:name or file:line:name")
  | some (file, line, name) =>
      match lineSelector? line with
      | none => .error (.invalidAddress text "line must be a number or a comma-separated list")
      | some selector =>
          .ok ⟨restriction (String.ofList file), selector, restriction (String.ofList name)⟩

end Address

end CallAtlas
