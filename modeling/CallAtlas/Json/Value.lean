/-
# `CallAtlas.Json.Value` — JSON values and how they are written

Values keep what a reader of records needs to see: the members of an
object in their order, with repeated keys, and numbers as the text that they
were written with.  A string may hold the escape of half a surrogate pair; it
stands for no text then, and its value is `none`.

A value is written in one of two layouts: without any white space, or with
one item a line and two blanks for each level.
-/

namespace CallAtlas

/-- A JSON value. -/
inductive Json
  | null
  | bool (value : Bool)
  | number (digits : List Char)
  | string (text : Option String)
  | array (items : List Json)
  | object (members : List (Option String × Json))
deriving Repr, Inhabited

namespace Json

/-- A string. -/
def ofString (s : String) : Json := .string (some s)

/-- A natural number. -/
def ofNat (n : Nat) : Json := .number (Nat.toDigits 10 n)

/-- A hexadecimal digit, in lower case. -/
def hexDigit (n : Nat) : Char := Nat.digitChar n

/-- One character inside a string. -/
def escape (c : Char) : List Char :=
  if c = '"' ∨ c = '\\' then ['\\', c]
  else if c = '\n' then ['\\', 'n']
  else if c = '\t' then ['\\', 't']
  else if c = '\r' then ['\\', 'r']
  else if c = '\x08' then ['\\', 'b']
  else if c = '\x0c' then ['\\', 'f']
  else if c.toNat < 32 then
    ['\\', 'u', '0', '0', hexDigit (c.toNat / 16), hexDigit (c.toNat % 16)]
  else [c]

/-- A string with its quotes. -/
def writeString (s : String) : List Char :=
  '"' :: s.toList.flatMap escape ++ ['"']

/-- The key of a member, or a string value; one that stands for no text is written empty. -/
def writeText (s : Option String) : List Char := writeString (s.getD "")

mutual

/-- A value without white space. -/
def compact : Json → List Char
  | .null => "null".toList
  | .bool true => "true".toList
  | .bool false => "false".toList
  | .number digits => digits
  | .string s => writeText s
  | .array items => '[' :: compactItems items ++ [']']
  | .object members => '\x7b' :: compactMembers members ++ ['\x7d']

/-- The items of an array without white space. -/
def compactItems : List Json → List Char
  | [] => []
  | [v] => compact v
  | v :: vs => compact v ++ ',' :: compactItems vs

/-- The members of an object without white space. -/
def compactMembers : List (Option String × Json) → List Char
  | [] => []
  | [(k, v)] => writeText k ++ ':' :: compact v
  | (k, v) :: ms => writeText k ++ ':' :: compact v ++ ',' :: compactMembers ms

end

/-- A new line and the blanks of a level. -/
def newLine (level : Nat) : List Char := '\n' :: List.replicate (2 * level) ' '

mutual

/-- A value with one item a line, inside `level` others. -/
def pretty (level : Nat) : Json → List Char
  | .null => "null".toList
  | .bool true => "true".toList
  | .bool false => "false".toList
  | .number digits => digits
  | .string s => writeText s
  | .array [] => ['[', ']']
  | .array (v :: vs) =>
      '[' :: newLine (level + 1) ++ prettyItems (level + 1) (v :: vs) ++ newLine level ++ [']']
  | .object [] => ['\x7b', '\x7d']
  | .object (m :: ms) =>
      '\x7b' :: newLine (level + 1) ++ prettyMembers (level + 1) (m :: ms) ++ newLine level ++ ['\x7d']

/-- The items of an array, one a line. -/
def prettyItems (level : Nat) : List Json → List Char
  | [] => []
  | [v] => pretty level v
  | v :: vs => pretty level v ++ ',' :: newLine level ++ prettyItems level vs

/-- The members of an object, one a line. -/
def prettyMembers (level : Nat) : List (Option String × Json) → List Char
  | [] => []
  | [(k, v)] => writeText k ++ ':' :: ' ' :: pretty level v
  | (k, v) :: ms =>
      writeText k ++ ':' :: ' ' :: pretty level v ++ ',' :: newLine level ++ prettyMembers level ms

end

/-- A value without white space, as a string. -/
def toCompact (v : Json) : String := String.ofList v.compact

/-- A value with one item a line, as a string. -/
def toPretty (v : Json) : String := String.ofList (v.pretty 0)

end Json

end CallAtlas
