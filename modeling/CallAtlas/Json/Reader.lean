/-
# `CallAtlas.Json.Reader` — reading JSON text

The whole text must be one value with white space around it.  White space is
the blank, the tab, the line feed and the carriage return and nothing else;
numbers have no superfluous zeros and no plus sign; strings hold no
control characters.
-/
import CallAtlas.Json.Value

namespace CallAtlas.Json

/-- Whether a character is white space between tokens. -/
def isBlank (c : Char) : Bool := c = ' ' || c = '\t' || c = '\n' || c = '\r'

/-- Skips white space. -/
def skip (cs : List Char) : List Char := cs.dropWhile isBlank

/-- The value of a hexadecimal digit. -/
def hexValue? (c : Char) : Option Nat :=
  if '0' ≤ c ∧ c ≤ '9' then some (c.toNat - 48)
  else if 'a' ≤ c ∧ c ≤ 'f' then some (c.toNat - 87)
  else if 'A' ≤ c ∧ c ≤ 'F' then some (c.toNat - 55)
  else none

/-- The number of four hexadecimal digits. -/
def hexFour? (a b c d : Char) : Option Nat := do
  let a ← hexValue? a
  let b ← hexValue? b
  let c ← hexValue? c
  let d ← hexValue? d
  some (((a * 16 + b) * 16 + c) * 16 + d)

/-- The character of a one-letter escape. -/
def shortEscape? : Char → Option Char
  | '"' => some '"'
  | '\\' => some '\\'
  | '/' => some '/'
  | 'b' => some '\x08'
  | 'f' => some '\x0c'
  | 'n' => some '\n'
  | 'r' => some '\r'
  | 't' => some '\t'
  | _ => none

/-- What a string is made of: characters, and 16-bit codes written as escapes. -/
inductive Unit16
  | char (c : Char)
  | code (n : Nat)
deriving Repr

/-- The inside of a string up to its closing quote, which is left out of the rest. -/
def units : List Char → Option (List Unit16 × List Char)
  | [] => none
  | '"' :: rest => some ([], rest)
  | '\\' :: 'u' :: a :: b :: c :: d :: rest => do
      let n ← hexFour? a b c d
      let (us, left) ← units rest
      some (.code n :: us, left)
  | '\\' :: e :: rest => do
      let c ← shortEscape? e
      let (us, left) ← units rest
      some (.char c :: us, left)
  | c :: rest =>
      if c = '\\' ∨ c.toNat < 32 then none
      else do
        let (us, left) ← units rest
        some (.char c :: us, left)

/-- The text of a string.  Two codes of a surrogate pair are one character; half a pair
makes the string stand for no text. -/
def textOf : List Unit16 → Option (List Char)
  | [] => some []
  | .char c :: us => (textOf us).map (c :: ·)
  | .code hi :: .code lo :: us =>
      if 0xD800 ≤ hi ∧ hi ≤ 0xDBFF then
        if 0xDC00 ≤ lo ∧ lo ≤ 0xDFFF then
          (textOf us).map (Char.ofNat (0x10000 + (hi - 0xD800) * 0x400 + (lo - 0xDC00)) :: ·)
        else none
      else if 0xDC00 ≤ hi ∧ hi ≤ 0xDFFF then none
      else (textOf (.code lo :: us)).map (Char.ofNat hi :: ·)
  | .code n :: us =>
      if 0xD800 ≤ n ∧ n ≤ 0xDFFF then none else (textOf us).map (Char.ofNat n :: ·)

/-- A string after its opening quote. -/
def readString (cs : List Char) : Option (Option String × List Char) := do
  let (us, rest) ← units cs
  some ((textOf us).map String.ofList, rest)

/-- Whether a character is a decimal digit. -/
def isDigit (c : Char) : Bool := '0' ≤ c && c ≤ '9'

/-- At least one digit. -/
def readDigits (cs : List Char) : Option (List Char × List Char) :=
  match cs.takeWhile isDigit with
  | [] => none
  | ds => some (ds, cs.dropWhile isDigit)

/-- The digits before the point: a zero alone, or any that do not start with zero. -/
def readWhole (cs : List Char) : Option (List Char × List Char) := do
  let (ds, rest) ← readDigits cs
  match ds with
  | '0' :: _ :: _ => none
  | _ => some (ds, rest)

/-- The point and the digits after it, if there is a point. -/
def readFraction : List Char → Option (List Char × List Char)
  | '.' :: cs => (readDigits cs).map fun (ds, rest) => ('.' :: ds, rest)
  | cs => some ([], cs)

/-- The exponent, if there is one. -/
def readExponent : List Char → Option (List Char × List Char)
  | e :: cs =>
      if e = 'e' ∨ e = 'E' then
        match cs with
        | s :: more =>
            if s = '+' ∨ s = '-' then (readDigits more).map fun (ds, rest) => (e :: s :: ds, rest)
            else (readDigits cs).map fun (ds, rest) => (e :: ds, rest)
        | [] => none
      else some ([], e :: cs)
  | [] => some ([], [])

/-- A number without its sign. -/
def readUnsigned (cs : List Char) : Option (List Char × List Char) := do
  let (whole, rest) ← readWhole cs
  let (fraction, rest) ← readFraction rest
  let (exponent, rest) ← readExponent rest
  some (whole ++ fraction ++ exponent, rest)

/-- A number. -/
def readNumber : List Char → Option (List Char × List Char)
  | '-' :: cs => (readUnsigned cs).map fun (ds, rest) => ('-' :: ds, rest)
  | cs => readUnsigned cs

mutual

/-- A value at the start of the text; `fuel` bounds the number of values in it. -/
def readValue : (fuel : Nat) → List Char → Option (Json × List Char)
  | 0, _ => none
  | fuel + 1, cs =>
      match skip cs with
      | 'n' :: 'u' :: 'l' :: 'l' :: rest => some (.null, rest)
      | 't' :: 'r' :: 'u' :: 'e' :: rest => some (.bool true, rest)
      | 'f' :: 'a' :: 'l' :: 's' :: 'e' :: rest => some (.bool false, rest)
      | '"' :: rest => (readString rest).map fun (s, left) => (.string s, left)
      | '[' :: rest =>
          match skip rest with
          | ']' :: left => some (.array [], left)
          | _ => (readItems fuel rest).map fun (vs, left) => (.array vs, left)
      | '\x7b' :: rest =>
          match skip rest with
          | '\x7d' :: left => some (.object [], left)
          | _ => (readMembers fuel rest).map fun (ms, left) => (.object ms, left)
      | rest => (readNumber rest).map fun (ds, left) => (.number ds, left)

/-- The items of an array and its closing sign. -/
def readItems : (fuel : Nat) → List Char → Option (List Json × List Char)
  | 0, _ => none
  | fuel + 1, cs => do
      let (v, rest) ← readValue fuel cs
      match skip rest with
      | ',' :: more => (readItems fuel more).map fun (vs, left) => (v :: vs, left)
      | ']' :: left => some ([v], left)
      | _ => none

/-- The members of an object and its closing sign. -/
def readMembers : (fuel : Nat) → List Char → Option (List (Option String × Json) × List Char)
  | 0, _ => none
  | fuel + 1, cs =>
      match skip cs with
      | '"' :: rest => do
          let (k, rest) ← readString rest
          match skip rest with
          | ':' :: rest => do
              let (v, rest) ← readValue fuel rest
              match skip rest with
              | ',' :: more => (readMembers fuel more).map fun (ms, left) => ((k, v) :: ms, left)
              | '\x7d' :: left => some ([(k, v)], left)
              | _ => none
          | _ => none
      | _ => none

end

/-- Reads a text that is one value. -/
def parse? (text : String) : Option Json :=
  let cs := text.toList
  match readValue (2 * cs.length + 2) cs with
  | some (v, rest) => if skip rest = [] then some v else none
  | none => none

end CallAtlas.Json
