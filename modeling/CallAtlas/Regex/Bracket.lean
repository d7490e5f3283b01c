/-
# `CallAtlas.Regex.Bracket` — character classes between brackets

Brackets hold characters, ranges, escapes, named classes and further brackets.
Items beside each other form a union; `&&`, `--` and `~~` join what stands
on their two sides, all three from the left with one strength.  The reading
goes item by item with a stack of the brackets and operators that wait for
their right side.

Along with its characters a bracket has a height, the number of brackets,
unions and operators nested in it.
-/
import CallAtlas.Regex.Scan

namespace CallAtlas.Regex

/-- A class and the height of its nesting. -/
structure ClassPart where
  set : CharSet
  height : Nat
deriving Repr

/-- The operators between the parts of a bracket. -/
inductive ClassOp
  | inter
  | diff
  | symmDiff
deriving Repr, DecidableEq

/-- What an operator makes of two sets. -/
def ClassOp.apply : ClassOp → CharSet → CharSet → CharSet
  | .inter => CharSet.inter
  | .diff => CharSet.diff
  | .symmDiff => CharSet.symmDiff

/-- The operator that a text begins with. -/
def classOp? : List Char → Option (ClassOp × List Char)
  | '&' :: '&' :: rest => some (.inter, rest)
  | '-' :: '-' :: rest => some (.diff, rest)
  | '~' :: '~' :: rest => some (.symmDiff, rest)
  | _ => none

/-- What waits while a later part of a bracket is read. -/
inductive ClassFrame
  /-- an open bracket, and the items that stand before it in the enclosing one, last first -/
  | opened (before : List ClassPart) (negated : Bool)
  /-- an operator and its left side -/
  | pending (op : ClassOp) (left : ClassPart)
deriving Repr

/-- The items of a union, last first, as one part. -/
def sealUnion : List ClassPart → ClassPart
  | [] => ⟨.empty, 0⟩
  | [p] => p
  | ps => ⟨.unions (ps.map (·.set)), 1 + ps.foldl (fun h p => max h p.height) 0⟩

/-- Joins a right side with the operator that waits for it, if one does. -/
def joinPending (fs : Flags) (right : ClassPart) : List ClassFrame → ClassPart × List ClassFrame
  | .pending op left :: rest =>
      (⟨op.apply (foldCase fs left.set) (foldCase fs right.set), 1 + max left.height right.height⟩,
        rest)
  | frames => (right, frames)

/-- A plain character or an escape. -/
def scanClassItem (fs : Flags) : List Char → Except SyntaxError (Primitive × List Char)
  | [] => .error .bracketUnclosed
  | '\\' :: rest => scanEscape fs rest
  | c :: rest => .ok (.literal c false, rest)

/-- A character of a class.  Where characters are bytes only ASCII has one. -/
def classChar (fs : Flags) : Primitive → Except SyntaxError Char
  | .literal c _ => if fs.has .unicode || c.toNat < 128 then .ok c else .error .notOfBytes
  | _ => .error .bracketRange

/-- An item that stands alone. -/
def classItem (fs : Flags) : Primitive → Except SyntaxError ClassPart
  | .literal c byte => do .ok ⟨.singleton (← classChar fs (.literal c byte)), 0⟩
  | .set s => .ok ⟨s, 0⟩
  | .look _ => .error .bracketItem

/-- The character that decides whether a hyphen is one of a range: the next after it, in
verbose mode the next after white space and one comment sign. -/
def peekPast (fs : Flags) (cs : List Char) : Option Char :=
  if fs.has .verbose then
    match cs.dropWhile isBlank with
    | '#' :: rest => (rest.dropWhile isBlank).head?
    | rest => rest.head?
  else cs.head?

/-- An item or a range of two. -/
def scanClassRange (fs : Flags) (cs : List Char) : Except SyntaxError (ClassPart × List Char) := do
  let (first, rest) ← scanClassItem fs cs
  match skip fs rest with
  | [] => .error .bracketUnclosed
  | '-' :: after =>
      if peekPast fs after = some ']' ∨ peekPast fs after = some '-' then
        .ok (← classItem fs first, '-' :: after)
      else
        match skip fs after with
        | [] => .error .bracketUnclosed
        | more => do
            let (second, left) ← scanClassItem fs more
            let lo ← classChar fs first
            let hi ← classChar fs second
            if lo ≤ hi then .ok (⟨.range lo hi, 0⟩, left) else .error .bracketRange
  | left => do .ok (← classItem fs first, left)

/-- The named classes of ASCII. -/
def namedClasses : List (String × CharSet) := [
  ("alnum", ⟨[(48, 57), (65, 90), (97, 122)]⟩),
  ("alpha", ⟨[(65, 90), (97, 122)]⟩),
  ("ascii", ⟨[(0, 127)]⟩),
  ("blank", ⟨[(9, 9), (32, 32)]⟩),
  ("cntrl", ⟨[(0, 31), (127, 127)]⟩),
  ("digit", asciiDigit),
  ("graph", ⟨[(33, 126)]⟩),
  ("lower", ⟨[(97, 122)]⟩),
  ("print", ⟨[(32, 126)]⟩),
  ("punct", ⟨[(33, 47), (58, 64), (91, 96), (123, 126)]⟩),
  ("space", asciiSpace),
  ("upper", ⟨[(65, 90)]⟩),
  ("word", asciiWord),
  ("xdigit", ⟨[(48, 57), (65, 70), (97, 102)]⟩)]

/-- A named class after its opening bracket: a colon, perhaps a `^`, the name, a colon and the
closing bracket.  Gives the class, whether it is negated, and the rest. -/
def namedClass? (cs : List Char) : Option (CharSet × Bool × List Char) :=
  match cs with
  | ':' :: rest =>
      let (negated, rest) :=
        match rest with
        | '^' :: more => (true, more)
        | _ => (false, rest)
      match rest.dropWhile (· ≠ ':') with
      | ':' :: ']' :: left =>
          (namedClasses.lookup (String.ofList (rest.takeWhile (· ≠ ':')))).map fun s =>
            (s, negated, left)
      | _ => none
  | _ => none

/-- Hyphens at the beginning of a bracket stand for themselves. -/
def leadingHyphens (fs : Flags) (items : List ClassPart) : (fuel : Nat) → List Char →
    Except SyntaxError (List ClassPart × List Char)
  | fuel + 1, '-' :: rest =>
      match skip fs rest with
      | [] => .error .bracketUnclosed
      | more => leadingHyphens fs (⟨.singleton '-', 0⟩ :: items) fuel more
  | _, cs => .ok (items, cs)

/-- The beginning of a bracket, after its opening sign: whether it is negated, and its first
items.  A closing sign that comes first stands for itself.  `fuel` is at least the number of
characters. -/
def openBracket (fs : Flags) (fuel : Nat) (cs : List Char) :
    Except SyntaxError (Bool × List ClassPart × List Char) := do
  let (negated, rest) :=
    match skip fs cs with
    | '^' :: more => (true, skip fs more)
    | more => (false, more)
  if rest = [] then .error .bracketUnclosed
  else
    let (items, rest) ← leadingHyphens fs [] fuel rest
    match items, rest with
    | [], ']' :: more =>
        match skip fs more with
        | [] => .error .bracketUnclosed
        | left => .ok (negated, [⟨.singleton ']', 0⟩], left)
    | _, _ => .ok (negated, items, rest)

/-- Reads the items of open brackets until the outermost one is closed.  `items` are those
of the union being read, last first. -/
def scanItems (fs : Flags) : (fuel : Nat) → List ClassFrame → List ClassPart → List Char →
    Except SyntaxError (ClassPart × List Char)
  | 0, _, _, _ => .error .bracketUnclosed
  | fuel + 1, frames, items, cs =>
      match skip fs cs with
      | [] => .error .bracketUnclosed
      | '[' :: rest =>
          match namedClass? rest with
          | some (s, negated, left) => do
              let s ← negateIf fs negated (foldCase fs s)
              scanItems fs fuel frames (⟨s, 0⟩ :: items) left
          | none => do
              let (negated, first, left) ← openBracket fs fuel rest
              scanItems fs fuel (.opened items negated :: frames) first left
      | ']' :: rest =>
          match joinPending fs (sealUnion items) frames with
          | (content, .opened before negated :: outer) => do
              let s ← negateIf fs negated (foldCase fs content.set)
              let part : ClassPart := ⟨s, 1 + content.height⟩
              if outer.isEmpty then .ok (part, rest)
              else scanItems fs fuel outer (part :: before) rest
          | _ => .error .bracketUnclosed
      | rest =>
          match classOp? rest with
          | some (op, more) =>
              let (left, frames) := joinPending fs (sealUnion items) frames
              scanItems fs fuel (.pending op left :: frames) [] more
          | none => do
              let (part, left) ← scanClassRange fs rest
              scanItems fs fuel frames (part :: items) left

/-- A bracket after its opening sign; `fuel` is at least the number of characters. -/
def scanBracket (fs : Flags) (fuel : Nat) (cs : List Char) :
    Except SyntaxError (ClassPart × List Char) := do
  let (negated, items, rest) ← openBracket fs fuel cs
  scanItems fs fuel [.opened [] negated] items rest

end CallAtlas.Regex
