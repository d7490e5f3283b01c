/-
# `CallAtlas.Regex.Parser` — reading a pattern

A pattern is read from left to right, one item a step.  The state keeps the
group that is being read, as closed alternatives and the items of the open
one, and a stack of the groups around it.  Flags that a group or a directive
sets hold until the group that they stand in is closed.

Each item carries the height of its nesting, and a pattern may not be
nested deeper than `nestLimit`.
-/
import CallAtlas.Regex.Bracket
import CallAtlas.Text.CharClass

namespace CallAtlas.Regex

/-- An expression and the height of its nesting. -/
structure Piece where
  expr : Expr
  height : Nat
  /-- whether it only sets flags, so that there is nothing to repeat -/
  directive : Bool
deriving Repr

namespace Piece

/-- An item without parts. -/
def leaf (e : Expr) : Piece := ⟨e, 0, false⟩

/-- The greatest height of some pieces. -/
def maxHeight (ps : List Piece) : Nat := ps.foldl (fun h p => max h p.height) 0

/-- The items of a branch, last first, one after the other. -/
def sequence : List Piece → Piece
  | [] => leaf .empty
  | [p] => p
  | last :: before =>
      ⟨before.foldl (fun e p => .seq p.expr e) last.expr, 1 + maxHeight (last :: before), false⟩

/-- Alternatives, last first, as one piece. -/
def choice : List Piece → Piece
  | [] => leaf .empty
  | [p] => p
  | last :: before =>
      ⟨before.foldl (fun e p => .alt p.expr e) last.expr, 1 + maxHeight (last :: before), false⟩

end Piece

/-- A group while it is read. -/
structure Level where
  /-- its closed alternatives, last first -/
  branches : List Piece
  /-- the items of the open alternative, last first -/
  items : List Piece
deriving Repr

/-- What a group around the one being read comes back to. -/
structure Outer where
  level : Level
  flags : Flags
  remembered : Bool
deriving Repr

/-- The state of the reading. -/
structure State where
  flags : Flags
  level : Level
  outer : List Outer
  names : List (List Char)
deriving Repr

namespace State

/-- The state before the first item. -/
def initial : State := ⟨.initial, ⟨[], []⟩, [], []⟩

/-- Adds an item to the open alternative. -/
def push (st : State) (p : Piece) : State :=
  { st with level := { st.level with items := p :: st.level.items } }

/-- Adds an expression without parts. -/
def pushLeaf (st : State) (e : Expr) : State := st.push (.leaf e)

/-- Opens a group. -/
def openGroup (st : State) (remembered : Bool) (flags : Flags) : State :=
  { st with flags := flags, level := ⟨[], []⟩, outer := ⟨st.level, st.flags, remembered⟩ :: st.outer }

/-- Closes the open alternative. -/
def nextBranch (st : State) : State :=
  { st with level := ⟨Piece.sequence st.level.items :: st.level.branches, []⟩ }

/-- All alternatives of the group being read. -/
def content (st : State) : Piece :=
  Piece.choice (Piece.sequence st.level.items :: st.level.branches)

/-- Closes the group being read. -/
def closeGroup (st : State) : Except SyntaxError State :=
  match st.outer with
  | [] => .error .groupUnopened
  | o :: outer =>
      let body := st.content
      .ok ({ st with flags := o.flags, level := o.level, outer := outer }.push
        ⟨.group o.remembered body.expr, 1 + body.height, false⟩)

/-- Repeats the last item; a lazy repetition is greedy under the flag that swaps the two. -/
def repeatLast (st : State) (least : Nat) (most : Option Nat) (isLazy : Bool) :
    Except SyntaxError State :=
  match st.level.items with
  | [] => .error .nothingToRepeat
  | p :: items =>
      if p.directive then .error .nothingToRepeat
      else .ok ({ st with level := { st.level with items := items } }.push
        ⟨.rep p.expr least most (isLazy == st.flags.has .swapGreed), 1 + p.height, false⟩)

end State

/-- The flag items of a group up to its colon or closing sign: the items in their order, and
whether the closing sign came.  A hyphen clears the flags after it. -/
def flagItems (clearing dangling : Bool) (seen : List (Flag × Bool)) : List Char →
    Except SyntaxError (List (Flag × Bool) × Bool × List Char)
  | [] => .error .flags
  | c :: rest =>
      if c = ':' ∨ c = ')' then
        if dangling then .error .flags else .ok (seen.reverse, c = ')', rest)
      else if c = '-' then
        if clearing then .error .flags else flagItems true true seen rest
      else
        match Flag.ofLetter? c with
        | none => .error .flags
        | some f =>
            if seen.any (·.1 = f) then .error .flags
            else flagItems clearing false ((f, !clearing) :: seen) rest

/-- Whether a character may stand in the name of a group. -/
def isNameChar (first : Bool) (c : Char) : Bool :=
  c = '_' || Text.alphabetic.contains c ||
    (!first && (c = '.' || c = '[' || c = ']' || Text.numeric.contains c))

/-- The name of a group up to its closing angle. -/
def groupName (cs : List Char) : Except SyntaxError (List Char × List Char) :=
  let name := cs.takeWhile (· ≠ '>')
  match name, cs.dropWhile (· ≠ '>') with
  | first :: more, _ :: rest =>
      if isNameChar true first && more.all (isNameChar false) then .ok (name, rest)
      else .error .groupName
  | _, _ => .error .groupName

/-- A group with a name. -/
def scanNamed (st : State) (cs : List Char) : Except SyntaxError (State × List Char) := do
  let (name, rest) ← groupName cs
  if st.names.contains name then .error .groupNameTaken
  else .ok ({ st with names := name :: st.names }.openGroup true st.flags, rest)

/-- What follows an opening parenthesis: a group, or a directive that sets flags. -/
def scanGroup (st : State) (cs : List Char) : Except SyntaxError (State × List Char) :=
  match skip st.flags cs with
  | '?' :: 'P' :: '<' :: rest => scanNamed st rest
  | '?' :: '<' :: '=' :: _ => .error .lookaround
  | '?' :: '<' :: '!' :: _ => .error .lookaround
  | '?' :: '=' :: _ => .error .lookaround
  | '?' :: '!' :: _ => .error .lookaround
  | '?' :: '<' :: rest => scanNamed st rest
  | '?' :: rest => do
      let (items, closed, left) ← flagItems false false [] rest
      let flags := st.flags.follow items
      if !closed then .ok (st.openGroup false flags, left)
      else if items = [] then .error .nothingToRepeat
      else .ok ({ st with flags := flags }.push ⟨.empty, 0, true⟩, left)
  | rest => .ok (st.openGroup true st.flags, rest)

/-- The bounds of a counted repetition after its opening brace, and the rest after the
closing one. -/
def scanCount (fs : Flags) (cs : List Char) :
    Except SyntaxError (Nat × Option Nat × List Char) :=
  match takeCount fs (skip fs cs) with
  | (some n, '\x7d' :: rest) => .ok (n, some n, rest)
  | (some n, ',' :: rest) =>
      match skip fs rest with
      | '\x7d' :: left => .ok (n, none, left)
      | more =>
          match takeCount fs more with
          | (some m, '\x7d' :: left) => if n ≤ m then .ok (n, some m, left) else .error .repeatCount
          | _ => .error .repeatCount
  | _ => .error .repeatCount

/-- Whether the question mark that makes a repetition lazy comes first, and the rest. -/
def takeLazy : List Char → Bool × List Char
  | '?' :: rest => (true, rest)
  | cs => (false, cs)

/-- Repeats the last item; what follows may make the repetition lazy. -/
def scanRepeat (st : State) (least : Nat) (most : Option Nat) (cs : List Char) :
    Except SyntaxError (State × List Char) := do
  let (isLazy, rest) := takeLazy cs
  .ok (← st.repeatLast least most isLazy, rest)

/-- The character of a pattern as an expression: itself, or all its case variants. -/
def literalExpr (fs : Flags) (c : Char) (byte : Bool) : Except SyntaxError Expr :=
  if byte && !fs.has .unicode && c.toNat ≥ 128 then .error .notOfBytes
  else .ok (.chars (foldCase fs (.singleton c)))

/-- What a dot matches. -/
def dotExpr (fs : Flags) : Except SyntaxError Expr :=
  if !fs.has .unicode then .error .notOfBytes
  else if fs.has .dotMatchesNewline then .ok (.chars .all)
  else if fs.has .crlf then .ok (.chars (CharSet.compl ⟨[(10, 10), (13, 13)]⟩))
  else .ok (.chars (CharSet.compl ⟨[(10, 10)]⟩))

/-- One item of a pattern, which begins with the character `c`; `fuel` is at least the number
of characters after it. -/
def scanItem (fuel : Nat) (st : State) (c : Char) (rest : List Char) :
    Except SyntaxError (State × List Char) :=
  let fs := st.flags
  match c with
  | '(' => scanGroup st rest
  | ')' => do .ok (← st.closeGroup, rest)
  | '|' => .ok (st.nextBranch, rest)
  | '[' => do
      let (part, left) ← scanBracket fs fuel rest
      .ok (st.push ⟨.chars part.set, part.height, false⟩, left)
  | '?' => scanRepeat st 0 (some 1) rest
  | '*' => scanRepeat st 0 none rest
  | '+' => scanRepeat st 1 none rest
  | '\x7b' => do
      let (least, most, left) ← scanCount fs rest
      scanRepeat st least most (skip fs left)
  | '\\' => do
      let (item, left) ← scanEscape fs rest
      match item with
      | .literal d byte => .ok (st.pushLeaf (← literalExpr fs d byte), left)
      | .set s => .ok (st.pushLeaf (.chars s), left)
      | .look l => .ok (st.pushLeaf (.look l), left)
  | '.' => do .ok (st.pushLeaf (← dotExpr fs), rest)
  | '^' =>
      let l := if fs.has .multiLine then .lineStart (fs.has .crlf) else .textStart
      .ok (st.pushLeaf (.look l), rest)
  | '$' =>
      let l := if fs.has .multiLine then .lineEnd (fs.has .crlf) else .textEnd
      .ok (st.pushLeaf (.look l), rest)
  | _ => do .ok (st.pushLeaf (← literalExpr fs c false), rest)

/-- Reads items until the pattern ends; `fuel` is more than the number of characters. -/
def scanAll : (fuel : Nat) → State → List Char → Except SyntaxError State
  | 0, _, _ => .error .nestedTooDeep
  | fuel + 1, st, cs =>
      match skip st.flags cs with
      | [] => .ok st
      | c :: rest => do
          let (st, left) ← scanItem fuel st c rest
          scanAll fuel st left

/-- How deep a pattern may be nested. -/
def nestLimit : Nat := 250

/-- Reads a pattern. -/
def parse (pattern : List Char) : Except SyntaxError Expr := do
  let st ← scanAll (pattern.length + 1) .initial pattern
  if !st.outer.isEmpty then .error .groupUnclosed
  else
    let whole := st.content
    if whole.height > nestLimit then .error .nestedTooDeep else .ok whole.expr

end CallAtlas.Regex
