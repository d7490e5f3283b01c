/-
# `CallAtlas.Regex.Footprint` — how large the automata of a pattern are

Counted repetitions make small patterns large: each one stands for as many
copies of its body.  Matching rests on two automata, one that reads forward
and one that reads backward, and a pattern is refused if either would pass
the size limit.

A blueprint says what an automaton is built from, in the order of building.
Parts of a known size are added up beforehand; classes of characters beyond
ASCII are laid out one by one.
-/
import CallAtlas.Regex.ClassLayout
import CallAtlas.Regex.LiteralTree
import CallAtlas.Regex.Shape

namespace CallAtlas.Regex

/-- The way in which an automaton reads. -/
inductive Direction
  | forward
  | backward
deriving Repr, DecidableEq

/-- What an automaton is built from. -/
inductive Blueprint
  /-- states that take a known room -/
  | known (size : Size)
  /-- a class of characters, by its byte sequences -/
  | encoded (sequences : List (List ByteRange))
  | both (first second : Blueprint)
  | copies (count : Nat) (body : Blueprint)
deriving Repr, Inhabited

namespace Blueprint

/-- One part, then another. -/
def andThen : Blueprint → Blueprint → Blueprint
  | .known s, .known t => .known (s.add t)
  | a, b => .both a b

/-- A part several times. -/
def times (count : Nat) : Blueprint → Blueprint
  | .known s => .known (s.times count)
  | b => .copies count b

/-- Several parts. -/
def all (bs : List Blueprint) : Blueprint := bs.foldr andThen (.known .zero)

/-- Takes a step a number of times, while it succeeds. -/
def iterate (step : Size → Option Size) : Nat → Size → Option Size
  | 0, s => some s
  | n + 1, s =>
      match step s with
      | some t => iterate step n t
      | none => none

/-- The size of what is built after some states, together with those; `none` past the limit. -/
def build (d : Direction) : Blueprint → Size → Option Size
  | .known s, before => (before.add s).checked
  | .encoded sequences, before =>
      match d with
      | .forward => (ForwardLayout.layOut before sequences).checked
      | .backward => (BackwardLayout.layOut before sequences).checked
  | .both a b, before =>
      match build d a before with
      | some s => build d b s
      | none => none
  | .copies count b, before => iterate (build d b) count before

/-- Some copies of a part in a row; a state stands for none. -/
def row (count : Nat) (body : Blueprint) : Blueprint :=
  if count = 0 then .known (.plain 1) else body.times count

/-- The literals of some branches, if all branches are literals. -/
def literals? (bs : List Shape) : Option (List (List Char)) :=
  bs.mapM fun b =>
    match b with
    | .literal text => some text
    | _ => none

/-- A choice between branches with the given blueprints; the fork is made when the first two are. -/
def fork : List Blueprint → Blueprint
  | a :: b :: rest =>
      all ([a, b, .known (.fork (rest.length + 2)), .known (.plain 1)] ++ rest)
  | bs => all bs

mutual

/-- What the automaton of a form is built from. -/
def ofShape (d : Direction) : Shape → Blueprint
  | .empty => .known (.plain 1)
  | .literal text => .known (.plain (encodeAll text).length)
  | .chars set =>
      if set.isAscii then .known (.transitions set.ranges.length)
      else .encoded (byteSequences set)
  | .look _ => .known (.plain 1)
  | .rep body least most _ =>
      let one := ofShape d body
      match least, most with
      | 0, none =>
          if body.consumes then all [.known (.fork 2), one]
          else all [one, .known ((Size.fork 2).times 2), .known (.plain 1)]
      | n, none => (one.times n).andThen (.known (.fork 2))
      | 0, some 1 => all [.known (.fork 2), one, .known (.plain 1)]
      | n, some m =>
          if n = m then row n one
          else
            all [row n one, .known (.plain 1), (all [.known (.fork 2), one]).times (m - n)]
  | .capture body =>
      match d with
      | .forward => all [.known (.plain 1), ofShape d body, .known (.plain 1)]
      | .backward => ofShape d body
  | .concat parts =>
      match d with
      | .forward => all (ofShapes d parts)
      | .backward => all (ofShapes d parts).reverse
  | .choice branches =>
      match literals? branches with
      | some texts =>
          let words := texts.map encodeAll
          .known (treeSize (match d with
            | .forward => words
            | .backward => words.map List.reverse))
      | none => fork (ofShapes d branches)

/-- What the automata of some forms are built from. -/
def ofShapes (d : Direction) : List Shape → List Blueprint
  | [] => []
  | s :: rest => ofShape d s :: ofShapes d rest

end

/-- What stands before the automaton of a form so that a match may begin anywhere. -/
def entry (isAnchored : Bool) : Blueprint :=
  if isAnchored then .known (.plain 1) else all [.known (.fork 2), .known (.transitions 1)]

/-- What the whole automaton of a form is built from; the forward one remembers the match
itself as a group. -/
def whole (d : Direction) (s : Shape) : Blueprint :=
  match d with
  | .forward => all [entry s.startsAnchored, ofShape d (.capture s), .known (.plain 1)]
  | .backward => all [entry s.endsAnchored, ofShape d s, .known (.plain 1)]

end Blueprint

/-- Whether both automata of a form keep to the size limit. -/
def Shape.fits (s : Shape) : Bool :=
  ((Blueprint.whole .forward s).build .forward .zero).isSome &&
    ((Blueprint.whole .backward s).build .backward .zero).isSome

end CallAtlas.Regex
