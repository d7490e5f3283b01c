/-
# `CallAtlas.Regex.Matcher` — matching by sets of positions

A set of positions of a text is a number: position `i` is in it when bit `i`
is one.  An expression sends the set of positions where a stretch may start to
the set of those where one may end, and each operator of expressions has
its counterpart on numbers: a character is a mask and a shift, a choice is a
disjunction, a repetition goes on until nothing is added.  So matching takes a
number of rounds that the length of the text bounds, whatever the expression.

The masks depend on the text and are computed once, in a `Plan`.
-/
import CallAtlas.Regex.Expr

namespace CallAtlas.Regex

/-- The set of the positions whose entry is true. -/
def positions : List Bool → Nat
  | [] => 0
  | b :: bs => 2 * positions bs + b.toNat

/-- An expression with the masks that a text gives to its sets and looks. -/
inductive Plan
  | stay
  | step (mask : Nat)
  | test (mask : Nat)
  | seq (first second : Plan)
  | alt (left right : Plan)
  | rep (body : Plan) (least : Nat) (most : Option Nat)
deriving Repr

/-- The `n`-fold image of a set of positions; at a fixed point the rest can be left out. -/
def repeated (image : Nat → Nat) : Nat → Nat → Nat
  | 0, s => s
  | n + 1, s =>
      let t := image s
      if t = s then s else repeated image n t

/-- What a set of positions reaches in at most `n` images; where nothing is added the
rest can be left out. -/
def accumulated (image : Nat → Nat) : Nat → Nat → Nat
  | 0, s => s
  | n + 1, s =>
      let t := s ||| image s
      if t = s then s else accumulated image n t

namespace Plan

/-- The positions where a stretch ends that starts at one of the given positions; the text
has `size` positions. -/
def image (size : Nat) : Plan → Nat → Nat
  | .stay, s => s
  | .step mask, s => (s &&& mask) <<< 1
  | .test mask, s => s &&& mask
  | .seq a b, s => image size b (image size a s)
  | .alt a b, s => image size a s ||| image size b s
  | .rep e least most, s =>
      let t := repeated (image size e) least s
      match most with
      | none => accumulated (image size e) size t
      | some m => accumulated (image size e) (m - least) t

end Plan

/-- The characters at both sides of each position, when `before` stands before the first. -/
def neighbours (before : Option Char) : List Char → List (Option Char × Option Char)
  | [] => [(before, none)]
  | c :: rest => (before, some c) :: neighbours (some c) rest

namespace Expr

/-- The plan of an expression for a text. -/
def plan (text : List Char) : Expr → Plan
  | .empty => .stay
  | .chars set => .step (positions (text.map set.contains))
  | .look l => .test (positions ((neighbours none text).map fun p => l.holds p.1 p.2))
  | .seq a b => .seq (plan text a) (plan text b)
  | .alt a b => .alt (plan text a) (plan text b)
  | .rep e least most _ => .rep (plan text e) least most
  | .group _ e => plan text e

/-- Whether the expression matches some stretch of the text. -/
def isMatch (e : Expr) (text : List Char) : Bool :=
  let size := text.length + 1
  (e.plan text).image size (positions (List.replicate size true)) != 0

end Expr

end CallAtlas.Regex
