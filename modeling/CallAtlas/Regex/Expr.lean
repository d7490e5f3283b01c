/-
# `CallAtlas.Regex.Expr` — regular expressions and the stretches they match

An expression is built from character sets and from looks, which match the
empty stretch where the neighbouring characters are right, by sequence, choice
and counted repetition.  Case folding, negated classes and the like are
already in the character sets.

`Expr.Spans` says what an expression means: which stretches of a text, from one
position to another, it matches.  Whether a repetition is greedy or lazy
and which stretch is found first make no difference to that.
-/
import CallAtlas.Unicode.Property

namespace CallAtlas.Regex

/-- A condition on the words at both sides of a position. -/
inductive WordLook
  | boundary
  | interior
  | opening
  | closing
  | openingHalf
  | closingHalf
deriving Repr, DecidableEq

namespace WordLook

/-- Whether the condition holds, given whether a word character stands on each side. -/
def holds : WordLook → (before after : Bool) → Bool
  | .boundary, b, a => b != a
  | .interior, b, a => b == a
  | .opening, b, a => !b && a
  | .closing, b, a => b && !a
  | .openingHalf, b, _ => !b
  | .closingHalf, _, a => !a

end WordLook

/-- A condition on a position of the text. -/
inductive Look
  /-- the beginning of the text -/
  | textStart
  /-- the end of the text -/
  | textEnd
  /-- the beginning of a line; a carriage return may end lines too -/
  | lineStart (crlf : Bool)
  /-- the end of a line; a carriage return may end lines too -/
  | lineEnd (crlf : Bool)
  /-- a condition on words, of all scripts or of ASCII characters only -/
  | word (kind : WordLook) (unicode : Bool)
deriving Repr, DecidableEq

/-- Letters, digits and the low line of ASCII. -/
def asciiWord : CharSet := ⟨[(48, 57), (65, 90), (95, 95), (97, 122)]⟩

/-- Whether there is a word character on one side of a position. -/
def isWordSide (unicode : Bool) : Option Char → Bool
  | none => false
  | some c => if unicode then Unicode.word.contains c else asciiWord.contains c

namespace Look

/-- Whether the condition holds between two characters; `none` is an end of the text. -/
def holds : Look → (before after : Option Char) → Bool
  | .textStart, b, _ => b.isNone
  | .textEnd, _, a => a.isNone
  | .lineStart false, b, _ => b.isNone || b == some '\n'
  | .lineStart true, b, a => b.isNone || b == some '\n' || (b == some '\r' && a != some '\n')
  | .lineEnd false, _, a => a.isNone || a == some '\n'
  | .lineEnd true, b, a => a.isNone || a == some '\r' || (a == some '\n' && b != some '\r')
  | .word kind unicode, b, a => kind.holds (isWordSide unicode b) (isWordSide unicode a)

end Look

/-- A regular expression. -/
inductive Expr
  /-- the empty stretch -/
  | empty
  /-- one character of a set -/
  | chars (set : CharSet)
  /-- the empty stretch where a condition holds -/
  | look (condition : Look)
  /-- one after the other -/
  | seq (first second : Expr)
  /-- either of two -/
  | alt (left right : Expr)
  /-- as many times as the bounds allow; a greedy one tries more of them first -/
  | rep (body : Expr) (least : Nat) (most : Option Nat) (greedy : Bool)
  /-- a group, which may be remembered -/
  | group (remembered : Bool) (body : Expr)
deriving Repr

/-- The character before a position. -/
def charBefore (text : List Char) : Nat → Option Char
  | 0 => none
  | i + 1 => text[i]?

/-- `n` steps of a relation, one after the other. -/
def Iterate (R : Nat → Nat → Prop) : Nat → Nat → Nat → Prop
  | 0, i, j => i = j
  | n + 1, i, j => ∃ k, R i k ∧ Iterate R n k j

namespace Expr

/-- The expression matches the stretch of the text from position `i` to position `j`. -/
def Spans (text : List Char) : Expr → Nat → Nat → Prop
  | .empty, i, j => i = j
  | .chars set, i, j => j = i + 1 ∧ ∃ c, text[i]? = some c ∧ set.contains c = true
  | .look l, i, j => i = j ∧ l.holds (charBefore text i) text[i]? = true
  | .seq a b, i, j => ∃ k, Spans text a i k ∧ Spans text b k j
  | .alt a b, i, j => Spans text a i j ∨ Spans text b i j
  | .rep e least most _, i, j =>
      ∃ n, least ≤ n ∧ (∀ m, most = some m → n ≤ m) ∧ Iterate (Spans text e) n i j
  | .group _ e, i, j => Spans text e i j

/-- The expression matches the whole text. -/
def MatchesWhole (e : Expr) (text : List Char) : Prop := e.Spans text 0 text.length

/-- The expression matches some stretch of the text. -/
def MatchesSomewhere (e : Expr) (text : List Char) : Prop :=
  ∃ i j, i ≤ text.length ∧ e.Spans text i j

end Expr

end CallAtlas.Regex
