/-
# `CallAtlas.Regex.Shape` — the normal form of an expression

Before an automaton is built, an expression is brought into a form in which it
has fewer parts: characters in a row are one literal, sequences and choices do not
stand directly in others of their kind, a choice between single characters or
between classes is a class, and what all branches of a choice begin with stands
before the choice.  A repetition of a body without width takes place once at
most, and one that takes place exactly once is its body.
-/
import CallAtlas.Regex.ByteSequence
import CallAtlas.Regex.Expr

namespace CallAtlas.Regex

/-- An expression in normal form. -/
inductive Shape
  | empty
  /-- one character or several in a row -/
  | literal (text : List Char)
  /-- one character of a set of none, two or more -/
  | chars (set : CharSet)
  | look (condition : Look)
  | rep (body : Shape) (least : Nat) (most : Option Nat) (greedy : Bool)
  /-- a group that is remembered -/
  | capture (body : Shape)
  | concat (parts : List Shape)
  | choice (branches : List Shape)
deriving Repr, Inhabited

namespace Shape

/-! ## Measures -/

mutual

/-- The number of bytes that a match has at least; `none` if a part cannot match at all. -/
def shortest : Shape → Option Nat
  | .empty => some 0
  | .literal text => some (encodeAll text).length
  | .chars set => set.ranges.head?.map fun r => byteCount r.1
  | .look _ => some 0
  | .rep body least _ _ => (shortest body).map (· * least)
  | .capture body => shortest body
  | .concat parts => shortestAll parts
  | .choice branches => shortestAny branches

/-- The least number of bytes of several parts in a row. -/
def shortestAll : List Shape → Option Nat
  | [] => some 0
  | p :: rest =>
      match shortest p, shortestAll rest with
      | some m, some n => some (m + n)
      | _, _ => none

/-- The least number of bytes of one of several branches. -/
def shortestAny : List Shape → Option Nat
  | [] => none
  | [p] => shortest p
  | p :: rest =>
      match shortest p, shortestAny rest with
      | some m, some n => some (min m n)
      | _, _ => none

end

/-- Whether every match has at least one byte. -/
def consumes (s : Shape) : Bool :=
  match s.shortest with
  | some n => n != 0
  | none => false

mutual

/-- Whether every match is empty. -/
def isWidthless : Shape → Bool
  | .empty => true
  | .literal _ => false
  | .chars _ => false
  | .look _ => true
  | .rep body _ most _ => most == some 0 || (most.isSome && isWidthless body)
  | .capture body => isWidthless body
  | .concat parts => areWidthless parts
  | .choice branches => areWidthless branches

/-- Whether every match of every part is empty. -/
def areWidthless : List Shape → Bool
  | [] => true
  | p :: rest => isWidthless p && areWidthless rest

end

mutual

/-- Whether every match begins at the beginning of the text. -/
def startsAnchored : Shape → Bool
  | .look l => l == .textStart
  | .rep body least _ _ => least != 0 && startsAnchored body
  | .capture body => startsAnchored body
  | .concat parts => startsAnchoredAll parts
  | .choice branches => startsAnchoredEach branches
  | _ => false

/-- Whether a match of several parts in a row begins at the beginning of the text. -/
def startsAnchoredAll : List Shape → Bool
  | [] => false
  | p :: rest => startsAnchored p || (isWidthless p && startsAnchoredAll rest)

/-- Whether the matches of every branch begin at the beginning of the text. -/
def startsAnchoredEach : List Shape → Bool
  | [] => true
  | p :: rest => startsAnchored p && startsAnchoredEach rest

end

mutual

/-- Whether every match ends at the end of the text. -/
def endsAnchored : Shape → Bool
  | .look l => l == .textEnd
  | .rep body least _ _ => least != 0 && endsAnchored body
  | .capture body => endsAnchored body
  | .concat parts => endsAnchoredAll parts
  | .choice branches => endsAnchoredEach branches
  | _ => false

/-- Whether a match of several parts in a row ends at the end of the text. -/
def endsAnchoredAll : List Shape → Bool
  | [] => false
  | p :: rest => endsAnchoredAll rest || (areWidthless rest && endsAnchored p)

/-- Whether the matches of every branch end at the end of the text. -/
def endsAnchoredEach : List Shape → Bool
  | [] => true
  | p :: rest => endsAnchored p && endsAnchoredEach rest

end

/-! ## Equality -/

mutual

/-- Whether two forms are equal.  A remembered group is equal to no other one. -/
def same : Shape → Shape → Bool
  | .empty, .empty => true
  | .literal s, .literal t => s == t
  | .chars s, .chars t => s.ranges == t.ranges
  | .look l, .look k => l == k
  | .rep a least most greedy, .rep b least' most' greedy' =>
      least == least' && most == most' && greedy == greedy' && same a b
  | .concat ps, .concat qs => sameAll ps qs
  | .choice ps, .choice qs => sameAll ps qs
  | _, _ => false

/-- Whether the parts of two lists are equal one by one. -/
def sameAll : List Shape → List Shape → Bool
  | [], [] => true
  | p :: ps, q :: qs => same p q && sameAll ps qs
  | _, _ => false

end

/-! ## Building -/

/-- The ranges of a set without the surrogates. -/
def scalarRanges : List (Nat × Nat) → List (Nat × Nat)
  | [] => []
  | (lo, hi) :: rest =>
      (if lo < 0xD800 then [(lo, min hi 0xD7FF)] else []) ++
        (if hi > 0xDFFF then [(max lo 0xE000, hi)] else []) ++ scalarRanges rest

/-- One character of a set. -/
def ofSet (s : CharSet) : Shape :=
  match scalarRanges s.ranges with
  | [(lo, hi)] => if lo = hi then .literal [Char.ofNat lo] else .chars ⟨[(lo, hi)]⟩
  | rs => .chars ⟨rs⟩

/-- A repetition. -/
def repeated (body : Shape) (least : Nat) (most : Option Nat) (greedy : Bool) : Shape :=
  let (least, most) :=
    if isWidthless body then (min least 1, some (most.elim 1 (min · 1))) else (least, most)
  if least = 0 ∧ most = some 0 then .empty
  else if least = 1 ∧ most = some 1 then body
  else .rep body least most greedy

/-- Puts a part before others; characters in a row become one literal. -/
def cons : Shape → List Shape → List Shape
  | .literal s, .literal t :: rest => .literal (s ++ t) :: rest
  | p, parts => p :: parts

/-- The parts of a sequence; any other form but the empty one is its own only part. -/
def parts : Shape → List Shape
  | .empty => []
  | .concat ps => ps
  | p => [p]

/-- Parts in a row. -/
def ofParts : List Shape → Shape
  | [] => .empty
  | [p] => p
  | ps => .concat ps

/-- Forms in a row. -/
def sequence (ps : List Shape) : Shape := ofParts ((ps.flatMap parts).foldr cons [])

/-- One form, then another. -/
def followedBy (p q : Shape) : Shape := ofParts (p.parts.foldr cons q.parts)

/-- The set of a literal of one character. -/
def single? : Shape → Option CharSet
  | .literal [c] => some (.singleton c)
  | _ => none

/-- The set of a class. -/
def class? : Shape → Option CharSet
  | .chars s => some s
  | _ => none

/-- The branches of a choice, or the one branch that another form is. -/
def branches : Shape → List Shape
  | .choice bs => bs
  | b => [b]

/-- One of several branches, which may be a class. -/
def oneOf (ps : List Shape) : Shape :=
  match ps.flatMap branches with
  | [] => .chars .empty
  | [b] => b
  | bs =>
      match bs.mapM single?, bs.mapM class? with
      | some sets, _ => ofSet (CharSet.unions sets)
      | none, some sets => ofSet (CharSet.unions sets)
      | none, none => .choice bs

/-- The length of the part that two lists have in common at their beginning. -/
def commonLength : List Shape → List Shape → Nat
  | p :: ps, q :: qs => if same p q then commonLength ps qs + 1 else 0
  | _, _ => 0

/-- The number of parts that all branches have in common at their beginning, where every
branch is a sequence. -/
def sharedLength : List Shape → Nat
  | .concat ps :: rest =>
      rest.foldl (fun n b =>
        match b with
        | .concat qs => min n (commonLength ps qs)
        | _ => 0) ps.length
  | _ => 0

/-- One of several branches; what they have in common at their beginning comes first. -/
def alternation (ps : List Shape) : Shape :=
  match oneOf ps with
  | .choice bs =>
      match sharedLength bs with
      | 0 => .choice bs
      | n =>
          sequence (((bs.headD .empty).parts.take n) ++
            [oneOf (bs.map fun b => sequence (b.parts.drop n))])
  | s => s

/-- The form of some branches, of which a single one is no choice. -/
def ofBranches : List Shape → Shape
  | [p] => p
  | ps => alternation ps

end Shape

namespace Expr

/-- The normal forms of the branches of an expression: one, unless it is a choice. -/
def branchShapes : Expr → List Shape
  | .empty => [.empty]
  | .chars set => [.ofSet set]
  | .look l => [.look l]
  | .seq a b => [(Shape.ofBranches (branchShapes a)).followedBy (.ofBranches (branchShapes b))]
  | .alt a b => .ofBranches (branchShapes a) :: branchShapes b
  | .rep e least most greedy =>
      [(Shape.ofBranches (branchShapes e)).repeated least most greedy]
  | .group true e => [.capture (.ofBranches (branchShapes e))]
  | .group false e => [.ofBranches (branchShapes e)]

/-- The normal form of an expression. -/
def shape (e : Expr) : Shape := .ofBranches e.branchShapes

end Expr

end CallAtlas.Regex
