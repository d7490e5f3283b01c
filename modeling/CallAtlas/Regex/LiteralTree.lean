/-
# `CallAtlas.Regex.LiteralTree` — the size of a tree of literals

A choice between literals is laid out as a tree: literals that begin with the
same bytes share the nodes of their beginning.  The order of the branches
counts, so a literal that ends at a node closes the steps that leave the node
before it, and later literals leave it by steps of their own.
-/
import CallAtlas.Regex.Size

namespace CallAtlas.Regex

/-- Words by the empty ones among them: the words before each empty word, and those after
the last one. -/
def cutAtEmpty : List (List Nat) → List (List (List Nat))
  | [] => [[]]
  | [] :: rest => [] :: cutAtEmpty rest
  | w :: rest =>
      match cutAtEmpty rest with
      | [] => [[w]]
      | ws :: more => (w :: ws) :: more

/-- The groups of words that leave a node; of empty words at the beginning only one counts. -/
def departures : List (List Nat) → List (List (List Nat))
  | [] :: [] :: rest => departures ([] :: rest)
  | ws => cutAtEmpty ws

/-- The first bytes of some words, each once. -/
def firstBytes (words : List (List Nat)) : List Nat := (words.filterMap List.head?).eraseDups

/-- What the words with a given first byte go on with. -/
def tailsAfter (b : Nat) (words : List (List Nat)) : List (List Nat) :=
  words.filterMap fun w =>
    match w with
    | c :: rest => if c = b then some rest else none
    | [] => none

/-- The size of the node that some words go on from, with all below it.  The words end
within `depth` steps; a node where all of them end takes no room. -/
def nodeSize : (depth : Nat) → List (List Nat) → Size
  | 0, _ => .zero
  | depth + 1, words =>
      if words.all List.isEmpty then .zero
      else
        let groups := (departures words).map fun ws => (ws, firstBytes ws)
        let used := groups.filter fun g => !g.2.isEmpty
        let steps := used.map fun g =>
          Size.mk 1 (if g.2.length = 1 then 0 else g.2.length * transitionSize)
        let below := used.flatMap fun g => g.2.map fun b => nodeSize depth (tailsAfter b g.1)
        let fork := Size.fork (used.length + (groups.length - 1))
        fork.add (Size.sum (steps ++ below))

/-- The size of a choice between words. -/
def treeSize (words : List (List Nat)) : Size :=
  (Size.plain 1).add (nodeSize (words.foldl (fun n w => max n w.length) 0) words)

end CallAtlas.Regex
