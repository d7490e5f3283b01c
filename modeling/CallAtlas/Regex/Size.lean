/-
# `CallAtlas.Regex.Size` — the size of an automaton

The automaton of a pattern is a graph of states.  A state takes a fixed room;
one with several transitions, or one that forks, takes room for each of
those besides.  All together must not pass `sizeLimit`.
-/

namespace CallAtlas.Regex

/-- The room of one state. -/
def stateSize : Nat := 32

/-- The room of a transition in a state that has a list of them. -/
def transitionSize : Nat := 8

/-- The room of a branch of a fork. -/
def branchSize : Nat := 4

/-- The greatest room of an automaton. -/
def sizeLimit : Nat := 10485760

/-- A number of states, and the room that they take beyond the fixed one. -/
structure Size where
  states : Nat
  extra : Nat
deriving Repr, DecidableEq, Inhabited

namespace Size

/-- Nothing. -/
def zero : Size := ⟨0, 0⟩

/-- States without extra room. -/
def plain (states : Nat) : Size := ⟨states, 0⟩

/-- A fork with some branches. -/
def fork (branches : Nat) : Size := ⟨1, branches * branchSize⟩

/-- A state with some transitions and the state that all of them lead to. -/
def transitions (count : Nat) : Size := ⟨2, count * transitionSize⟩

/-- Two sizes together. -/
def add (s t : Size) : Size := ⟨s.states + t.states, s.extra + t.extra⟩

/-- Several sizes together. -/
def sum (ss : List Size) : Size := ss.foldl add zero

/-- A size several times. -/
def times (count : Nat) (s : Size) : Size := ⟨count * s.states, count * s.extra⟩

/-- The room of an automaton. -/
def room (s : Size) : Nat := s.states * stateSize + s.extra

/-- The size, unless it passes the limit. -/
def checked (s : Size) : Option Size := if s.room > sizeLimit then none else some s

end Size

end CallAtlas.Regex
