/-
# `CallAtlas.Regex.ClassLayout` — how a class of characters is laid out in states

The byte sequences of a class share states.  An automaton that reads forward
shares the endings: a state is made for a node of the tree of sequences once all
its transitions are known, unless a table remembers an equal one.  An
automaton that reads backward shares the beginnings: each byte range is a state
that leads to the one for the byte before it.

The tables have a fixed number of slots, and an entry that falls into the slot of
an older one displaces it, so a state may be made twice.  A slot is found by
hashing, and the numbers of the states are hashed too; so the size of
a class depends on how many states there are before it.
-/
import CallAtlas.Regex.ByteSequence
import CallAtlas.Regex.Size
import Std.Data.HashMap

namespace CallAtlas.Regex

/-- The hash of no words. -/
def hashStart : UInt64 := 14695981039346656037

/-- One step of the hash: a word is mixed in. -/
def mix (h : UInt64) (word : Nat) : UInt64 :=
  (h ^^^ UInt64.ofNat word) * 1099511628211

/-! ## Forward -/

/-- A transition: its bytes and the number of the state that it leads to. -/
structure Transition where
  bytes : ByteRange
  next : Nat
deriving Repr, DecidableEq, BEq, Inhabited

/-- A node whose transitions are not all known: those that are, and the bytes of the one that
is being followed. -/
structure OpenNode where
  known : List Transition
  pending : Option ByteRange
deriving Repr, Inhabited

/-- The layout of a class so far: its size together with what is before it, and the states
that the table remembers. -/
structure ForwardLayout where
  size : Size
  table : Std.HashMap UInt64 (List Transition × Nat)

namespace ForwardLayout

/-- The number of slots of the table. -/
def slots : UInt64 := 10000

/-- The slot of some transitions in the table. -/
def slotOf (ts : List Transition) : UInt64 :=
  ts.foldl (fun h t => mix (mix (mix h t.bytes.1) t.bytes.2) t.next) hashStart % slots

/-- Makes a state with some transitions. -/
def make (f : ForwardLayout) (slot : UInt64) (ts : List Transition) : Nat × ForwardLayout :=
  let fresh := f.size.states
  (fresh, ⟨f.size.add ⟨1, ts.length * transitionSize⟩, f.table.insert slot (ts, fresh)⟩)

/-- The state with some transitions: the one that the table remembers, or a new one. -/
def state (f : ForwardLayout) (ts : List Transition) : Nat × ForwardLayout :=
  let slot := slotOf ts
  match f.table[slot]? with
  | some (known, id) => if known = ts then (id, f) else f.make slot ts
  | none => f.make slot ts

/-- All transitions of a node whose pending one leads to a state. -/
def settle (node : OpenNode) (next : Nat) : List Transition :=
  match node.pending with
  | some bytes => node.known ++ [⟨bytes, next⟩]
  | none => node.known

/-- Makes the states of all nodes below the first of a path, and gives the transitions of the
first.  The last one leads to the state `target`. -/
def close (target : Nat) (f : ForwardLayout) : List OpenNode → List Transition × ForwardLayout
  | [] => ([], f)
  | [node] => (settle node target, f)
  | node :: deeper =>
      let (ts, f) := close target f deeper
      let (id, f) := f.state ts
      (settle node id, f)

/-- The nodes of a sequence none of which is shared. -/
def freshNodes (rs : List ByteRange) : List OpenNode := rs.map fun r => ⟨[], some r⟩

/-- Follows a sequence from the first node of the path on; leaves the path where it differs
from the sequence before. -/
def follow (target : Nat) (f : ForwardLayout) : List ByteRange → List OpenNode →
    List OpenNode × ForwardLayout
  | [], path => (path, f)
  | rs, [] => (freshNodes rs, f)
  | r :: rs, node :: deeper =>
      if node.pending = some r then
        let (path, f) := follow target f rs deeper
        (node :: path, f)
      else
        let (ts, f) := close target f (node :: deeper)
        (⟨ts, some r⟩ :: freshNodes rs, f)

/-- Lays out a class after some states. -/
def layOut (before : Size) (sequences : List (List ByteRange)) : Size :=
  let target := before.states
  let start : List OpenNode × ForwardLayout :=
    ([⟨[], none⟩], ⟨before.add (.plain 1), ∅⟩)
  let (path, f) := sequences.foldl (fun (path, f) s => follow target f s path) start
  let (ts, f) := close target f path
  (f.state ts).2.size

end ForwardLayout

/-! ## Backward -/

/-- The layout of a class so far: its size together with what is before it, and the states
that the table remembers, each by its bytes and the state that it leads to. -/
structure BackwardLayout where
  size : Size
  table : Std.HashMap UInt64 (Transition × Nat)

namespace BackwardLayout

/-- The number of slots of the table. -/
def slots : UInt64 := 1000

/-- The slot of a transition in the table. -/
def slotOf (t : Transition) : UInt64 :=
  mix (mix (mix hashStart t.next) t.bytes.1) t.bytes.2 % slots

/-- Makes a state that reads some bytes and leads to another. -/
def make (f : BackwardLayout) (slot : UInt64) (t : Transition) : Nat × BackwardLayout :=
  let fresh := f.size.states
  (fresh, ⟨f.size.add (.plain 1), f.table.insert slot (t, fresh)⟩)

/-- The state that reads some bytes and leads to another: the one that the table remembers,
or a new one. -/
def state (f : BackwardLayout) (t : Transition) : Nat × BackwardLayout :=
  let slot := slotOf t
  match f.table[slot]? with
  | some (known, id) => if known = t then (id, f) else f.make slot t
  | none => f.make slot t

/-- Lays out a sequence that leads to the state `target`. -/
def follow (target : Nat) (f : BackwardLayout) : List ByteRange → BackwardLayout
  | [] => f
  | r :: rs =>
      let (id, f) := f.state ⟨r, target⟩
      follow id f rs

/-- Lays out a class after some states. -/
def layOut (before : Size) (sequences : List (List ByteRange)) : Size :=
  let target := before.states + 1
  let start : BackwardLayout :=
    ⟨(before.add (.fork sequences.length)).add (.plain 1), ∅⟩
  (sequences.foldl (follow target) start).size

end BackwardLayout

end CallAtlas.Regex
