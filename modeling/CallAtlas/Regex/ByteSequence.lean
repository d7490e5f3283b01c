/-
# `CallAtlas.Regex.ByteSequence` — sets of characters as sequences of byte ranges

An automaton reads text byte by byte, in UTF-8.  The characters of a set are
the texts of some sequences of byte ranges: one range for each byte.  The
sequences of a set come in ascending order and are as few as possible.
-/
import CallAtlas.Text.CharSet

namespace CallAtlas.Regex

/-- The bytes from one to another. -/
abbrev ByteRange := Nat × Nat

/-- The sequences of digit ranges, base 64 after the first digit, that stand for the numbers
from `lo` to `hi` written with `k` digits after the first. -/
def digitRanges : (k : Nat) → (lo hi : Nat) → List (List (Nat × Nat))
  | 0, lo, hi => [[(lo, hi)]]
  | k + 1, lo, hi =>
      let m := Nat.pow 64 (k + 1)
      let a := lo / m
      let b := hi / m
      if a = b then (digitRanges k (lo % m) (hi % m)).map ((a, a) :: ·)
      else
        let first := if lo % m = 0 then [] else (digitRanges k (lo % m) (m - 1)).map ((a, a) :: ·)
        let last := if hi % m = m - 1 then [] else (digitRanges k 0 (hi % m)).map ((b, b) :: ·)
        let from' := if lo % m = 0 then a else a + 1
        let to' := if hi % m = m - 1 then b + 1 else b
        let middle :=
          if from' < to' then [(from', to' - 1) :: List.replicate (k + 1) (0, 63)] else []
        first ++ middle ++ last

/-- Code points whose encodings have one length. -/
structure EncodingBlock where
  first : Nat
  last : Nat
  /-- the number of bytes after the first -/
  more : Nat
  /-- what the first byte adds to the first digit -/
  lead : Nat

/-- The blocks of code points of one encoded length; surrogates are in none. -/
def encodingBlocks : List EncodingBlock :=
  [⟨0, 0x7F, 0, 0⟩, ⟨0x80, 0x7FF, 1, 0xC0⟩, ⟨0x800, 0xD7FF, 2, 0xE0⟩, ⟨0xE000, 0xFFFF, 2, 0xE0⟩,
   ⟨0x10000, 0x10FFFF, 3, 0xF0⟩]

/-- The byte ranges of a sequence of digit ranges. -/
def toBytes (lead : Nat) : List (Nat × Nat) → List ByteRange
  | [] => []
  | d :: rest => (lead + d.1, lead + d.2) :: rest.map fun e => (0x80 + e.1, 0x80 + e.2)

/-- The byte sequences of a set. -/
def byteSequences (s : CharSet) : List (List ByteRange) :=
  s.ranges.flatMap fun r =>
    encodingBlocks.flatMap fun block =>
      let lo := max r.1 block.first
      let hi := min r.2 block.last
      if lo ≤ hi then (digitRanges block.more lo hi).map (toBytes block.lead) else []

/-- The number of bytes of a character, by its code. -/
def byteCount (n : Nat) : Nat :=
  if n < 0x80 then 1 else if n < 0x800 then 2 else if n < 0x10000 then 3 else 4

/-- The bytes of some characters. -/
def encodeAll (cs : List Char) : List Nat :=
  cs.flatMap fun c => (String.utf8EncodeChar c).map UInt8.toNat

end CallAtlas.Regex
