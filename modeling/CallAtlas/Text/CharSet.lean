/-
# `CallAtlas.Text.CharSet` — sets of characters as ranges of code points

A set of characters is a list of closed ranges of code points.  The
operations keep the list ascending with gaps between its ranges, so a
complement is read off the gaps and a union is a merge.  Ranges may run
across the surrogate gap: no character lies there, so membership does not
see it.

Tables of a standard are written as lines of text and read by
`CharSet.ofTable`: code points in hexadecimal, `41-5A` for a range,
`100-12E/2` for every second code point of one.
-/

namespace CallAtlas

/-- A set of characters: the code points of some ranges, both ends included. -/
structure CharSet where
  ranges : List (Nat × Nat)
deriving Repr, DecidableEq, Inhabited

namespace CharSet

/-- The largest code point. -/
def lastCode : Nat := 0x10FFFF

/-- Whether a code point lies in one of the ranges. -/
def hasCode (s : CharSet) (n : Nat) : Bool :=
  s.ranges.any fun r => r.1 ≤ n && n ≤ r.2

/-- Membership of a character. -/
def contains (s : CharSet) (c : Char) : Bool :=
  s.hasCode c.toNat

/-- Merges a range into ascending ranges that start no earlier than it. -/
def absorb (lo hi : Nat) : List (Nat × Nat) → List (Nat × Nat)
  | [] => [(lo, hi)]
  | (a, b) :: rest =>
      if a ≤ hi + 1 then absorb lo (max hi b) rest else (lo, hi) :: absorb a b rest

/-- The set of some ranges in any order, put into ascending form. -/
def ofRanges (rs : List (Nat × Nat)) : CharSet :=
  match (rs.filter fun r => r.1 ≤ r.2).mergeSort (fun a b => a.1 ≤ b.1) with
  | [] => ⟨[]⟩
  | (lo, hi) :: rest => ⟨absorb lo hi rest⟩

/-- No character. -/
def empty : CharSet := ⟨[]⟩

/-- Every character. -/
def all : CharSet := ⟨[(0, lastCode)]⟩

/-- One character. -/
def singleton (c : Char) : CharSet := ⟨[(c.toNat, c.toNat)]⟩

/-- The characters from `lo` to `hi`. -/
def range (lo hi : Char) : CharSet := ofRanges [(lo.toNat, hi.toNat)]

/-- Characters of either set. -/
def union (s t : CharSet) : CharSet := ofRanges (s.ranges ++ t.ranges)

/-- Characters of any of the sets. -/
def unions (ss : List CharSet) : CharSet := ofRanges (ss.flatMap (·.ranges))

/-- The gaps between ascending ranges, from code point `start` on. -/
def gaps (start : Nat) : List (Nat × Nat) → List (Nat × Nat)
  | [] => if start ≤ lastCode then [(start, lastCode)] else []
  | (a, b) :: rest => if start < a then (start, a - 1) :: gaps (b + 1) rest else gaps (b + 1) rest

/-- Every other character. -/
def compl (s : CharSet) : CharSet := ⟨gaps 0 s.ranges⟩

/-- Characters of both sets. -/
def inter (s t : CharSet) : CharSet := (s.compl.union t.compl).compl

/-- Characters of `s` outside `t`. -/
def diff (s t : CharSet) : CharSet := s.inter t.compl

/-- Characters of exactly one of the sets. -/
def symmDiff (s t : CharSet) : CharSet := (s.diff t).union (t.diff s)

/-- Whether only ASCII characters are in the set. -/
def isAscii (s : CharSet) : Bool := s.ranges.all fun r => r.2 < 128

/-- The value of a hexadecimal digit; anything else counts nothing. -/
def hexValue (c : Char) : Nat :=
  if '0' ≤ c ∧ c ≤ '9' then c.toNat - '0'.toNat
  else if 'A' ≤ c ∧ c ≤ 'F' then c.toNat - 'A'.toNat + 10
  else if 'a' ≤ c ∧ c ≤ 'f' then c.toNat - 'a'.toNat + 10
  else 0

/-- The number that hexadecimal digits stand for. -/
def hexNumber (digits : String) : Nat :=
  digits.toList.foldl (fun n c => 16 * n + hexValue c) 0

/-- The code points of one table entry, as ranges. -/
def entryRanges (entry : String) : List (Nat × Nat) :=
  match entry.splitOn "-" with
  | [one] => let n := hexNumber one; [(n, n)]
  | [lo, hi] =>
      match hi.splitOn "/" with
      | [last, step] =>
          let a := hexNumber lo
          let d := hexNumber step
          (List.range ((hexNumber last - a) / d + 1)).map fun i => (a + i * d, a + i * d)
      | _ => [(hexNumber lo, hexNumber hi)]
  | _ => []

/-- The ranges of a line of entries, with a blank between each two. -/
def lineRanges (line : String) : List (Nat × Nat) :=
  (line.splitOn " ").flatMap entryRanges

/-- Reads one line of a table. -/
def ofText (line : String) : CharSet := ofRanges (lineRanges line)

/-- Reads a table of several lines. -/
def ofTable (lines : List String) : CharSet := ofRanges (lines.flatMap lineRanges)

end CharSet

end CallAtlas
